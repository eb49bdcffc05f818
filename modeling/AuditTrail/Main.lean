import AuditTrail.Cli.Run
import Std.Time.DateTime.Timestamp

/-!
# The report program

The executable around `Cli.run`: it reads the variables the program knows, looks at every path
the run may ask about (the arguments, `WAREHOUSE_CONFIG` and the standard locations), reads the
clock, and then prints what the run shows: the log records on standard output, each after the
time of writing, then the program's output, and the error stream's text.
-/

open AuditTrail

/-- What a path names on the file system. -/
def probePath (path : String) : IO PathKind := do
  if path.isEmpty then return .missing
  try
    return .file (← IO.FS.readFile path)
  catch e =>
    match e with
    | .inappropriateType _ 21 _ => return .directory
    | .noFileOrDirectory .. => return .missing
    | .inappropriateType .. => return .missing
    | .permissionDenied .. => return .unreadable "Permission denied (os error 13)"
    | _ => return .unreadable "stream did not contain valid UTF-8"

/-- The current time. -/
def wallClock : IO Instant := do
  let t ← Std.Time.Timestamp.now
  return (Instant.ofNanos? t.toNanosecondsSinceUnixEpoch.val).getD Instant.epoch

/-- A log line as printed: the time of writing, then the record. -/
def logLine (format : LogFormat) (now : Instant) (r : LogRecord) : String :=
  match format with
  | .text => now.rfc3339 ++ " " ++ r.text
  | .json =>
    match r.toJson with
    | .obj fs => (Json.obj (("timestamp", .str now.rfc3339) :: fs)).render
    | j => j.render

def main (args : List String) : IO UInt32 := do
  let mut env : List (String × String) := []
  for k in environmentKeys do
    if let some v ← IO.getEnv k then env := env ++ [(k, v)]
  let candidates := args ++ (env.lookup "WAREHOUSE_CONFIG").toList ++ searchPaths
  let mut seen : List (String × PathKind) := []
  for p in candidates do
    if (seen.lookup p).isNone then seen := seen ++ [(p, ← probePath p)]
  let now ← wallClock
  let outcome := Cli.run args (fun k => env.lookup k) (fun p => (seen.lookup p).getD .missing) now
  let stdout ← IO.getStdout
  for r in outcome.logs do
    stdout.putStrLn (logLine outcome.format now r)
  stdout.putStr outcome.stdout
  stdout.flush
  let stderr ← IO.getStderr
  stderr.putStr outcome.stderr
  stderr.flush
  return outcome.exitCode.toUInt32
