import AuditTrail.Cli.Args
import AuditTrail.Config.Loader
import AuditTrail.Log.Filter
import AuditTrail.Store.Service
import AuditTrail.Store.Activity
import AuditTrail.Json.Writer

/-!
# Running the report program

A run of the program, as a function of its arguments, its environment, the paths it can see and
the time:

1. Logging starts: the format comes from `LOG_FORMAT` and the filter from `RUST_LOG`, and a
   debug record says so.
2. The command line is read; a help page or a usage error ends the run here.
3. `example-config` prints the example configuration.
4. The configuration is loaded.
5. The store client is made from the configured address, and a record says the store is
   connected; no connection is made yet.
6. When the configuration asks for it, the store's indexes are created.
7. The report runs, and its JSON is printed indented.

Every failure after the command line ends the run with exit code 1 and the line
`Error: <message>` on the error stream; a usage error ends it with exit code 2. The store here
is the remote collection, so every report that reaches it fails with a database error; what the
run shows up to that point is exact.

## Main definitions

* `Outcome`, `Failure`
* `storeAddressError?` — the client's check of a store address
* `run`
-/

namespace AuditTrail

namespace Cli

/-- What a run shows: its exit code, what it printed, its log records in the order written and
the format they are printed in. -/
structure Outcome where
  exitCode : Nat
  stdout : String := ""
  stderr : String := ""
  logs : List LogRecord := []
  format : LogFormat := .text

/-- Why a run failed after reading its command line. -/
inductive Failure where
  | config (e : ConfigError)
  /-- The store client refused the configured address. -/
  | client (detail : String)
  | audit (e : AuditError)
  | notFound (id : String)
  /-- Clock arithmetic left the calendar's range, which aborts the program. -/
  | clock

namespace Failure

def exitCode : Failure → Nat
  | .clock => 101
  | _ => 1

/-- The error stream's text. -/
def text : Failure → String
  | .config e => "Error: " ++ e.message ++ "\n"
  | .client d => "Error: Kind: " ++ d ++ "\n"
  | .audit e => "Error: " ++ e.message ++ "\n"
  | .notFound id => "Error: Audit record not found: " ++ id ++ "\n"
  | .clock => "thread 'main' panicked: `DateTime - TimeDelta` overflowed\n"

end Failure

/-- Why the store client refuses an address, if it does: the address must start with
`mongodb://` and name at least one host, each with at most a port of 1 to 65535 digits' value;
a `mongodb+srv://` address is refused, as the program resolves no service records. -/
def storeAddressError? (uri : String) : Option String :=
  if uri.startsWith "mongodb+srv://" then
    some "An error occurred during DNS resolution: no service records found"
  else if !uri.startsWith "mongodb://" then
    some "An invalid argument was provided: connection string contains no scheme"
  else
    let rest := String.ofList (uri.toList.drop "mongodb://".length)
    let hostPart := (rest.splitOn "/").headD ""
    let hostPart := (hostPart.splitOn "?").headD ""
    let hostPart := (hostPart.splitOn "@").getLast?.getD ""
    let hosts := hostPart.splitOn ","
    let badHost (h : String) : Bool :=
      match h.splitOn ":" with
      | [name] => name.isEmpty
      | [name, port] =>
        name.isEmpty || port.isEmpty || !port.all Char.isDigit ||
          (let n := port.toList.foldl (fun n c => n * 10 + (c.toNat - '0'.toNat)) 0
           n == 0 || n > 65535)
      | _ => false
    if hostPart.isEmpty then some "An invalid argument was provided: no hosts specified"
    else if hosts.any badHost then some "An invalid argument was provided: invalid host or port"
    else none

/-! ### Reports -/

/-- The JSON of an activity report. -/
def countsReport (c : ActivityCounts) : Json :=
  .obj [("created", .int c.created), ("updated", .int c.updated), ("deleted", .int c.deleted),
    ("window_days", .int c.windowDays)]

/-- The JSON of a page of records. -/
def pageReport (p : Page) : Json :=
  .obj [("events", .arr (p.records.map Record.toJson)), ("total", .int p.total),
    ("page", .int p.page), ("page_size", .int p.pageSize)]

/-- Run a report against the store. -/
def report (cmd : Command) (pageSize : Option Nat) : Audit (Except Failure Json) :=
  match cmd with
  | .activity days => do return .ok (countsReport (← Audit.activityCounts days))
  | .user name page => do return .ok (pageReport (← Audit.activity name page pageSize))
  | .show id => do
    match ← Audit.get id with
    | some r => return .ok r.toJson
    | none => return .error (.notFound id)
  | .recent page action actor targetResource search => do
    let action ← match action with
      | some a => some <$> Audit.check (Action.parse a)
      | none => pure none
    let q : Query := { action, actor, targetResource, search }
    return .ok (pageReport (← Audit.list q page pageSize))
  | .exampleConfig => pure (.ok (.str AppConfig.exampleText))

/-! ### The run -/

/-- The record that opens every run. -/
def loggingStarted : LogRecord :=
  { level := .debug, target := "wh_common::logging", message := "Logging initialized",
    fields := [("service", .text programName)] }

/-- The record that the store client is ready. -/
def storeConnected (c : AppConfig) : LogRecord :=
  { level := .info, target := "wh_audit_report", message := "Connected to MongoDB",
    fields := [("database", .text c.store.database), ("collection", .text c.audit.collection)] }

/-- Run the program with its arguments, environment, view of paths and time. -/
def run (args : List String) (env : String → Option String) (probe : String → PathKind)
    (now : Instant) : Outcome :=
  let format := LogFormat.ofSetting ((env "LOG_FORMAT").getD "")
  let filter := LogFilter.ofSetting (env "RUST_LOG")
  let written (rs : List LogRecord) : List LogRecord := rs.filter filter.allows
  let base : Outcome := { exitCode := 0, format, logs := written [loggingStarted] }
  let failed (o : Outcome) (f : Failure) : Outcome :=
    { o with exitCode := f.exitCode, stderr := f.text }
  match parseArgs args (env "WAREHOUSE_REPORT_PAGE_SIZE") with
  | .help text => { base with stdout := text }
  | .usage msg => { base with exitCode := 2, stderr := "error: " ++ msg ++ "\n" }
  | .bare text => { base with exitCode := 2, stderr := text }
  | .run inv =>
    match inv.command with
    | .exampleConfig => { base with stdout := AppConfig.exampleText ++ "\n" }
    | cmd =>
      let (notes, loaded) := loadConfig probe inv.config env
      let base := { base with logs := base.logs ++ written notes }
      match loaded with
      | .error e => failed base (.config e)
      | .ok config =>
        match storeAddressError? config.store.uri with
        | some d => failed base (.client d)
        | none =>
          let session : Session :=
            { config := config.audit, backend := .remote config.audit.collection, clock := now }
          let program : Audit (Except Failure Json) := do
            if config.audit.ensureIndexes then Audit.ensureIndexes
            report cmd inv.pageSize
          let (result, journal) : Except Failure Json × List LogRecord :=
            match program.run session with
            | .ok r s => (r, s.journal)
            | .error (.failed e) s => (.error (.audit e), s.journal)
            | .error .clockOverflow s => (.error .clock, s.journal)
          let base := { base with logs := base.logs ++ written (storeConnected config :: journal) }
          match result with
          | .ok j => { base with stdout := Json.renderPretty 0 j ++ "\n" }
          | .error f => failed base f

end Cli

end AuditTrail
