import AuditTrail.Config.Basic
import AuditTrail.Toml.Reader
import AuditTrail.Log.Record

/-!
# Loading the configuration

The configuration starts from the defaults. If a configuration file is found, it replaces them:
the file named on the command line when that path exists, else the file named by
`WAREHOUSE_CONFIG` when that path exists, else the first that exists of `config.toml`,
`warehouse.toml`, `./config/config.toml`, `./config/warehouse.toml` and
`/etc/warehouse/config.toml`. A path that exists but is a directory is found all the same, and
then fails to read.

Environment variables override the settings, in this order: `WAREHOUSE_MONGODB_URI`,
`WAREHOUSE_MONGODB_DATABASE`, `WAREHOUSE_AUDIT_COLLECTION`, `WAREHOUSE_AUDIT_DEFAULT_PAGE_SIZE`,
`WAREHOUSE_AUDIT_MAX_PAGE_SIZE`, `WAREHOUSE_AUDIT_ACTIVITY_WINDOW_DAYS` and
`WAREHOUSE_AUDIT_ENSURE_INDEXES`. Texts are taken as they are; counts and the flag are trimmed
and then read as an unsigned 32-bit number (an optional `+` and decimal digits) or as exactly
`true` or `false`, and the first that does not read is reported with its value as given. Last,
the configuration is validated.

Paths are looked up through a probe that tells what each names. `Directory` gives one for a set
of files below the working directory, by relative path.
A path is resolved as the operating system does it: empty parts and `.` are skipped, `..` steps
up from a directory, and a path with a trailing slash names only a directory. Of absolute paths
only the root itself exists.

## Main definitions

* `Directory`, `Directory.probe`
* `findConfigFile`, `applyOverrides`, `loadConfig`
* `environmentKeys` — the variables the program reads
-/

namespace AuditTrail

/-- What a path names. -/
inductive PathKind where
  | file (text : String)
  | directory
  /-- Something that exists but cannot be read, for the given reason. -/
  | unreadable (reason : String)
  | missing
  deriving DecidableEq, Repr

/-- The files below the working directory, by relative path. -/
structure Directory where
  files : List (String × String) := []
  deriving Inhabited

namespace Directory

/-- The parts of a relative path after dropping empty parts and `.`, with `..` applied; `none`
when `..` leaves the working directory. -/
def resolve (parts : List String) : Option (List String) :=
  parts.foldl (fun acc part =>
    match acc with
    | none => none
    | some stack =>
      if part == "" || part == "." then some stack
      else if part == ".." then
        match stack with
        | [] => none
        | _ :: rest => some rest
      else some (part :: stack)) (some []) |>.map List.reverse

/-- The resolved parts of each file's path. -/
def entries (d : Directory) : List (List String × String) :=
  d.files.filterMap fun (p, text) => (resolve (p.splitOn "/")).map (·, text)

/-- Whether some file lies below the given parts, which then name a directory. -/
def holds (d : Directory) (parts : List String) : Bool :=
  d.entries.any fun (ps, _) => parts.length < ps.length && ps.take parts.length == parts

/-- Whether the parts of a path before each `..` name directories, as stepping up requires. -/
def stepsValid (d : Directory) (parts : List String) : Bool :=
  (parts.zipIdx.all fun (part, i) =>
    part != ".." ||
      match resolve (parts.take i) with
      | some prefixParts => prefixParts.isEmpty || d.holds prefixParts
      | none => false)

/-- What a path names in the directory. -/
def probe (d : Directory) (path : String) : PathKind :=
  if path.isEmpty then .missing
  else if path.startsWith "/" then
    if (path.splitOn "/").all fun p => p == "" || p == "." then .directory else .missing
  else
    let raw := path.splitOn "/"
    match resolve raw with
    | none => .missing
    | some parts =>
      if !d.stepsValid raw then .missing
      else if parts.isEmpty then .directory
      else match d.entries.find? (·.1 == parts) with
        | some (_, text) => if path.endsWith "/" then .missing else .file text
        | none => if d.holds parts then .directory else .missing

end Directory

/-- Whether a path names anything. -/
def PathKind.isPresent : PathKind → Bool
  | .missing => false
  | _ => true

/-- The environment variables that configure the program and its logging. -/
def environmentKeys : List String :=
  ["LOG_FORMAT", "RUST_LOG", "WAREHOUSE_REPORT_PAGE_SIZE", "WAREHOUSE_CONFIG",
   "WAREHOUSE_MONGODB_URI", "WAREHOUSE_MONGODB_DATABASE", "WAREHOUSE_AUDIT_COLLECTION",
   "WAREHOUSE_AUDIT_DEFAULT_PAGE_SIZE", "WAREHOUSE_AUDIT_MAX_PAGE_SIZE",
   "WAREHOUSE_AUDIT_ACTIVITY_WINDOW_DAYS", "WAREHOUSE_AUDIT_ENSURE_INDEXES"]

/-- The files looked for when none is named, in order. -/
def searchPaths : List String :=
  ["config.toml", "warehouse.toml", "./config/config.toml", "./config/warehouse.toml",
   "/etc/warehouse/config.toml"]

/-- The configuration file to read, if any, given what each path names. -/
def findConfigFile (probe : String → PathKind) (named : Option String)
    (lookup : String → Option String) : Option String :=
  let present (p : String) : Bool := (probe p).isPresent
  match named.filter present with
  | some p => some p
  | none =>
    match (lookup "WAREHOUSE_CONFIG").filter present with
    | some p => some p
    | none => searchPaths.find? present

/-- Read a configuration file. -/
def readConfigFile (probe : String → PathKind) (path : String) : Except ConfigError AppConfig :=
  match probe path with
  | .file text =>
    match TomlValue.parse? text >>= AppConfig.decode? with
    | some c => .ok c
    | none => .error (.parse "invalid configuration file")
  | .directory => .error (.read "Is a directory (os error 21)")
  | .unreadable reason => .error (.read reason)
  | .missing => .error (.read "No such file or directory (os error 2)")

/-- An unsigned 32-bit number as an override gives it: an optional `+` and decimal digits. -/
def readWord? (s : String) : Option Nat :=
  let ds := match s.toList with
    | '+' :: ds => ds
    | ds => ds
  if !ds.isEmpty && ds.all Char.isDigit then
    let n := ds.foldl (fun n c => n * 10 + (c.toNat - '0'.toNat)) 0
    if n < Nat.pow 2 32 then some n else none
  else none

/-- A flag as an override gives it. -/
def readFlag? (s : String) : Option Bool :=
  if s == "true" then some true else if s == "false" then some false else none

/-- Read an override's value, trimmed; the error names the variable and the value as given. -/
def readOverride {β : Type} (read : String → Option β) (key raw : String) : Except ConfigError β :=
  match read (trimBlank raw) with
  | some v => .ok v
  | none => .error (.env (key ++ " has an invalid value: " ++ raw))

/-- Apply the environment's overrides in order. -/
def applyOverrides (c : AppConfig) (lookup : String → Option String) : Except ConfigError AppConfig := do
  let mut c := c
  if let some v := lookup "WAREHOUSE_MONGODB_URI" then
    c := { c with store.uri := v }
  if let some v := lookup "WAREHOUSE_MONGODB_DATABASE" then
    c := { c with store.database := v }
  if let some v := lookup "WAREHOUSE_AUDIT_COLLECTION" then
    c := { c with audit.collection := v }
  if let some v := lookup "WAREHOUSE_AUDIT_DEFAULT_PAGE_SIZE" then
    let n ← readOverride readWord? "WAREHOUSE_AUDIT_DEFAULT_PAGE_SIZE" v
    c := { c with audit.defaultPageSize := n }
  if let some v := lookup "WAREHOUSE_AUDIT_MAX_PAGE_SIZE" then
    let n ← readOverride readWord? "WAREHOUSE_AUDIT_MAX_PAGE_SIZE" v
    c := { c with audit.maxPageSize := n }
  if let some v := lookup "WAREHOUSE_AUDIT_ACTIVITY_WINDOW_DAYS" then
    let n ← readOverride readWord? "WAREHOUSE_AUDIT_ACTIVITY_WINDOW_DAYS" v
    c := { c with audit.defaultActivityWindowDays := n }
  if let some v := lookup "WAREHOUSE_AUDIT_ENSURE_INDEXES" then
    let b ← readOverride readFlag? "WAREHOUSE_AUDIT_ENSURE_INDEXES" v
    c := { c with audit.ensureIndexes := b }
  return c

/-- Load the configuration: the log records written on the way, and the configuration or the
reason there is none. -/
def loadConfig (probe : String → PathKind) (named : Option String)
    (lookup : String → Option String) : List LogRecord × Except ConfigError AppConfig :=
  match findConfigFile probe named lookup with
  | some path =>
    let note : LogRecord :=
      { level := .info, target := "wh_config::loader", message := "Loading configuration from file",
        fields := [("path", .text (debugQuote path))] }
    ([note], do
      let c ← readConfigFile probe path
      let c ← applyOverrides c lookup
      c.validate
      return c)
  | none =>
    ([], do
      let c ← applyOverrides {} lookup
      c.validate
      return c)

end AuditTrail
