import AuditTrail.Cli.Help

/-!
# The report program's command line

```
wh-audit-report [--config <CONFIG>] [--page-size <PAGE_SIZE>] <COMMAND>
  activity [DAYS]
  user <NAME> [PAGE]
  show <ID>
  recent [PAGE] [--action <ACTION>] [--actor <ACTOR>] [--target-resource <TARGET_RESOURCE>]
         [--search <SEARCH>]
  example-config
  help [COMMAND]...
```

The program's options come before the command, and the page size falls back on the variable
`WAREHOUSE_REPORT_PAGE_SIZE`. Counts are unsigned 32-bit numbers.

The arguments are read left to right:

* an option takes the next argument as its value, or the part after `=` in `--name=value`;
  an argument starting with `-` is never a value, except `-` alone;
* `--` ends the options: what follows is read as positional arguments;
* `-h` or `--help` asks for the help page of the command being read;
* the first positional argument of the program names the command, and the rest belong to it;
  `help` names the command whose help page is wanted instead.

A value is checked when the next argument that is not a plain value is met, or at the end:
first that it was given, then that its option was not given before, then that it reads. An
unknown option or a surplus positional argument stops reading at once, and then a value still
unchecked goes unchecked. After the command's arguments the program's own pending value is
checked, then the variable is read, and last the required arguments are looked for.

A usage error is reported by the first line of its message, here without the leading
`error: `.

## Main definitions

* `Command`, `Invocation`, `Parsed`
* `parseArgs`
-/

namespace AuditTrail

namespace Cli

/-- A report the program is asked for. -/
inductive Command where
  | activity (days : Option Nat)
  | user (name : String) (page : Option Nat)
  | show (id : String)
  | recent (page : Option Nat) (action actor targetResource search : Option String)
  | exampleConfig
  deriving Repr

/-- A command line that reads. -/
structure Invocation where
  config : Option String := none
  pageSize : Option Nat := none
  command : Command
  deriving Repr

/-- What reading the command line decides. -/
inductive Parsed where
  /-- Run a command. -/
  | run (inv : Invocation)
  /-- Print a help page and stop. -/
  | help (text : String)
  /-- A usage error, by its message. -/
  | usage (message : String)
  /-- No arguments at all: the help page, shown as an error. -/
  | bare (text : String)
  deriving Repr

/-! ### Arguments and values -/

/-- How an argument's value reads. -/
inductive ValueKind where
  /-- A file path: any text but the empty one. -/
  | path
  /-- An unsigned 32-bit count. -/
  | count
  /-- Any text. -/
  | text
  deriving DecidableEq, Repr

/-- An argument that takes a value. -/
structure Arg where
  /-- `--name` for an option, `""` for a positional argument. -/
  long : String
  valueName : String
  kind : ValueKind
  required : Bool := false
  deriving DecidableEq, Repr

/-- How an argument is shown in messages. -/
def Arg.display (a : Arg) : String :=
  if a.long.isEmpty then
    if a.required then "<" ++ a.valueName ++ ">" else "[" ++ a.valueName ++ "]"
  else "--" ++ a.long ++ " <" ++ a.valueName ++ ">"

/-- A value as read. -/
inductive ArgValue where
  | text (s : String)
  | count (n : Nat)
  deriving Repr

/-- A signed 64-bit integer in decimal with an optional sign, read digit by digit: the first
failure is reported, an overflow as soon as it happens. -/
def readSigned (s : String) : Except String Int :=
  let cs := s.toList
  let (negative, ds) := match cs with
    | '-' :: r => (true, r)
    | '+' :: r => (false, r)
    | r => (false, r)
  if cs.isEmpty then .error "cannot parse integer from empty string"
  else if ds.isEmpty then .error "invalid digit found in string"
  else
    let limit : Nat := if negative then Nat.pow 2 63 else Nat.pow 2 63 - 1
    let step (acc : Except String Nat) (c : Char) : Except String Nat := do
      let n ← acc
      if !c.isDigit then .error "invalid digit found in string"
      else
        let n := n * 10 + (c.toNat - '0'.toNat)
        if n > limit then
          .error (if negative then "number too small to fit in target type"
            else "number too large to fit in target type")
        else .ok n
    match ds.foldl step (.ok 0) with
    | .ok n => .ok (if negative then -(n : Int) else n)
    | .error e => .error e

/-- The message of a missing value. -/
def emptyValue (a : Arg) : String :=
  "a value is required for '" ++ a.display ++ "' but none was supplied"

/-- Read an argument's value. -/
def readValue (a : Arg) (raw : String) : Except String ArgValue :=
  match a.kind with
  | .text => .ok (.text raw)
  | .path => if raw.isEmpty then .error (emptyValue a) else .ok (.text raw)
  | .count =>
    match readSigned raw with
    | .error why => .error ("invalid value '" ++ raw ++ "' for '" ++ a.display ++ "': " ++ why)
    | .ok n =>
      if 0 ≤ n ∧ n < Nat.pow 2 32 then .ok (.count n.toNat)
      else .error ("invalid value '" ++ toString n ++ "' for '" ++ a.display ++ "': " ++
        toString n ++ " is not in 0..=4294967295")

/-! ### Reading state -/

/-- The values read so far, an argument waiting for its value or holding an unchecked one, and
whether `--` was met. -/
structure Matches where
  values : List (String × ArgValue) := []
  pending : Option (Arg × Option String) := none
  trailing : Bool := false
  nextPositional : Nat := 0

namespace Matches

/-- Record a value: it must not be given twice, and must read. -/
def accept (m : Matches) (a : Arg) (raw : String) : Except String Matches := do
  if m.values.any (·.1 == a.display) then
    .error ("the argument '" ++ a.display ++ "' cannot be used multiple times")
  let v ← readValue a raw
  pure { m with values := m.values ++ [(a.display, v)] }

/-- Check the pending value, if any. -/
def resolve (m : Matches) : Except String Matches :=
  match m.pending with
  | none => .ok m
  | some (a, none) => .error (emptyValue a)
  | some (a, some raw) => { m with pending := none }.accept a raw

/-- Whether an argument waits for its value. -/
def waiting (m : Matches) : Bool :=
  match m.pending with
  | some (_, none) => true
  | _ => false

def text? (m : Matches) (a : Arg) : Option String :=
  match m.values.lookup a.display with
  | some (.text s) => some s
  | _ => none

def count? (m : Matches) (a : Arg) : Option Nat :=
  match m.values.lookup a.display with
  | some (.count n) => some n
  | _ => none

end Matches

/-- An argument as the command line writes it. -/
inductive Token where
  | escape
  | long (name : String) (value : Option String)
  | short (c : Char)
  | plain (s : String)

def Token.classify (t : String) : Token :=
  if t == "--" then .escape
  else if t.startsWith "--" then
    match (String.ofList (t.toList.drop 2)).splitOn "=" with
    | [name] => .long name none
    | name :: rest => .long name (some ("=".intercalate rest))
    | [] => .long "" none
  else if t.startsWith "-" && t.length > 1 then .short ((t.toList.drop 1).headD '-')
  else .plain t

/-- Why reading stops early. -/
inductive Stop where
  | help
  | error (message : String)
  | command (name : String) (rest : List String) (program : Matches)
  | helpFor (rest : List String)

def unexpected (t : String) : Stop := .error ("unexpected argument '" ++ t ++ "' found")

/-- Take an option: check what is pending, then read an attached value now or wait for one. -/
def takeOption (m : Matches) (a : Arg) (attached : Option String) : Except Stop Matches := do
  let m ← m.resolve.mapError Stop.error
  match attached with
  | some v => ({ m with pending := none }.accept a v).mapError Stop.error
  | none => pure { m with pending := some (a, none) }

/-! ### Subcommands -/

/-- The positional arguments and options of a command. -/
structure Spec where
  positionals : List Arg := []
  options : List Arg := []

def daysArg : Arg := { long := "", valueName := "DAYS", kind := .count }
def nameArg : Arg := { long := "", valueName := "NAME", kind := .text, required := true }
def pageArg : Arg := { long := "", valueName := "PAGE", kind := .count }
def idArg : Arg := { long := "", valueName := "ID", kind := .text, required := true }
def actionArg : Arg := { long := "action", valueName := "ACTION", kind := .text }
def actorArg : Arg := { long := "actor", valueName := "ACTOR", kind := .text }
def targetArg : Arg := { long := "target-resource", valueName := "TARGET_RESOURCE", kind := .text }
def searchArg : Arg := { long := "search", valueName := "SEARCH", kind := .text }
def configArg : Arg := { long := "config", valueName := "CONFIG", kind := .path }
def pageSizeArg : Arg := { long := "page-size", valueName := "PAGE_SIZE", kind := .count }

/-- The commands and their arguments; `help` is handled apart. -/
def commandSpec? : String → Option Spec
  | "activity" => some { positionals := [daysArg] }
  | "user" => some { positionals := [nameArg, pageArg] }
  | "show" => some { positionals := [idArg] }
  | "recent" => some { positionals := [pageArg], options := [actionArg, actorArg, targetArg, searchArg] }
  | "example-config" => some {}
  | _ => none

def isCommandName (s : String) : Bool := (commandSpec? s).isSome || s == "help"

/-- A positional argument of a command. -/
def takePositional (spec : Spec) (m : Matches) (t : String) : Except Stop Matches := do
  match spec.positionals[m.nextPositional]? with
  | some a =>
    let m ← m.resolve.mapError Stop.error
    pure { m with pending := some (a, some t), nextPositional := m.nextPositional + 1 }
  | none => .error (unexpected t)

/-- Read a command's arguments. -/
def scanCommand (spec : Spec) : List String → Matches → Except Stop Matches
  | [], m => pure m
  | t :: ts, m =>
    if m.trailing then do scanCommand spec ts (← takePositional spec m t)
    else
      match Token.classify t with
      | .plain s =>
        if m.waiting then
          scanCommand spec ts { m with pending := m.pending.map fun (a, _) => (a, some s) }
        else do scanCommand spec ts (← takePositional spec m s)
      | .escape => scanCommand spec ts { m with trailing := true }
      | .long "help" none => do
        let _ ← m.resolve.mapError Stop.error
        .error .help
      | .long "help" (some v) =>
        .error (.error ("unexpected value '" ++ v ++ "' for '--help' found; no more were expected"))
      | .long name attached =>
        match spec.options.find? (·.long == name) with
        | some a => do scanCommand spec ts (← takeOption m a attached)
        | none => .error (unexpected ("--" ++ name))
      | .short 'h' => do
        let _ ← m.resolve.mapError Stop.error
        .error .help
      | .short c => .error (unexpected (String.ofList ['-', c]))

/-- The checks at the end of a command's arguments. -/
def finishCommand (spec : Spec) (m : Matches) : Except String Matches := do
  let m ← m.resolve
  if spec.positionals.any fun a => a.required && (m.values.lookup a.display).isNone then
    .error "the following required arguments were not provided:"
  pure m

/-- The report a command's arguments ask for. -/
def commandOf (name : String) (m : Matches) : Command :=
  match name with
  | "activity" => .activity (m.count? daysArg)
  | "user" => .user ((m.text? nameArg).getD "") (m.count? pageArg)
  | "show" => .show ((m.text? idArg).getD "")
  | "recent" => .recent (m.count? pageArg) (m.text? actionArg) (m.text? actorArg)
      (m.text? targetArg) (m.text? searchArg)
  | _ => .exampleConfig

/-! ### The program's arguments -/

def programOptions : List Arg := [configArg, pageSizeArg]

/-- Read the program's arguments up to the command. -/
def scanProgram : List String → Matches → Except Stop Matches
  | [], m => pure m
  | t :: ts, m =>
    if m.trailing then
      if isCommandName t then .error (unexpected t)
      else .error (.error ("unrecognized subcommand '" ++ t ++ "'"))
    else
      match Token.classify t with
      | .plain s =>
        if m.waiting then
          scanProgram ts { m with pending := m.pending.map fun (a, _) => (a, some s) }
        else if s == "help" then .error (.helpFor ts)
        else if isCommandName s then .error (.command s ts m)
        else .error (.error ("unrecognized subcommand '" ++ s ++ "'"))
      | .escape => scanProgram ts { m with trailing := true }
      | .long "help" none => do
        let _ ← m.resolve.mapError Stop.error
        .error .help
      | .long "help" (some v) =>
        .error (.error ("unexpected value '" ++ v ++ "' for '--help' found; no more were expected"))
      | .long name attached =>
        match programOptions.find? (·.long == name) with
        | some a => do scanProgram ts (← takeOption m a attached)
        | none => .error (unexpected ("--" ++ name))
      | .short 'h' => do
        let _ ← m.resolve.mapError Stop.error
        .error .help
      | .short c => .error (unexpected (String.ofList ['-', c]))

/-- The checks of the program's arguments once its command is read: the pending value, then the
page-size variable when no page size was given. -/
def finishProgram (m : Matches) (pageSizeEnv : Option String) : Except String Matches := do
  let m ← m.resolve
  match pageSizeEnv with
  | some raw =>
    if (m.values.lookup pageSizeArg.display).isSome then pure m
    else
      let v ← readValue pageSizeArg raw
      pure { m with values := m.values ++ [(pageSizeArg.display, v)] }
  | none => pure m

/-- The help page that `help` followed by these arguments shows. -/
def helpFor (pageSizeEnv : Option String) : List String → Parsed
  | [] => .help (topHelp pageSizeEnv)
  | [name] =>
    match subcommandHelp name with
    | some text => .help text
    | none => .usage ("unrecognized subcommand '" ++ name ++ "'")
  | name :: next :: _ =>
    if (subcommandHelp name).isSome then .usage ("unrecognized subcommand '" ++ next ++ "'")
    else .usage ("unrecognized subcommand '" ++ name ++ "'")

/-- Read the command line, given the value of the page-size variable. -/
def parseArgs (args : List String) (pageSizeEnv : Option String) : Parsed :=
  match scanProgram args {} with
  | .error .help => .help (topHelp pageSizeEnv)
  | .error (.error msg) => .usage msg
  | .error (.helpFor rest) => helpFor pageSizeEnv rest
  | .error (.command name rest top) =>
    let spec := (commandSpec? name).getD {}
    match scanCommand spec rest {} with
    | .error .help => .help ((subcommandHelp name).getD "")
    | .error (.error msg) => .usage msg
    | .error _ => .usage "unexpected state"
    | .ok sub =>
      match finishCommand spec sub with
      | .error msg => .usage msg
      | .ok sub =>
        match finishProgram top pageSizeEnv with
        | .error msg => .usage msg
        | .ok top =>
          .run { config := top.text? configArg, pageSize := top.count? pageSizeArg,
                 command := commandOf name sub }
  | .ok m =>
    match finishProgram m pageSizeEnv with
    | .error msg => .usage msg
    | .ok m =>
      if m.values.isEmpty then .bare (topHelp pageSizeEnv)
      else .usage ("'" ++ programName ++ "' requires a subcommand but one was not provided")

end Cli

end AuditTrail
