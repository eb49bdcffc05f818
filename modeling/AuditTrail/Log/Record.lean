import AuditTrail.Json.Basic
import AuditTrail.Text.Blank

/-!
# Log lines

A log record has a level, a target (the module that wrote it), a message and named fields. A
field holds either text, which is written as it is, or a count.

The text form of a record is `LEVEL target: message name=value …`, the level written in
capitals. The JSON form is an object with `level`, `target` and `message` beside the fields,
texts as strings and counts as numbers. Both forms leave out the time of writing, which the
program adds when it prints a line.

## Main definitions

* `Level`, `LogRecord`, `LogFormat`
* `LogRecord.text`, `LogRecord.toJson`
* `debugQuote` — the quoted form of a text used for paths
-/

namespace AuditTrail

/-- How important a record is, from most to least. -/
inductive Level where
  | error | warn | info | debug | trace
  deriving DecidableEq, Repr

namespace Level

/-- Verbosity rank: `error` is 1 and `trace` 5. -/
def rank : Level → Nat
  | error => 1
  | warn => 2
  | info => 3
  | debug => 4
  | trace => 5

def name : Level → String
  | error => "ERROR"
  | warn => "WARN"
  | info => "INFO"
  | debug => "DEBUG"
  | trace => "TRACE"

end Level

/-- How log lines are written: as text, or as one JSON object a line. -/
inductive LogFormat where
  | text
  | json
  deriving DecidableEq, Repr

/-- The format a setting asks for: JSON when the setting, trimmed, is `json` in any ASCII case,
and text otherwise. -/
def LogFormat.ofSetting (s : String) : LogFormat :=
  if (trimBlank s).toList.map Char.toLower == "json".toList then .json else .text

/-- The value of a field of a log record. -/
inductive LogValue where
  | text (s : String)
  | count (n : Nat)
  deriving Repr

/-- One log record. -/
structure LogRecord where
  level : Level
  target : String
  message : String
  fields : List (String × LogValue) := []
  deriving Repr

/-- A text in double quotes, with quotes, backslashes and control characters escaped; other
control characters are written as `\u{hex}`. -/
def debugQuote (s : String) : String :=
  let escape (c : Char) : List Char :=
    match c with
    | '"' => ['\\', '"']
    | '\\' => ['\\', '\\']
    | '\n' => ['\\', 'n']
    | '\r' => ['\\', 'r']
    | '\t' => ['\\', 't']
    | '\x00' => ['\\', '0']
    | c =>
      if c.toNat < 0x20 ∨ c.toNat = 0x7f then ['\\', 'u', '{'] ++ Nat.toDigits 16 c.toNat ++ ['}']
      else [c]
  String.ofList ('"' :: (s.toList.flatMap escape ++ ['"']))

namespace LogRecord

def valueText : LogValue → String
  | .text s => s
  | .count n => toString n

/-- The text form, without the time of writing. -/
def text (r : LogRecord) : String :=
  r.level.name ++ " " ++ r.target ++ ": " ++ r.message ++
    String.join (r.fields.map fun (k, v) => " " ++ k ++ "=" ++ valueText v)

/-- The JSON form, without the time of writing. -/
def toJson (r : LogRecord) : Json :=
  .obj ([("level", .str r.level.name), ("message", .str r.message), ("target", .str r.target)] ++
    r.fields.map fun (k, v) =>
      (k, match v with
        | .text s => .str s
        | .count n => .int n))

end LogRecord

end AuditTrail
