import AuditTrail.Json.Basic
import AuditTrail.Number.Shortest

/-!
# Writing JSON text

Compact output: no whitespace between tokens, fields in their stored order. A string escapes
the quote, the backslash and the control characters below `U+0020`; everything else is written
as itself. A double is written with the fewest digits that read back, always in a form that
reads as a fraction (`1.0`, not `1`), and the non-finite doubles, which JSON cannot express,
as `null`.

## Main definitions

* `Json.quote` — a string literal
* `Json.render` — the text of a value
* `Json.renderPretty` — the indented text of a value
-/

namespace AuditTrail

namespace Json

def hexDigit (n : Nat) : Char :=
  if n < 10 then Char.ofNat ('0'.toNat + n) else Char.ofNat ('a'.toNat + n - 10)

/-- The characters that stand for one character inside a string literal. -/
def escapeChar (c : Char) : List Char :=
  match c with
  | '"' => ['\\', '"']
  | '\\' => ['\\', '\\']
  | '\n' => ['\\', 'n']
  | '\r' => ['\\', 'r']
  | '\t' => ['\\', 't']
  | '\x08' => ['\\', 'b']
  | '\x0c' => ['\\', 'f']
  | c =>
    if c.toNat < 0x20 then ['\\', 'u', '0', '0', hexDigit (c.toNat / 16), hexDigit (c.toNat % 16)]
    else [c]

/-- A string literal for `s`. -/
def quote (s : String) : String :=
  String.ofList ('"' :: (s.toList.flatMap escapeChar ++ ['"']))

/-- The text of a double. -/
def renderFloat (x : Binary64) : String :=
  match x.shortest with
  | some d => d.render x.sign
  | none => "null"

mutual

/-- The compact text of a value. -/
def render : Json → String
  | .null => "null"
  | .bool true => "true"
  | .bool false => "false"
  | .int n => toString n
  | .float x => renderFloat x
  | .str s => quote s
  | .arr items => "[" ++ renderItems items ++ "]"
  | .obj fields => "\x7b" ++ renderFields fields ++ "\x7d"

def renderItems : List Json → String
  | [] => ""
  | [v] => render v
  | v :: rest => render v ++ "," ++ renderItems rest

def renderFields : List (String × Json) → String
  | [] => ""
  | [(k, v)] => quote k ++ ":" ++ render v
  | (k, v) :: rest => quote k ++ ":" ++ render v ++ "," ++ renderFields rest

end

/-- A line break followed by two spaces per level of nesting. -/
def indent (depth : Nat) : String := "\n" ++ String.ofList (List.replicate (2 * depth) ' ')

mutual

/-- The indented text of a value at a nesting depth: every item and field on a line of its own,
two spaces deeper than its brackets; an empty array or object stays on one line. -/
def renderPretty (depth : Nat) : Json → String
  | .arr [] => "[]"
  | .obj [] => "\x7b\x7d"
  | .arr items => "[" ++ prettyItems (depth + 1) items ++ indent depth ++ "]"
  | .obj fields => "\x7b" ++ prettyFields (depth + 1) fields ++ indent depth ++ "\x7d"
  | j => render j

def prettyItems (depth : Nat) : List Json → String
  | [] => ""
  | [v] => indent depth ++ renderPretty depth v
  | v :: rest => indent depth ++ renderPretty depth v ++ "," ++ prettyItems depth rest

def prettyFields (depth : Nat) : List (String × Json) → String
  | [] => ""
  | [(k, v)] => indent depth ++ quote k ++ ": " ++ renderPretty depth v
  | (k, v) :: rest => indent depth ++ quote k ++ ": " ++ renderPretty depth v ++ "," ++
      prettyFields depth rest

end

end Json

end AuditTrail
