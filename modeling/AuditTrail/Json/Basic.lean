import AuditTrail.Number.Binary64

/-!
# JSON values

A JSON value keeps the distinction that JSON readers draw between numbers: a numeral without a
fraction or exponent that fits a 64-bit word is an integer, anything else a double. Objects keep
their fields in the order written.

## Main definitions

* `Json` — the value tree
* `Json.field?` — a field of an object
-/

namespace AuditTrail

/-- A JSON value. Integers are those read from whole numerals within the range of a signed or
unsigned 64-bit word; every other number is a double. -/
inductive Json where
  | null
  | bool (b : Bool)
  | int (n : Int)
  | float (x : Binary64)
  | str (s : String)
  | arr (items : List Json)
  | obj (fields : List (String × Json))
  deriving Inhabited, Repr

namespace Json

/-- The value of a field of an object, `none` for a missing field or a value that is not an
object. -/
def field? (key : String) : Json → Option Json
  | .obj fields => fields.lookup key
  | _ => none

/-- A field that is present and not `null`. -/
def given? (key : String) (j : Json) : Option Json :=
  match j.field? key with
  | some .null => none
  | other => other

/-- The text of a string value. -/
def str? : Json → Option String
  | .str s => some s
  | _ => none

/-- The elements of an array value. -/
def arr? : Json → Option (List Json)
  | .arr xs => some xs
  | _ => none

/-- Set a field of a field list: replace the value where the name stands, or append it. -/
def setField (fields : List (String × Json)) (key : String) (v : Json) : List (String × Json) :=
  if fields.any (·.1 == key) then fields.map fun (k, w) => if k == key then (k, v) else (k, w)
  else fields ++ [(key, v)]

/-- Sort fields by name, in code point order; the sort is stable. -/
def sortFields {β : Type} (fields : List (String × β)) : List (String × β) :=
  fields.mergeSort fun a b => decide (a.1 ≤ b.1)

mutual

/-- The same value with the fields of every object, at every depth, sorted by name. -/
def sortKeys : Json → Json
  | .arr items => .arr (sortKeysItems items)
  | .obj fields => .obj (sortFields (sortKeysFields fields))
  | j => j

def sortKeysItems : List Json → List Json
  | [] => []
  | j :: rest => sortKeys j :: sortKeysItems rest

def sortKeysFields : List (String × Json) → List (String × Json)
  | [] => []
  | (k, j) :: rest => (k, sortKeys j) :: sortKeysFields rest

end

/-- A whole number. -/
def int? : Json → Option Int
  | .int n => some n
  | _ => none

end Json

end AuditTrail
