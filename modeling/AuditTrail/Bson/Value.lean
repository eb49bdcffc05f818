import AuditTrail.Bson.ObjectId
import AuditTrail.Number.Binary64

/-!
# Document values

The values that stored documents hold: null, booleans, 32- and 64-bit integers, doubles,
strings, object ids, date-times (milliseconds since the epoch), arrays and documents. A
document is an ordered list of fields.

Equality of values is the document store's: the kinds must agree (the integer `1`, the long
`1` and the double `1.0` are three different values), doubles compare as numbers (NaN equals
nothing, `-0.0` equals `0.0`), arrays compare element by element, and documents compare as maps,
ignoring the order of their fields.

## Main definitions

* `Value`, `Document` — the value tree
* `Document.get?`, `Document.insert` — field access
* `Value.same` — equality of values
-/

namespace AuditTrail

/-- A value in a stored document. -/
inductive Value where
  | null
  | bool (b : Bool)
  | int32 (n : Int32)
  | int64 (n : Int64)
  | double (x : Binary64)
  | str (s : String)
  | oid (id : ObjectId)
  | date (millis : Int64)
  | arr (items : List Value)
  | doc (fields : List (String × Value))
  deriving Inhabited, Repr

/-- A document: fields in order. -/
abbrev Document := List (String × Value)

namespace Document

/-- The value of the first field with the given name. -/
def get? (d : Document) (key : String) : Option Value := d.lookup key

/-- Set a field: replace its value where it stands, or append it. -/
def insert (d : Document) (key : String) (v : Value) : Document :=
  if d.any (·.1 == key) then d.map fun (k, w) => if k == key then (k, v) else (k, w)
  else d ++ [(key, v)]

/-- Remove every field with the given name. -/
def erase (d : Document) (key : String) : Document := d.filter (·.1 != key)

/-- The object id under `_id`, if that field holds one. -/
def objectId? (d : Document) : Option ObjectId :=
  match d.get? "_id" with
  | some (.oid id) => some id
  | _ => none

end Document

namespace Value

mutual

/-- Equality of values, as the document store decides it. -/
def same : Value → Value → Bool
  | .null, .null => true
  | .bool a, .bool b => a == b
  | .int32 a, .int32 b => a == b
  | .int64 a, .int64 b => a == b
  | .double x, .double y => x.ieeeEq y
  | .str a, .str b => a == b
  | .oid a, .oid b => a == b
  | .date a, .date b => a == b
  | .arr xs, .arr ys => sameItems xs ys
  | .doc xs, .doc ys => xs.length == ys.length && sameFields xs ys
  | _, _ => false

/-- Arrays are equal element by element. -/
def sameItems : List Value → List Value → Bool
  | [], [] => true
  | x :: xs, y :: ys => same x y && sameItems xs ys
  | _, _ => false

/-- Every field of the first document is matched by an equal field of the same name in the
second. -/
def sameFields : List (String × Value) → Document → Bool
  | [], _ => true
  | (k, v) :: rest, other =>
    (match other.lookup k with
      | some w => same v w
      | none => false) && sameFields rest other

end

end Value

end AuditTrail
