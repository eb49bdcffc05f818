import AuditTrail.Bson.Relaxed

/-!
# Typed records out of self-describing trees

JSON requests, stored documents and configuration files are all trees that say at each node
what kind of thing they hold. Records are read out of any of them the same way:

* a record is a map with named fields, or a sequence giving the fields in declaration order;
  a sequence longer than the record is refused, unless the format ignores the surplus items;
* unknown fields are ignored; a required field must be present, an optional one may be absent
  or `null`, and a field with a default takes the default when absent;
* a text field needs a string, a count field an integer within its range, a flag a boolean;
* a name from a fixed list is a string, or a map with that name as its only key and `null`
  under it.

A tree exposes only its `Shape` at the root. Numbers that are not whole read as `other`, and so
do the kinds of value that no record field accepts.

## Main definitions

* `Shape`, `Tree` — the root view of a tree
* `Tree.text?`, `Tree.optText?`, `Tree.word?`, `Tree.flag?`, `Tree.name?` — field readers
* `Fields` — the fields of a record, in either form
-/

namespace AuditTrail

/-- What a tree shows at its root. -/
inductive Shape (α : Type) where
  | null
  | bool (b : Bool)
  | int (n : Int)
  | str (s : String)
  | seq (items : List α)
  | map (fields : List (String × α))
  | other

/-- A self-describing tree: its root shape, its JSON for open-ended fields, and whether a record
read from a sequence ignores the items past its last field. -/
class Tree (α : Type) where
  shape : α → Shape α
  toJson : α → Json
  ignoresSurplusItems : Bool := false

instance : Tree Json where
  shape
    | .null => .null
    | .bool b => .bool b
    | .int n => .int n
    | .float _ => .other
    | .str s => .str s
    | .arr xs => .seq xs
    | .obj fs => .map fs
  toJson j := j

instance : Tree Value where
  shape
    | .null => .null
    | .bool b => .bool b
    | .int32 n => .int n.toInt
    | .int64 n => .int n.toInt
    | .double _ => .other
    | .str s => .str s
    | .arr xs => .seq xs
    | .doc fs => .map fs
    | .oid id => .map [("$oid", .str id.toHex)]
    | .date ms => match dateToRelaxed ms.toInt with
      | .obj [(k, .str s)] => .map [(k, .str s)]
      | .obj [(k, .obj [(k', .str s)])] => .map [(k, .doc [(k', .str s)])]
      | _ => .other
  toJson v := v.toRelaxed

namespace Tree

variable {α : Type} [Tree α]

/-- A required text. -/
def text? (t : α) : Option String :=
  match shape t with
  | .str s => some s
  | _ => none

/-- An optional text: `null` is absent. -/
def optText? (t : α) : Option (Option String) :=
  match shape t with
  | .null => some none
  | .str s => some (some s)
  | _ => none

/-- An unsigned 32-bit count. -/
def word? (t : α) : Option Nat :=
  match shape t with
  | .int n => if 0 ≤ n ∧ n < Nat.pow 2 32 then some n.toNat else none
  | _ => none

/-- A boolean. -/
def flag? (t : α) : Option Bool :=
  match shape t with
  | .bool b => some b
  | _ => none

/-- A name from a fixed list: the string itself, or a map whose only key is the name and whose
value is `null`. -/
def name? (t : α) : Option String :=
  match shape t with
  | .str s => some s
  | .map [(k, v)] =>
    match shape v with
    | .null => some k
    | _ => none
  | _ => none

/-- An open map, converted to JSON. -/
def jsonMap? (t : α) : Option (List (String × Json)) :=
  match shape t with
  | .map fs => some (fs.map fun (k, v) => (k, toJson v))
  | _ => none

/-- A list of texts. -/
def texts? (t : α) : Option (List String) :=
  match shape t with
  | .seq items => items.mapM text?
  | _ => none

end Tree

/-- The fields of a record: by name from a map, or by position from a sequence. -/
inductive Fields (α : Type) where
  | named (fields : List (String × α))
  | positional (items : List α)

namespace Fields

variable {α : Type} [Tree α]

/-- The fields of a record-shaped tree. -/
def of? (t : α) : Option (Fields α) :=
  match Tree.shape t with
  | .map fs => some (.named fs)
  | .seq items => some (.positional items)
  | _ => none

/-- The field with the given name, at the given position in declaration order. -/
def get? (f : Fields α) (name : String) (position : Nat) : Option α :=
  match f with
  | .named fs => fs.lookup name
  | .positional items => items[position]?

/-- Whether the fields fit a record of `count` fields: a sequence must hold no more items, unless
the format ignores the surplus. -/
def fits (f : Fields α) (count : Nat) : Bool :=
  match f with
  | .named _ => true
  | .positional items => @Tree.ignoresSurplusItems α _ || items.length ≤ count

/-- A required field. -/
def required (f : Fields α) (name : String) (position : Nat) (read : α → Option β) :
    Option β :=
  (f.get? name position) >>= read

/-- A field with a default when absent. -/
def withDefault (f : Fields α) (name : String) (position : Nat) (default : β)
    (read : α → Option β) : Option β :=
  match f.get? name position with
  | some t => read t
  | none => some default

/-- An optional field: absent and `null` both give `none`. -/
def optional (f : Fields α) (name : String) (position : Nat) (read : α → Option β) :
    Option (Option β) :=
  match f.get? name position with
  | none => some none
  | some t =>
    match Tree.shape t with
    | .null => some none
    | _ => (read t).map some

end Fields

end AuditTrail
