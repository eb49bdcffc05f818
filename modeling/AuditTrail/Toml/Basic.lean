import AuditTrail.Decode

/-!
# TOML documents

A TOML document is a table of keys to values: strings, 64-bit integers, floats, booleans,
date-times, arrays and tables.

## How tables come to be

A document does not write its tables in one piece. A table arises in one of three ways, and
what may later be added to it depends on which:

* a header `[a.b]` *defines* the table `a.b`; no second header may define it again;
* a header also creates the tables on its path, `a` here, *implicitly*; one later header may
  still define such a table;
* a dotted key `a.b = 1` creates the table `a` *by dotted keys*; further dotted keys of the same
  table may add to it, but no header may define it.

Dotted keys add only to tables they created themselves, and a plain key adds only to the table
that a header opened. An array of tables `[[a]]` gains an element table with every such header,
and keys and headers below `a` reach its last element. Values written inline, arrays and inline
tables alike, are closed: nothing is added to them afterwards.

While the document is read, its tables are held as `Item`s, which remember how each table came
to be; the finished document is a plain `TomlValue`.

## Main definitions

* `TomlValue` and its `Tree` instance, which lets records be read from documents
* `Origin`, `Item`, `Item.freeze`
* `Item.defineTable`, `Item.appendTable`, `Item.insertValue` — the three ways to add to a table
-/

namespace AuditTrail

/-- A TOML value. A date-time is held as written. -/
inductive TomlValue where
  | str (s : String)
  | int (n : Int)
  | float (x : Binary64)
  | bool (b : Bool)
  | dateTime (text : String)
  | arr (items : List TomlValue)
  | table (fields : List (String × TomlValue))
  deriving Inhabited, Repr

namespace TomlValue

mutual

/-- The JSON of a value: a date-time becomes its text. -/
def toJson : TomlValue → Json
  | .str s => .str s
  | .int n => .int n
  | .float x => .float x
  | .bool b => .bool b
  | .dateTime t => .str t
  | .arr items => .arr (itemsToJson items)
  | .table fields => .obj (fieldsToJson fields)

def itemsToJson : List TomlValue → List Json
  | [] => []
  | v :: vs => toJson v :: itemsToJson vs

def fieldsToJson : List (String × TomlValue) → List (String × Json)
  | [] => []
  | (k, v) :: fs => (k, toJson v) :: fieldsToJson fs

end

end TomlValue

/-- A document is read like any tree: a table is a map, an array a sequence, and floats and
date-times are of no shape a record field asks for. An array read as a record gives its fields
in order, and items past the last field are ignored. -/
instance : Tree TomlValue where
  shape
    | .str s => .str s
    | .int n => .int n
    | .float _ => .other
    | .bool b => .bool b
    | .dateTime _ => .other
    | .arr items => .seq items
    | .table fields => .map fields
  toJson := TomlValue.toJson
  ignoresSurplusItems := true

/-- How a table being read came to be. -/
inductive Origin where
  /-- Defined by a header. -/
  | header
  /-- Created on the path of a header. -/
  | implicit
  /-- Created by dotted keys. -/
  | dotted
  deriving DecidableEq, Repr

/-- A value of a document being read. -/
inductive Item where
  /-- A value written after a key: closed. -/
  | value (v : TomlValue)
  /-- A table open to additions, with its origin. -/
  | table (origin : Origin) (entries : List (String × Item))
  /-- An array of tables, in order; additions go to the last. -/
  | tables (elements : List (List (String × Item)))
  deriving Inhabited

namespace Item

mutual

/-- The finished value. -/
def freeze : Item → TomlValue
  | .value v => v
  | .table _ es => .table (freezeEntries es)
  | .tables ts => .arr (freezeTables ts)

def freezeEntries : List (String × Item) → List (String × TomlValue)
  | [] => []
  | (k, i) :: es => (k, freeze i) :: freezeEntries es

def freezeTables : List (List (String × Item)) → List TomlValue
  | [] => []
  | es :: ts => .table (freezeEntries es) :: freezeTables ts

end

/-- Replace the entry of a key, or add it at the end. -/
def put (es : List (String × Item)) (k : String) (i : Item) : List (String × Item) :=
  if es.any (·.1 == k) then es.map fun (k', i') => if k' == k then (k, i) else (k', i') else es ++ [(k, i)]

/-- Apply a step to the entries of the table at the end of a path, creating missing tables on
the way with the given origin. With `dotted` set, the path may only pass through tables that
were not defined by a header. The last element of an array of tables stands for the array. -/
def within {β : Type} (dotted : Bool) (step : List (String × Item) → Option (List (String × Item) × β)) :
    List String → List (String × Item) → Option (List (String × Item) × β)
  | [], es => step es
  | k :: ks, es =>
    match es.lookup k with
    | none => do
      let origin := if dotted then Origin.dotted else Origin.implicit
      let (inner, b) ← within dotted step ks []
      pure (put es k (.table origin inner), b)
    | some (.value _) => none
    | some (.table origin inner) => do
      if dotted && origin == .header then none
      let (inner, b) ← within dotted step ks inner
      pure (put es k (.table origin inner), b)
    | some (.tables ts) => do
      let (init, last) ← match ts.reverse with
        | last :: rest => some (rest.reverse, last)
        | [] => none
      let (last, b) ← within dotted step ks last
      pure (put es k (.tables (init ++ [last])), b)

/-- Define the table named by a header; `none` when that is not allowed. -/
def defineTable (root : List (String × Item)) (path : List String) : Option (List (String × Item)) := do
  let (init, last) ← match path.reverse with
    | last :: rest => some (rest.reverse, last)
    | [] => none
  let define (es : List (String × Item)) : Option (List (String × Item) × Unit) :=
    match es.lookup last with
    | none => some (put es last (.table .header []), ())
    | some (.table .implicit inner) => some (put es last (.table .header inner), ())
    | some _ => none
  (·.1) <$> within false define init root

/-- Add an element table to the array of tables named by a header. -/
def appendTable (root : List (String × Item)) (path : List String) : Option (List (String × Item)) := do
  let (init, last) ← match path.reverse with
    | last :: rest => some (rest.reverse, last)
    | [] => none
  let append (es : List (String × Item)) : Option (List (String × Item) × Unit) :=
    match es.lookup last with
    | none => some (put es last (.tables [[]]), ())
    | some (.tables ts) => some (put es last (.tables (ts ++ [[]])), ())
    | some _ => none
  (·.1) <$> within false append init root

/-- Set a key, possibly dotted, in a table. The table that receives the last part of the key
must have been created by the key's dotted parts, or, for a plain key, be the table itself; a
key already set cannot be set again. -/
def insertValue (es : List (String × Item)) (key : List String) (v : TomlValue) :
    Option (List (String × Item)) := do
  let (init, last) ← match key.reverse with
    | last :: rest => some (rest.reverse, last)
    | [] => none
  let set (inner : List (String × Item)) : Option (List (String × Item) × Unit) :=
    match inner.lookup last with
    | none => some (put inner last (.value v), ())
    | some _ => none
  match init with
  | [] => (·.1) <$> set es
  | _ =>
    -- the last dotted part must name a table made by dotted keys
    let lastPart := init.getLast?.getD ""
    let parents := init.dropLast
    let viaDotted (pes : List (String × Item)) : Option (List (String × Item) × Unit) :=
      match pes.lookup lastPart with
      | none => do
        let (inner, _) ← set []
        pure (put pes lastPart (.table .dotted inner), ())
      | some (.table .dotted inner) => do
        let (inner, _) ← set inner
        pure (put pes lastPart (.table .dotted inner), ())
      | some _ => none
    (·.1) <$> within true viaDotted parents es

end Item

end AuditTrail
