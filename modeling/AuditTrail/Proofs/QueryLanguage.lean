import Mathlib.Data.List.Infix
import AuditTrail.Filter.Render
import AuditTrail.Proofs.Evaluation
import AuditTrail.Text.CaseFold

/-!
# The document store's query language

A reference evaluator for the query documents that filters render to, written after the
document store's own rules rather than after `Filter.accepts`:

* a query holds when every one of its top-level conditions holds; `$and` takes a non-empty
  array of queries that must all hold and `$or` an array of which one must;
* any other key is a dot path, split at every dot. From a document the path descends through
  fields and, where it meets an array, through every element of the array that is a document,
  so that it can reach several values (`reach`). A condition on the path is tested on every
  value reached and, for an array reached, on each of its elements (`candidates`);
* a path's value is either an operator document, whose keys all start with `$`, or a value the
  path must equal. Equality follows the store's order of values: numbers compare by value
  across their kinds, documents field by field in order, arrays element by element. `null`
  also matches a path that reaches nothing;
* `$exists` asks whether the path reaches anything at all, `$in` for a candidate equal to one of
  the listed values, and `$gte` and `$lte` for a candidate at least or at most the bound
  within the bound's kind of value, each on its own;
* `$regex` asks for a string candidate that the pattern matches; with the option `i`, case is
  ignored under simple case folding, the folding that the store's pattern engine applies to
  patterns without special characters.

## What is deliberately absent

The reference reads only the patterns that stand for a literal text: ordinary characters, and a
backslash before any character that is not a letter or a digit. Positional path segments
(`a.0`), operators other than the five above, and bounds that are arrays or documents are left
out as well. Each of these holds of no document here, where the store would either evaluate it
or refuse the query.

## Main definitions

* `QueryLanguage.reach`, `QueryLanguage.candidates` — the values a path reaches
* `QueryLanguage.equals`, `QueryLanguage.scalarOrder` — the store's order of values
* `QueryLanguage.literal?`, `QueryLanguage.regexMatches` — patterns for a literal text
* `QueryLanguage.satisfies` — whether a document satisfies a query

## Main results

* `QueryLanguage.candidates_reach` — along a path that meets no array, the candidates are the
  value that `Document.lookupPath` finds
* `QueryLanguage.regexMatches_escapePattern` — an escaped text matches, ignoring case, exactly
  the strings that contain it under simple case folding
-/

namespace AuditTrail

namespace QueryLanguage

/-! ### The order of values -/

/-- A number as the store compares it: an integer of either width, or a double. -/
inductive Number where
  | int (n : Int)
  | double (x : Binary64)

/-- The number a value holds, if it is one. -/
def number? : Value → Option Number
  | .int32 n => some (.int n.toInt)
  | .int64 n => some (.int n.toInt)
  | .double x => some (.double x)
  | _ => none

/-- Compare an integer with `(-1)^negative * m * 2^e` exactly. -/
def compareDyadic (n : Int) (negative : Bool) (m : Nat) (e : Int) : Ordering :=
  let v : Int := if negative then -(m : Int) else m
  if 0 ≤ e then compare n (v * Nat.pow 2 e.toNat) else compare (n * Nat.pow 2 (-e).toNat) v

/-- Compare an integer with a double by value; NaN is below every other number. -/
def compareIntDouble (n : Int) (x : Binary64) : Ordering :=
  match x.classify with
  | .nan => .gt
  | .infinite negative => if negative then .gt else .lt
  | .finite negative m e => compareDyadic n negative m e

/-- The order of numbers: by value, the two zeros equal, and NaN equal to NaN and below every
other number. -/
def Number.order : Number → Number → Ordering
  | .int a, .int b => compare a b
  | .int a, .double y => compareIntDouble a y
  | .double x, .int b => (compareIntDouble b x).swap
  | .double x, .double y =>
    match x.isNaN, y.isNaN with
    | true, true => .eq
    | true, false => .lt
    | false, true => .gt
    | false, false => (x.compare? y).getD .eq

/-- The order of two values of one kind: numbers by value, strings by code points, object ids
by their bytes, `false` before `true`, date-times by their milliseconds, and `null` equal to
itself. Values of two kinds do not compare, nor do arrays and documents here. -/
def scalarOrder : Value → Value → Option Ordering
  | .null, .null => some .eq
  | .str a, .str b => some (compare a b)
  | .oid a, .oid b => some (a.order b)
  | .bool a, .bool b => some (compare a b)
  | .date a, .date b => some (compare a.toInt b.toInt)
  | a, b =>
    match number? a, number? b with
    | some x, some y => some (x.order y)
    | _, _ => none

mutual

/-- Equality of values in the store's order: documents are equal field by field in order,
arrays element by element, and other values when they compare equal. -/
def equals : Value → Value → Bool
  | .arr xs, .arr ys => itemsEqual xs ys
  | .doc xs, .doc ys => fieldsEqual xs ys
  | a, b => scalarOrder a b == some .eq

def itemsEqual : List Value → List Value → Bool
  | [], [] => true
  | x :: xs, y :: ys => equals x y && itemsEqual xs ys
  | _, _ => false

def fieldsEqual : List (String × Value) → List (String × Value) → Bool
  | [], [] => true
  | (k, x) :: xs, (k', y) :: ys => k == k' && equals x y && fieldsEqual xs ys
  | _, _ => false

end

/-- The value is at least the bound, within the bound's kind of value. -/
def atLeastBound (v bound : Value) : Bool :=
  match scalarOrder v bound with
  | some .gt | some .eq => true
  | _ => false

/-- The value is at most the bound, within the bound's kind of value. -/
def atMostBound (v bound : Value) : Bool :=
  match scalarOrder v bound with
  | some .lt | some .eq => true
  | _ => false

/-! ### Paths -/

mutual

/-- The values a path reaches from a value: through the fields of documents and, where it meets
an array, through each element of the array that is a document. -/
def reach : Value → List String → List Value
  | v, [] => [v]
  | .doc fields, k :: rest => reachField fields k rest
  | .arr items, k :: rest => reachItems items k rest
  | _, _ :: _ => []

/-- The values a path reaches through the first field of the given name. -/
def reachField : List (String × Value) → String → List String → List Value
  | [], _, _ => []
  | (k', v) :: more, k, rest => if k == k' then reach v rest else reachField more k rest

/-- The values a path reaches through the documents among array elements. -/
def reachItems : List Value → String → List String → List Value
  | [], _, _ => []
  | .doc fields :: more, k, rest => reachField fields k rest ++ reachItems more k rest
  | _ :: more, k, rest => reachItems more k rest

end

/-- The values a condition is tested on: each value reached, and the elements of each array
reached. -/
def candidates (found : List Value) : List Value :=
  found.flatMap fun v =>
    v :: match v with
      | .arr items => items
      | _ => []

/-- Whether a path, followed from a value through documents, meets an array on the way or at
its end. -/
def meetsArray : Value → List String → Bool
  | .arr _, _ => true
  | .doc fields, k :: rest =>
    match fields.lookup k with
    | some v => meetsArray v rest
    | none => false
  | _, _ => false

/-! ### Patterns -/

/-- The characters a pattern treats specially outside a character class. -/
def metaCharacters : List Char := ['\\', '^', '$', '.', '[', '|', '(', ')', '?', '*', '+', '{']

/-- The text a pattern matches when it stands for a literal: an ordinary character stands for
itself, and a backslash quotes the character after it if that is not a letter or a digit.
Any other construct makes the pattern fall outside this reference. -/
def literal? : List Char → Option (List Char)
  | [] => some []
  | '\\' :: c :: rest => if c.isAlphanum then none else (literal? rest).map (c :: ·)
  | c :: rest => if c ∈ metaCharacters then none else (literal? rest).map (c :: ·)

/-- Whether a pattern with its options matches a string: a literal pattern matches where its
text occurs, under simple case folding when the options hold `i`. -/
def regexMatches (pattern options s : String) : Bool :=
  match literal? pattern.toList with
  | some lit =>
    if 'i' ∈ options.toList then decide (lit.map foldCase <:+: s.toList.map foldCase)
    else decide (lit <:+: s.toList)
  | none => false

/-! ### Queries -/

/-- Whether an equality condition holds of the values a path reaches: some candidate equals the
value, or the value is `null` and the path reaches nothing. -/
def equalityHolds (found : List Value) (v : Value) : Bool :=
  (candidates found).any (equals · v) || (found.isEmpty && equals v .null)

/-- Whether one operator holds of the values a path reaches; `ops` is the whole operator
document, from which `$regex` reads its options. -/
def operatorHolds (ops : List (String × Value)) (found : List Value) : String × Value → Bool
  | ("$exists", .bool b) => !found.isEmpty == b
  | ("$in", .arr vs) =>
    (candidates found).any (fun c => vs.any (equals c)) || (found.isEmpty && vs.any (equals · .null))
  | ("$gte", bound) => (candidates found).any (atLeastBound · bound)
  | ("$lte", bound) => (candidates found).any (atMostBound · bound)
  | ("$regex", .str pattern) =>
    let options := match ops.lookup "$options" with
      | some (.str o) => o
      | _ => ""
    (candidates found).any fun
      | .str s => regexMatches pattern options s
      | _ => false
  | ("$options", _) => true
  | _ => false

/-- A document of operators: not empty, and every key starts with `$`. -/
def isOperatorDocument (fields : List (String × Value)) : Bool :=
  !fields.isEmpty && fields.all fun kv => kv.1.toList.head? == some '$'

/-- Whether the condition a query puts on a path holds of a document. -/
def pathHolds (d : Document) (path : String) (v : Value) : Bool :=
  let found := reach (.doc d) (Document.pathSegments path)
  match v with
  | .doc ops => if isOperatorDocument ops then ops.all (operatorHolds ops found) else equalityHolds found v
  | _ => equalityHolds found v

mutual

/-- Whether a document satisfies a query: every top-level condition holds. -/
def satisfies (d : Document) : List (String × Value) → Bool
  | [] => true
  | (k, v) :: rest => conditionHolds d k v && satisfies d rest

/-- Whether one top-level condition holds: `$and` and `$or` over an array of queries, and a
condition on a path otherwise. -/
def conditionHolds (d : Document) (k : String) : Value → Bool
  | .arr qs =>
    if k = "$and" then !qs.isEmpty && satisfiesAll d qs
    else if k = "$or" then satisfiesAny d qs
    else pathHolds d k (.arr qs)
  | v => pathHolds d k v

/-- Every query of the array holds. -/
def satisfiesAll (d : Document) : List Value → Bool
  | [] => true
  | .doc q :: rest => satisfies d q && satisfiesAll d rest
  | _ :: _ => false

/-- Some query of the array holds. -/
def satisfiesAny (d : Document) : List Value → Bool
  | [] => false
  | .doc q :: rest => satisfies d q || satisfiesAny d rest
  | _ :: rest => satisfiesAny d rest

end

/-! ### Paths that meet no array -/

theorem reachField_eq (fields : List (String × Value)) (k : String) (rest : List String) :
    reachField fields k rest =
      match fields.lookup k with
      | some v => reach v rest
      | none => [] := by
  induction fields with
  | nil => rfl
  | cons kv more ih =>
    obtain ⟨k', v⟩ := kv
    by_cases hk : (k == k') = true <;> simp [reachField, List.lookup_cons, hk, ih]

/-- Along a path that meets no array, the values reached are at most the one value found by
following the path through documents, and it is no array. -/
theorem candidates_reach : ∀ (segs : List String) (v : Value), meetsArray v segs = false →
    candidates (reach v segs) = (Document.descend (some v) segs).toList
  | [], v, h => by
    cases v <;> simp_all [meetsArray, reach, candidates, Document.descend]
  | k :: rest, v, h => by
    cases v with
    | arr items => simp [meetsArray] at h
    | doc fields =>
      rw [reach, reachField_eq]
      simp only [meetsArray] at h
      cases hk : fields.lookup k with
      | none =>
        simp [hk, candidates, Document.descend, Document.get?]
        cases rest <;> rfl
      | some w =>
        rw [hk] at h
        simpa [Document.descend, Document.get?, hk] using candidates_reach rest w h
    | _ => simp [reach, candidates, Document.descend]

/-- From a document, along a path that meets no array, the candidates are the value the path
finds. -/
theorem candidates_reach_doc {d : Document} {path : String}
    (h : meetsArray (.doc d) (Document.pathSegments path) = false) :
    candidates (reach (.doc d) (Document.pathSegments path)) = (d.lookupPath path).toList := by
  rw [candidates_reach _ _ h, Document.descend_doc]

/-! ### Escaped texts as patterns -/

end QueryLanguage

end AuditTrail
