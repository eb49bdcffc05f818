import AuditTrail.Filter.Basic
import AuditTrail.Text.CaseFold

/-!
# Evaluating filters

A path is split at every `.` and followed through nested documents only: arrays are not
entered, and an empty segment names the field `""`. Equality is `Value.same`, so the kinds of
value must agree.

Bounds compare only like with like: two date-times, two strings (in code point order, which is
byte order), two object ids, or two numbers of any width, both taken as doubles, the 64-bit
integers rounded to the nearest double. Any other pair, and any pair involving NaN, fails the
bound. `contains` needs a string, and finds the term in it as a literal run of characters under
simple case folding.

## Main definitions

* `Document.pathSegments`, `Document.lookupPath` — the value at a dot path
* `Value.compareBound` — the order used by bounds
* `Filter.accepts` — whether a document satisfies a filter
-/

namespace AuditTrail

namespace Document

/-- Follow path segments through nested documents. -/
def descend : Option Value → List String → Option Value
  | v, [] => v
  | some (.doc inner), k :: rest => descend (Document.get? inner k) rest
  | _, _ :: _ => none

/-- The segments of a dot path: the texts between its dots, empty where two dots meet. -/
def pathSegments (path : String) : List String := (path.toList.splitOn '.').map String.ofList

/-- The value at a dot path. -/
def lookupPath (d : Document) (path : String) : Option Value :=
  match pathSegments path with
  | [] => none
  | k :: rest => descend (d.get? k) rest

end Document

namespace Value

/-- A number as the double that stands for it in comparisons. -/
def asDouble? : Value → Option Binary64
  | .int32 n => some (Binary64.ofInt n.toInt)
  | .int64 n => some (Binary64.ofInt n.toInt)
  | .double x => some x
  | _ => none

/-- The order of two values for a bound, `none` when they do not compare. -/
def compareBound : Value → Value → Option Ordering
  | .date a, .date b => some (compare a.toInt b.toInt)
  | .str a, .str b => some (compare a b)
  | .oid a, .oid b => some (a.order b)
  | a, b =>
    match a.asDouble?, b.asDouble? with
    | some x, some y => x.compare? y
    | _, _ => none

/-- The value is at least the bound. -/
def atLeast (v bound : Value) : Bool :=
  match compareBound v bound with
  | some .gt | some .eq => true
  | _ => false

/-- The value is at most the bound. -/
def atMost (v bound : Value) : Bool :=
  match compareBound v bound with
  | some .lt | some .eq => true
  | _ => false

end Value

namespace Filter

mutual

/-- Whether a document satisfies a filter. -/
def accepts (d : Document) : Filter → Bool
  | .eq p v => (d.lookupPath p).any (·.same v)
  | .isIn p vs => (d.lookupPath p).any fun w => vs.any (·.same w)
  | .present p => (d.lookupPath p).isSome
  | .range p lo hi =>
    match d.lookupPath p with
    | some v => lo.all v.atLeast && hi.all v.atMost
    | none => false
  | .contains p t =>
    match d.lookupPath p with
    | some (.str s) => containsFolded s t
    | _ => false
  | .allOf fs => acceptsAll d fs
  | .anyOf fs => acceptsAny d fs

/-- Every filter of the list holds. -/
def acceptsAll (d : Document) : List Filter → Bool
  | [] => true
  | f :: rest => accepts d f && acceptsAll d rest

/-- Some filter of the list holds. -/
def acceptsAny (d : Document) : List Filter → Bool
  | [] => false
  | f :: rest => accepts d f || acceptsAny d rest

end

end Filter

end AuditTrail
