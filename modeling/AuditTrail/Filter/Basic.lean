import AuditTrail.Bson.Value

/-!
# Filters over stored documents

A filter is a tree of predicates on stored documents. Each leaf names a field by a dot path:
`eq` asks for a value, `isIn` for one of several, `present` for any value at all, `range` for a
value between optional bounds, and `contains` for a string holding a term regardless of case.
`allOf` and `anyOf` combine filters; `allOf []` holds of every document and `anyOf []` of none.

The combinators `conj` and `disj` build the two combinations but return a single filter
unchanged, so that a query with one condition is that condition.

## Main definitions

* `Filter` — the predicate tree
* `Filter.conj`, `Filter.disj`, `Filter.everything`
-/

namespace AuditTrail

/-- A predicate on stored documents. -/
inductive Filter where
  /-- The value at the path equals the given value. -/
  | eq (path : String) (value : Value)
  /-- The value at the path equals one of the given values. -/
  | isIn (path : String) (values : List Value)
  /-- The path leads to a value. -/
  | present (path : String)
  /-- The value at the path lies between the bounds that are given, both included. -/
  | range (path : String) (atLeast atMost : Option Value)
  /-- The value at the path is a string that contains the term, ignoring case. -/
  | contains (path : String) (term : String)
  /-- Every clause holds. -/
  | allOf (clauses : List Filter)
  /-- Some clause holds. -/
  | anyOf (clauses : List Filter)
  deriving Inhabited, Repr

namespace Filter

/-- The conjunction of the clauses; a single clause is returned as it is. -/
def conj : List Filter → Filter
  | [f] => f
  | fs => allOf fs

/-- The disjunction of the clauses; a single clause is returned as it is. -/
def disj : List Filter → Filter
  | [f] => f
  | fs => anyOf fs

/-- The filter that every document satisfies. -/
def everything : Filter := allOf []

end Filter

end AuditTrail
