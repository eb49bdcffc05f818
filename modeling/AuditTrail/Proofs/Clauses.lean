import AuditTrail.Proofs.Evaluation

/-!
# The clauses of a query

A query's filter is the conjunction of its clauses: a guard when the scope is narrowed to one
wrapper, then one clause for each dimension that narrows (an action; an actor, target user or
resource id that is not empty; a bound of the time window; a search term that is not blank).
Each dimension adds its clause independently of the others, which is what this module makes
precise:

* the clauses are the guard followed by the clause of each dimension (`Query.clauses_eq`), and a
  dimension that does not narrow adds none;
* a filter is therefore the conjunction of the filter that keeps only the target resource and the
  filters that keep the target resource and one narrowing dimension
  (`Query.accepts_toFilter_iff_base_and_only`), on every document whatever its shape;
* on a document filed under a wrapper, the clause of a dimension holds when the wrapper is in
  scope and the payload passes the dimension's own test (`FiledUnder.accepts_clausesOf`), while
  the guard asks only for the narrowed wrapper's key to be present, whatever it holds
  (`Query.narrowing_all_iff`).

## Main definitions

* `Dimension`, `Query.active`, `Query.dimensions`
* `Query.narrowing`, `Query.clausesOf` — the guard and the clause of each dimension
* `Query.base`, `Query.only` — the query kept to its target resource, and to one dimension more
* `Query.narrowedTo`, `Query.payloadTest`

## Main results

* `Query.clauses_eq`, `Query.accepts_toFilter_iff`
* `Query.accepts_toFilter_iff_base_and_only`
* `FiledUnder.accepts_clausesOf`, `FiledUnder.accepts_toFilter_iff`
-/

namespace AuditTrail

/-! ### Dimensions and their clauses -/

/-- The dimensions along which a query narrows, besides its target resource. -/
inductive Dimension where
  | action | actor | targetUser | resourceId | window | search
  deriving DecidableEq, Repr

/-- The dimensions in the order their clauses are added. -/
def Dimension.all : List Dimension := [.action, .actor, .targetUser, .resourceId, .window, .search]

theorem Dimension.mem_all (i : Dimension) : i ∈ Dimension.all := by
  cases i <;> decide

namespace Query

/-- The clause that guards a narrowed scope. -/
def narrowing (q : Query) : List Filter :=
  match q.scope with
  | [c] => [Filter.present c.key]
  | _ => []

/-- The clause of an exact match on a text field, if the text is not empty. -/
def exactClause (q : Query) (field : Field) (v : Option String) : List Filter :=
  match nonEmpty v with
  | some s => [anyWrapper q.scope fun c => .eq (c.path field) (.str s)]
  | none => []

/-- The clause a query adds for one dimension; none when the dimension does not narrow. -/
def clausesOf (q : Query) : Dimension → List Filter
  | .action =>
    match q.action with
    | some a => [anyWrapper q.scope fun c => .eq (c.path .action) (.str a.name)]
    | none => []
  | .actor => q.exactClause .actor q.actor
  | .targetUser => q.exactClause .targetUser q.targetUser
  | .resourceId => q.exactClause .resourceId q.resourceId
  | .window =>
    if q.startDate.isSome || q.endDate.isSome then
      [anyWrapper q.scope fun c =>
        .range (c.path .timestamp) (q.startDate.map Instant.toValue) (q.endDate.map Instant.toValue)]
    else []
  | .search =>
    match q.searchTerm with
    | some t => [Filter.disj (q.scope.flatMap fun c => searchFields.map fun f => .contains (c.path f) t)]
    | none => []

/-- The clauses of a query: the guard of a narrowed scope, then one clause for each dimension
that narrows. -/
theorem clauses_eq (q : Query) : q.clauses = q.narrowing ++ Dimension.all.flatMap q.clausesOf := by
  unfold clauses
  simp only [Dimension.all, List.flatMap_cons, List.flatMap_nil, List.append_nil, List.append_assoc]
  rfl

/-- Whether a dimension narrows the query: an action, a non-empty actor, target user or resource
id, a bound of the window, or a search term that is not blank. -/
def active (q : Query) : Dimension → Bool
  | .action => q.action.isSome
  | .actor => (nonEmpty q.actor).isSome
  | .targetUser => (nonEmpty q.targetUser).isSome
  | .resourceId => (nonEmpty q.resourceId).isSome
  | .window => q.startDate.isSome || q.endDate.isSome
  | .search => q.searchTerm.isSome

/-- The dimensions that narrow the query. -/
def dimensions (q : Query) : List Dimension := Dimension.all.filter q.active

/-- The query that keeps only the target resource. -/
def base (q : Query) : Query := { targetResource := q.targetResource }

/-- The query that keeps the target resource and one dimension. -/
def only (q : Query) : Dimension → Query
  | .action => { targetResource := q.targetResource, action := q.action }
  | .actor => { targetResource := q.targetResource, actor := q.actor }
  | .targetUser => { targetResource := q.targetResource, targetUser := q.targetUser }
  | .resourceId => { targetResource := q.targetResource, resourceId := q.resourceId }
  | .window => { targetResource := q.targetResource, startDate := q.startDate, endDate := q.endDate }
  | .search => { targetResource := q.targetResource, search := q.search }

/-- A dimension that does not narrow adds no clause. -/
theorem clausesOf_eq_nil {q : Query} {i : Dimension} (h : q.active i = false) : q.clausesOf i = [] := by
  cases i <;> simp_all [active, clausesOf, exactClause]

theorem scope_base (q : Query) : q.base.scope = q.scope := rfl

theorem scope_only (q : Query) (i : Dimension) : (q.only i).scope = q.scope := by
  cases i <;> rfl

theorem narrowing_base (q : Query) : q.base.narrowing = q.narrowing := rfl

theorem narrowing_only (q : Query) (i : Dimension) : (q.only i).narrowing = q.narrowing := by
  cases i <;> rfl

theorem clausesOf_base (q : Query) (j : Dimension) : q.base.clausesOf j = [] := by
  cases j <;> rfl

/-- The query kept to one dimension adds that dimension's clause and no other. -/
theorem clausesOf_only (q : Query) (i j : Dimension) :
    (q.only i).clausesOf j = if i = j then q.clausesOf j else [] := by
  cases i <;> cases j <;> rfl

/-- A query's filter holds when its guard holds and each dimension's clause does. -/
theorem accepts_toFilter (q : Query) (d : Document) :
    q.toFilter.accepts d =
      (q.narrowing.all (·.accepts d) && Dimension.all.all fun i => (q.clausesOf i).all (·.accepts d)) := by
  rw [toFilter, Filter.accepts_conj, clauses_eq, List.all_append, List.all_flatMap]

theorem accepts_toFilter_base (q : Query) (d : Document) :
    q.base.toFilter.accepts d = q.narrowing.all (·.accepts d) := by
  rw [accepts_toFilter, narrowing_base]
  simp [clausesOf_base]

theorem accepts_toFilter_only (q : Query) (i : Dimension) (d : Document) :
    (q.only i).toFilter.accepts d =
      (q.narrowing.all (·.accepts d) && (q.clausesOf i).all (·.accepts d)) := by
  rw [accepts_toFilter, narrowing_only]
  cases i <;> simp [clausesOf_only, Dimension.all]

/-- A query's filter holds when its guard holds and the clause of each narrowing dimension
does. -/
theorem accepts_toFilter_iff (q : Query) (d : Document) :
    q.toFilter.accepts d = true ↔
      q.narrowing.all (·.accepts d) = true ∧
        ∀ i ∈ q.dimensions, (q.clausesOf i).all (·.accepts d) = true := by
  rw [accepts_toFilter, Bool.and_eq_true]
  refine and_congr_right fun _ => ?_
  rw [List.all_eq_true]
  refine ⟨fun hc i hi => hc i ((List.mem_filter.mp hi).1), fun hc i hi => ?_⟩
  -- a dimension that does not narrow adds no clause
  cases ha : q.active i
  · rw [clausesOf_eq_nil ha]
    rfl
  · exact hc i (List.mem_filter.mpr ⟨hi, ha⟩)

/-- A query's filter is the conjunction of the filter keeping only its target resource and the
filters keeping the target resource and one of its narrowing dimensions. -/
theorem accepts_toFilter_iff_base_and_only (q : Query) (d : Document) :
    q.toFilter.accepts d = true ↔
      q.base.toFilter.accepts d = true ∧
        ∀ i ∈ q.dimensions, (q.only i).toFilter.accepts d = true := by
  -- a dimension that does not narrow adds no clause
  have hidle : ∀ i, q.active i = false → (q.clausesOf i).all (·.accepts d) = true := by
    intro i hi
    rw [clausesOf_eq_nil hi]
    rfl
  rw [accepts_toFilter_base, accepts_toFilter q]
  simp only [accepts_toFilter_only, Bool.and_eq_true, List.all_eq_true]
  constructor
  · rintro ⟨hn, hc⟩
    exact ⟨hn, fun i hi => ⟨hn, hc i ((List.mem_filter.mp hi).1)⟩⟩
  · rintro ⟨hn, hc⟩
    refine ⟨hn, fun i hi => ?_⟩
    cases ha : q.active i
    · exact List.all_eq_true.mp (hidle i ha)
    · exact (hc i (List.mem_filter.mpr ⟨hi, ha⟩)).2

end Query

/-! ### Clauses on a filed document -/

namespace Filter

/-- A test on the string found at a path; anything else fails it. -/
def textTest (g : String → Bool) : Option Value → Bool
  | some (.str s) => g s
  | _ => false

theorem eqTest_str (s : String) : eqTest (.str s) = textTest (· == s) := by
  funext found
  rcases found with _ | ⟨_ | _ | _ | _ | _ | _ | _ | _ | _ | _⟩ <;> rfl

theorem containsTest_eq (t : String) : containsTest t = textTest (containsFolded · t) := by
  funext found
  rcases found with _ | ⟨_ | _ | _ | _ | _ | _ | _ | _ | _ | _⟩ <;> rfl

end Filter

namespace Query

/-- The wrapper a query narrows to, if it names a target resource that is not empty. -/
def narrowedTo (q : Query) : Option Category :=
  (nonEmpty q.targetResource).map fun t => Category.forTarget (some t)

/-- What a narrowing dimension asks of the payload of a filed document. -/
def payloadTest (q : Query) (p : Document) : Dimension → Bool
  | .action => q.action.all fun a => Filter.eqTest (.str a.name) (p.lookupPath Field.action.path)
  | .actor => (nonEmpty q.actor).all fun s => Filter.eqTest (.str s) (p.lookupPath Field.actor.path)
  | .targetUser =>
    (nonEmpty q.targetUser).all fun s => Filter.eqTest (.str s) (p.lookupPath Field.targetUser.path)
  | .resourceId =>
    (nonEmpty q.resourceId).all fun s => Filter.eqTest (.str s) (p.lookupPath Field.resourceId.path)
  | .window =>
    Filter.rangeTest (q.startDate.map Instant.toValue) (q.endDate.map Instant.toValue)
      (p.lookupPath Field.timestamp.path)
  | .search => q.searchTerm.all fun t => searchFields.any fun f => Filter.containsTest t (p.lookupPath f.path)

theorem scope_of_narrowedTo {q : Query} {c : Category} (h : q.narrowedTo = some c) : q.scope = [c] := by
  unfold narrowedTo at h
  unfold scope
  cases ht : nonEmpty q.targetResource <;> simp_all

theorem scope_of_narrowedTo_none {q : Query} (h : q.narrowedTo = none) : q.scope = Category.all := by
  unfold narrowedTo at h
  unfold scope
  cases ht : nonEmpty q.targetResource <;> simp_all

/-- The guard of a narrowed query asks for its wrapper's key to be present, whatever it holds. -/
theorem narrowing_all_iff (q : Query) (d : Document) :
    q.narrowing.all (·.accepts d) = true ↔ ∀ c, q.narrowedTo = some c → (d.get? c.key).isSome := by
  cases hn : q.narrowedTo with
  | none => simp [narrowing, scope_of_narrowedTo_none hn, Category.all]
  | some c => simp [narrowing, scope_of_narrowedTo hn, Document.lookupPath_key]

theorem mem_scope_iff (q : Query) (w : Category) : w ∈ q.scope ↔ ∀ c, q.narrowedTo = some c → w = c := by
  cases hn : q.narrowedTo with
  | none =>
    simp only [scope_of_narrowedTo_none hn, reduceCtorEq, false_implies, implies_true, iff_true]
    cases w <;> simp [Category.all]
  | some c => simp [scope_of_narrowedTo hn]

end Query

namespace FiledUnder

variable {d p : Document} {w : Category}

theorem accepts_exactClause (h : FiledUnder d w p) (q : Query) (field : Field) {v : Option String}
    {s : String} (hv : nonEmpty v = some s) :
    (q.exactClause field v).all (·.accepts d) =
      (decide (w ∈ q.scope) && Filter.eqTest (.str s) (p.lookupPath field.path)) := by
  simp [Query.exactClause, hv, h.accepts_anyWrapper q.scope (Filter.eqTest_none _)
    (F := fun c => .eq (c.path field) (.str s)) fun _ _ => rfl]

/-- On a filed document, the clause of a narrowing dimension holds when the payload's wrapper is
in scope and the payload passes the dimension's test. -/
theorem accepts_clausesOf (h : FiledUnder d w p) (q : Query) {i : Dimension}
    (hi : q.active i = true) :
    (q.clausesOf i).all (·.accepts d) = (decide (w ∈ q.scope) && q.payloadTest p i) := by
  cases i with
  | action =>
    obtain ⟨a, ha⟩ := Option.isSome_iff_exists.mp hi
    simp [Query.clausesOf, Query.payloadTest, ha, h.accepts_anyWrapper q.scope (Filter.eqTest_none _)
      (F := fun c => .eq (c.path .action) (.str a.name)) fun _ _ => rfl]
  | actor =>
    obtain ⟨s, hs⟩ := Option.isSome_iff_exists.mp hi
    simp [Query.clausesOf, Query.payloadTest, hs, h.accepts_exactClause q _ hs]
  | targetUser =>
    obtain ⟨s, hs⟩ := Option.isSome_iff_exists.mp hi
    simp [Query.clausesOf, Query.payloadTest, hs, h.accepts_exactClause q _ hs]
  | resourceId =>
    obtain ⟨s, hs⟩ := Option.isSome_iff_exists.mp hi
    simp [Query.clausesOf, Query.payloadTest, hs, h.accepts_exactClause q _ hs]
  | window =>
    have hw : (q.startDate.isSome || q.endDate.isSome) = true := hi
    simp [Query.clausesOf, Query.payloadTest, hw, h.accepts_anyWrapper q.scope (Filter.rangeTest_none _ _)
      (F := fun c => .range (c.path .timestamp) (q.startDate.map Instant.toValue)
        (q.endDate.map Instant.toValue)) fun _ _ => rfl]
  | search =>
    obtain ⟨t, ht⟩ := Option.isSome_iff_exists.mp hi
    simp [Query.clausesOf, Query.payloadTest, ht, h.accepts_search]

/-- A query's filter holds of a filed document when its guard holds and, if any dimension
narrows, the payload's wrapper is in scope and the payload passes every narrowing dimension. -/
theorem accepts_toFilter_iff (h : FiledUnder d w p) (q : Query) :
    q.toFilter.accepts d = true ↔
      (∀ c, q.narrowedTo = some c → (d.get? c.key).isSome) ∧
        ∀ i ∈ q.dimensions, w ∈ q.scope ∧ q.payloadTest p i = true := by
  rw [Query.accepts_toFilter_iff, Query.narrowing_all_iff]
  refine and_congr_right fun _ => forall₂_congr fun i hi => ?_
  rw [h.accepts_clausesOf q (List.mem_filter.mp hi).2, Bool.and_eq_true, decide_eq_true_iff]

end FiledUnder

end AuditTrail
