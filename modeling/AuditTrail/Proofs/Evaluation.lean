import AuditTrail.Filter.Match
import AuditTrail.Query

/-!
# Evaluating filters on filed documents

Every filter the store builds is a conjunction of clauses, and every clause is a disjunction over
wrappers of one test on one field under that wrapper, such as `item_action.actor = "alice"`. This
module says what such filters mean on a document that is *filed under* one wrapper: the wrapper
holds a payload document, and no other wrapper key holds a document. Other wrapper keys may be
missing or hold values of other kinds; documents that other tools wrote can look like that, and
the reader of stored events accepts them.

On a filed document a wrapper-qualified path either reaches into the payload or finds nothing,
so a disjunction over wrappers of a test on one field collapses to the test on the payload's
field, provided the payload's wrapper is in scope (`FiledUnder.accepts_anyWrapper`). The tests
are taken apart from the filters: each leaf filter reads the value found at its path through a
Boolean test that fails when nothing is found.

## Main results

* `Filter.accepts_conj`, `Filter.accepts_disj` — the collapsing combinators mean what `allOf`
  and `anyOf` mean
* `Document.lookupPath_path` — a wrapper-qualified path is its wrapper, then the field's segments
* `FiledUnder.lookupPath_path` — what a wrapper-qualified path finds in a filed document
* `FiledUnder.accepts_anyWrapper`, `FiledUnder.accepts_search` — clauses over wrappers, read on
  the payload
-/

namespace AuditTrail

/-! ### The combinators -/

namespace Filter

@[simp] theorem acceptsAll_eq (d : Document) (fs : List Filter) :
    acceptsAll d fs = fs.all (accepts d) := by
  induction fs with
  | nil => rfl
  | cons f rest ih => simp [acceptsAll, ih]

@[simp] theorem acceptsAny_eq (d : Document) (fs : List Filter) :
    acceptsAny d fs = fs.any (accepts d) := by
  induction fs with
  | nil => rfl
  | cons f rest ih => simp [acceptsAny, ih]

@[simp] theorem accepts_allOf (d : Document) (fs : List Filter) :
    (allOf fs).accepts d = fs.all (accepts d) := by
  simp [accepts]

@[simp] theorem accepts_anyOf (d : Document) (fs : List Filter) :
    (anyOf fs).accepts d = fs.any (accepts d) := by
  simp [accepts]

/-- A conjunction holds when every clause does, whether or not it collapsed a single clause. -/
theorem accepts_conj (d : Document) (fs : List Filter) :
    (conj fs).accepts d = fs.all (accepts d) := by
  unfold conj
  split <;> simp

/-- A disjunction holds when some clause does, whether or not it collapsed a single clause. -/
theorem accepts_disj (d : Document) (fs : List Filter) :
    (disj fs).accepts d = fs.any (accepts d) := by
  unfold disj
  split <;> simp

theorem accepts_anyWrapper_eq (d : Document) (scope : List Category) (F : Category → Filter) :
    (anyWrapper scope F).accepts d = scope.any fun c => (F c).accepts d := by
  simp [anyWrapper, accepts_disj, Function.comp_def]

/-! ### Leaf filters as tests on the value found -/

/-- What `eq` asks of the value found at its path. -/
def eqTest (v : Value) (found : Option Value) : Bool := found.any (·.same v)

/-- What `range` asks of the value found at its path. -/
def rangeTest (lo hi : Option Value) : Option Value → Bool
  | some v => lo.all v.atLeast && hi.all v.atMost
  | none => false

/-- What `contains` asks of the value found at its path. -/
def containsTest (t : String) : Option Value → Bool
  | some (.str s) => containsFolded s t
  | _ => false

@[simp] theorem accepts_present (d : Document) (path : String) :
    (present path).accepts d = (d.lookupPath path).isSome := rfl

@[simp] theorem accepts_eq (d : Document) (path : String) (v : Value) :
    (eq path v).accepts d = eqTest v (d.lookupPath path) := rfl

@[simp] theorem accepts_range (d : Document) (path : String) (lo hi : Option Value) :
    (range path lo hi).accepts d = rangeTest lo hi (d.lookupPath path) := rfl

@[simp] theorem accepts_contains (d : Document) (path : String) (t : String) :
    (contains path t).accepts d = containsTest t (d.lookupPath path) := rfl

@[simp] theorem eqTest_none (v : Value) : eqTest v none = false := rfl
@[simp] theorem rangeTest_none (lo hi : Option Value) : rangeTest lo hi none = false := rfl
@[simp] theorem containsTest_none (t : String) : containsTest t none = false := rfl

end Filter

namespace Value

/-- A date-time is at least a date-time bound when its milliseconds are. -/
theorem atLeast_date (a b : Int64) : (date a).atLeast (.date b) = decide (b.toInt ≤ a.toInt) := by
  simp only [atLeast, compareBound]
  cases h : compare a.toInt b.toInt
  · rw [Int.compare_eq_lt] at h; simp; omega
  · rw [Int.compare_eq_eq] at h; simp; omega
  · rw [Int.compare_eq_gt] at h; simp; omega

/-- A date-time is at most a date-time bound when its milliseconds are. -/
theorem atMost_date (a b : Int64) : (date a).atMost (.date b) = decide (a.toInt ≤ b.toInt) := by
  simp only [atMost, compareBound]
  cases h : compare a.toInt b.toInt
  · rw [Int.compare_eq_lt] at h; simp; omega
  · rw [Int.compare_eq_eq] at h; simp; omega
  · rw [Int.compare_eq_gt] at h; simp; omega

end Value

/-! ### Paths -/

theorem Category.dot_not_mem_key (c : Category) : '.' ∉ c.key.toList := by
  cases c <;> decide

theorem Category.mem_all (c : Category) : c ∈ Category.all := by
  cases c <;> decide

theorem Category.key_injective {c c' : Category} (h : c.key = c'.key) : c = c' := by
  cases c <;> cases c' <;> first | rfl | (simp [Category.key] at h)

namespace Document

theorem pathSegments_ne_nil (path : String) : pathSegments path ≠ [] := by
  simp [pathSegments, List.splitOn_ne_nil]

/-- A key without dots, a dot, and a path: the key is the first segment. -/
theorem pathSegments_dot (k path : String) (hk : '.' ∉ k.toList) :
    pathSegments (k ++ "." ++ path) = k :: pathSegments path := by
  have hsplit : (k.toList ++ '.' :: path.toList).splitOn '.' =
      k.toList :: path.toList.splitOn '.' :=
    List.splitOn_append_cons_of_forall_mem_beq_eq_false
      (fun x hx => by simpa using ne_of_mem_of_not_mem hx hk) '.' (by simp) path.toList
  have htext : (k ++ "." ++ path).toList = k.toList ++ '.' :: path.toList := by
    simp [String.toList_append]
  simp [pathSegments, htext, hsplit]

theorem pathSegments_key (c : Category) : pathSegments c.key = [c.key] := by
  cases c <;> decide

/-- A wrapper-qualified path looks the wrapper up, then follows the field's segments. -/
theorem lookupPath_path (d : Document) (c : Category) (f : Field) :
    d.lookupPath (c.path f) = descend (d.get? c.key) (pathSegments f.path) := by
  rw [lookupPath, Category.path, pathSegments_dot _ _ c.dot_not_mem_key]

theorem lookupPath_of_pathSegments {d : Document} {path k : String} {rest : List String}
    (h : pathSegments path = k :: rest) : d.lookupPath path = descend (d.get? k) rest := by
  rw [lookupPath, h]

theorem lookupPath_key (d : Document) (c : Category) : d.lookupPath c.key = d.get? c.key := by
  rw [lookupPath, pathSegments_key]
  rfl

/-- Following a path's segments from a document is looking the path up in it. -/
theorem descend_doc (p : Document) (path : String) :
    descend (some (.doc p)) (pathSegments path) = p.lookupPath path := by
  unfold lookupPath
  split
  · exact absurd ‹_› (pathSegments_ne_nil path)
  · rename_i k rest h
    rw [h]
    rfl

/-- Segments lead nowhere from a value that is not a document. -/
theorem descend_of_ne_doc {v : Option Value} (hv : ∀ q, v ≠ some (.doc q)) :
    ∀ {segs : List String}, segs ≠ [] → descend v segs = none
  | [], h => absurd rfl h
  | _ :: _, _ => by
    match v, hv with
    | none, _ => rfl
    | some (.doc q), hv => exact absurd rfl (hv q)
    | some .null, _ | some (.bool _), _ | some (.int32 _), _ | some (.int64 _), _
    | some (.double _), _ | some (.str _), _ | some (.oid _), _ | some (.date _), _
    | some (.arr _), _ => rfl

/-- A key below a value leads somewhere only from a document. -/
theorem descend_single_eq_some {v : Option Value} {k : String} {w : Value}
    (h : descend v [k] = some w) : ∃ cs, v = some (.doc cs) ∧ cs.lookup k = some w := by
  match v, h with
  | some (.doc cs), h => exact ⟨cs, rfl, h⟩

end Document

/-! ### Filed documents -/

/-- A document filed under `w`: the key of `w` holds the payload `p`, and no other wrapper key
holds a document. The other wrapper keys may be absent or hold values of other kinds. -/
structure FiledUnder (d : Document) (w : Category) (p : Document) : Prop where
  payload : d.get? w.key = some (.doc p)
  others : ∀ c, c ≠ w → ∀ q, d.get? c.key ≠ some (.doc q)

namespace FiledUnder

variable {d p : Document} {w : Category}

/-- Some wrapper of the scope is `w` exactly when `w` is in scope. -/
private theorem any_eq_mem (scope : List Category) (w : Category) :
    (scope.any fun c => decide (c = w)) = decide (w ∈ scope) := by
  induction scope with
  | nil => rfl
  | cons c rest ih =>
    by_cases h : c = w
    · simp [h]
    · simp [ih, h, Ne.symm h]

/-- In a filed document, a field under the payload's wrapper is the payload's field, and a field
under any other wrapper is missing. -/
theorem lookupPath_path (h : FiledUnder d w p) (c : Category) (f : Field) :
    d.lookupPath (c.path f) = if c = w then p.lookupPath f.path else none := by
  rw [Document.lookupPath_path]
  split
  · rename_i hc
    rw [hc, h.payload, Document.descend_doc]
  · exact Document.descend_of_ne_doc (h.others c ‹_›) (Document.pathSegments_ne_nil _)

/-- A disjunction over the wrappers in scope, each testing one field under its wrapper, holds of
a filed document exactly when the payload's wrapper is in scope and the test holds of the
payload's field. The test may be any reading of the value found that fails on a missing field. -/
theorem accepts_anyWrapper (h : FiledUnder d w p) (scope : List Category) {f : Field}
    {test : Option Value → Bool} (hnone : test none = false) {F : Category → Filter}
    (hF : ∀ c (d : Document), (F c).accepts d = test (d.lookupPath (c.path f))) :
    (anyWrapper scope F).accepts d = (decide (w ∈ scope) && test (p.lookupPath f.path)) := by
  rw [Filter.accepts_anyWrapper_eq]
  -- under every wrapper but `w` the test reads a missing field and fails
  have hc : ∀ c, (F c).accepts d = (decide (c = w) && test (p.lookupPath f.path)) := by
    intro c
    rw [hF, h.lookupPath_path]
    by_cases hcw : c = w <;> simp [hcw, hnone]
  simp only [hc]
  cases test (p.lookupPath f.path) <;> simp [any_eq_mem]

/-- The search clause over the wrappers in scope holds of a filed document exactly when the
payload's wrapper is in scope and some search field of the payload contains the term. -/
theorem accepts_search (h : FiledUnder d w p) (scope : List Category) (t : String) :
    (Filter.disj (scope.flatMap fun c => searchFields.map fun f => .contains (c.path f) t)).accepts d =
      (decide (w ∈ scope) && searchFields.any fun f => Filter.containsTest t (p.lookupPath f.path)) := by
  rw [Filter.accepts_disj, List.any_flatMap]
  have hc : ∀ c, (searchFields.map fun f => Filter.contains (c.path f) t).any (Filter.accepts d) =
      (decide (c = w) && searchFields.any fun f => Filter.containsTest t (p.lookupPath f.path)) := by
    intro c
    by_cases hcw : c = w <;> simp [List.any_map, h.lookupPath_path, hcw, Function.comp_def]
  simp only [hc]
  cases searchFields.any fun f => Filter.containsTest t (p.lookupPath f.path) <;> simp [any_eq_mem]

end FiledUnder

end AuditTrail
