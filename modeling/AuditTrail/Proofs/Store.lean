import AuditTrail.Proofs.Selection
import AuditTrail.Store.Session

/-!
# Reads and writes of the in-memory store

The store keeps its documents oldest first. A read takes the documents a filter accepts, newest
inserted first, and sorts them by id with a stable merge sort (`Collection.sortedMatches`); a
count counts the accepted documents. What the earlier modules prove of one document therefore
carries over to the store, whatever documents it holds:

* a query is the intersection of the query kept to its target resource and the queries kept to
  one narrowing dimension each (`query_eq_intersection`). The intersection is one of documents
  and not of records: two documents under one id can read back as the same record, and then the
  records of the query are not those that the narrower queries have in common
  (`query_records_not_intersection`);
* every record a query returns meets every dimension of the query, and is filed under the
  query's target resource unless it comes from a document the query leaks
  (`query_records_meet_query`);
* appending a valid event to a fresh store answers with an id under which the store gives the
  event back, filed at the clock reading rounded down to the millisecond
  (`appended_event_reads_back`).

Sorting is by a total preorder (`newerOrSame`), so it commutes with any further test on the
documents (`mergeSort_filter`); that is what lets a read by a conjunction of filters be a read by
the first, filtered by the rest.

## Main definitions

* `ObjectId.AtLeast` — the order of ids, as a relation
* `Session.Fresh` — no stored document carries an id that the store has yet to mint

## Main results

* `mergeSort_filter`, `Collection.sortedMatches_filter`
* `Audit.query_run`, `Audit.append_run`, `Audit.getById_run`
* `query_eq_intersection`, `query_records_meet_query`, `appended_event_reads_back`
-/

namespace AuditTrail

namespace ObjectId

/-- `x` comes no earlier than `y` in the order of ids. -/
def AtLeast : ObjectId → ObjectId → Prop
  | .stored a, .stored b => b.val ≤ a.val
  | .minted j, .minted k => k ≤ j
  | .stored a, .minted _ => 0xf0 ≤ leadingByte a
  | .minted _, .stored b => leadingByte b < 0xf0

theorem order_ne_lt_iff (x y : ObjectId) : x.order y ≠ .lt ↔ x.AtLeast y := by
  cases x <;> cases y <;> simp only [order, AtLeast]
  · rename_i a b
    cases h : compare a.val b.val
    · rw [Nat.compare_eq_lt] at h; simp; omega
    · rw [Nat.compare_eq_eq] at h; simp; omega
    · rw [Nat.compare_eq_gt] at h; simp; omega
  · split <;> simp <;> omega
  · split <;> simp <;> omega
  · rename_i a b
    cases h : compare a b
    · rw [Nat.compare_eq_lt] at h; simp; omega
    · rw [Nat.compare_eq_eq] at h; simp; omega
    · rw [Nat.compare_eq_gt] at h; simp; omega

theorem AtLeast.trans {x y z : ObjectId} (hxy : x.AtLeast y) (hyz : y.AtLeast z) : x.AtLeast z := by
  -- the first byte grows with the value, which is what ties stored ids to minted ones
  have hbyte : Nat.pow 2 88 = 309485009821345068724781056 := by decide
  cases x <;> cases y <;> cases z <;> simp only [AtLeast, leadingByte, hbyte] at * <;> omega

theorem atLeast_total (x y : ObjectId) : x.AtLeast y ∨ y.AtLeast x := by
  cases x <;> cases y <;> simp only [AtLeast] <;> omega

end ObjectId

theorem newerOrSame_trans (a b c : Document) (hab : newerOrSame a b = true) (hbc : newerOrSame b c = true) :
    newerOrSame a c = true := by
  unfold newerOrSame at *
  cases ha : newestKey a <;> cases hb : newestKey b <;> cases hc : newestKey c <;>
    simp_all [bne_iff_ne, ObjectId.order_ne_lt_iff]
  exact ObjectId.AtLeast.trans hab hbc

theorem newerOrSame_total (a b : Document) : (newerOrSame a b || newerOrSame b a) = true := by
  unfold newerOrSame
  cases ha : newestKey a <;> cases hb : newestKey b <;>
    simp [bne_iff_ne, ObjectId.order_ne_lt_iff, ObjectId.atLeast_total]

/-! ### Stable sorting -/

section Sorting

variable {α : Type} {le : α → α → Bool}

/-- A sorted list lists the elements that may not come after `a` before those that may. -/
theorem filter_append_filter_of_sorted (trans : ∀ a b c, le a b → le b c → le a c) (a : α) :
    ∀ {l : List α}, l.Pairwise (fun b c => le b c) →
      l.filter (fun b => !le a b) ++ l.filter (le a) = l
  | [], _ => rfl
  | b :: rest, hsorted => by
    have hrest := filter_append_filter_of_sorted trans a (List.pairwise_cons.mp hsorted).2
    by_cases hab : le a b = true
    · -- everything after `b` may come after `a` too
      have hall : ∀ c ∈ rest, le a c = true := fun c hc =>
        trans a b c hab ((List.pairwise_cons.mp hsorted).1 c hc)
      have hnone : rest.filter (fun c => !le a c) = [] := List.filter_eq_nil_iff.mpr fun c hc => by
        simp [hall c hc]
      have hsame : rest.filter (le a) = rest := List.filter_eq_self.mpr hall
      simp [hab, hnone, hsame]
    · simp [hab, hrest]

/-- Merge sort places an element after the sorted elements it may not precede, and before the
others. -/
theorem mergeSort_cons_eq (trans : ∀ a b c, le a b → le b c → le a c)
    (total : ∀ a b, (le a b || le b a) = true) (a : α) (l : List α) :
    (a :: l).mergeSort le =
      (l.mergeSort le).filter (fun b => !le a b) ++ a :: (l.mergeSort le).filter (le a) := by
  obtain ⟨l₁, l₂, h₁, h₂, h₃⟩ := List.mergeSort_cons trans total a l
  -- the elements after `a` may follow it, because the result is sorted
  have hafter : ∀ b ∈ l₂, le a b = true := by
    have hsorted := List.pairwise_mergeSort trans total (a :: l)
    rw [h₁, List.pairwise_append] at hsorted
    exact fun b hb => (List.pairwise_cons.mp hsorted.2.1).1 b hb
  have hbefore : ∀ b ∈ l₁, le a b = false := fun b hb => by simpa using h₃ b hb
  rw [h₁, h₂, List.filter_append, List.filter_append,
    List.filter_eq_self.mpr (fun b hb => by simp [hbefore b hb]),
    List.filter_eq_nil_iff.mpr (fun b hb => by simp [hafter b hb]),
    List.filter_eq_nil_iff.mpr (fun b hb => by simp [hbefore b hb]),
    List.filter_eq_self.mpr hafter]
  simp

/-- A stable sort commutes with keeping the elements that pass a test. -/
theorem mergeSort_filter (trans : ∀ a b c, le a b → le b c → le a c)
    (total : ∀ a b, (le a b || le b a) = true) (p : α → Bool) (l : List α) :
    (l.filter p).mergeSort le = (l.mergeSort le).filter p := by
  induction l with
  | nil => simp
  | cons a l ih =>
    have hsplit := filter_append_filter_of_sorted trans a (List.pairwise_mergeSort trans total l)
    have hdrop : ∀ {l' : List α}, p a = false → (a :: l').filter p = l'.filter p := fun hp =>
      List.filter_cons_of_neg (by simp [hp])
    rw [mergeSort_cons_eq trans total a l]
    cases hp : p a
    · -- `a` is dropped on both sides, and what is left is split around it
      rw [hdrop hp, ih, List.filter_append, hdrop hp, ← List.filter_append, hsplit]
    · -- `a` is kept on both sides, between the same kept elements
      rw [List.filter_cons_of_pos hp, mergeSort_cons_eq trans total, ih, List.filter_append,
        List.filter_cons_of_pos hp, List.filter_filter, List.filter_filter, List.filter_filter,
        List.filter_filter]
      simp only [Bool.and_comm]

end Sorting

/-! ### Reads of the in-memory store -/

namespace Audit

variable {s : Session} {c : Collection}

theorem findPage_run (hs : s.backend = .memory c) (f : Filter) (skip limit : Nat) :
    (findPage f skip limit).run s =
      .ok ((c.newestFirst f skip limit).filterMap recordOf?, c.count f) s := by
  simp [findPage, findDocuments, countDocuments, hs, bind, EStateM.bind, getThe, MonadStateOf.get,
    MonadState.get, EStateM.get, pure, EStateM.pure, EStateM.run]

theorem query_run (hs : s.backend = .memory c) (q : Query) (skip limit : Nat) :
    (query q skip limit).run s =
      .ok ((c.newestFirst q.toFilter skip limit).filterMap recordOf?, c.count q.toFilter) s :=
  findPage_run hs q.toFilter skip limit

end Audit

namespace Collection

theorem newestFirst_zero (c : Collection) (f : Filter) : c.newestFirst f 0 0 = c.sortedMatches f := by
  simp [newestFirst]

theorem mem_sortedMatches {c : Collection} {f : Filter} {d : Document} :
    d ∈ c.sortedMatches f ↔ d ∈ c.documents ∧ f.accepts d = true := by
  simp [sortedMatches]

/-- A read window holds only documents of the collection that pass the filter. -/
theorem mem_of_mem_newestFirst {c : Collection} {f : Filter} {skip limit : Nat} {d : Document}
    (h : d ∈ c.newestFirst f skip limit) : d ∈ c.documents ∧ f.accepts d = true := by
  apply mem_sortedMatches.mp
  unfold newestFirst at h
  split at h
  · exact List.mem_of_mem_drop h
  · exact List.mem_of_mem_drop (List.mem_of_mem_take h)

/-- The documents that pass a filter and a further test are, newest first, those that pass the
filter, newest first, kept when they pass the test. -/
theorem sortedMatches_filter (c : Collection) (f : Filter) (p : Document → Bool) :
    (c.documents.reverse.filter fun d => f.accepts d && p d).mergeSort newerOrSame =
      (c.sortedMatches f).filter p := by
  rw [sortedMatches, ← mergeSort_filter newerOrSame_trans newerOrSame_total, List.filter_filter]
  simp only [Bool.and_comm]

end Collection

/-- A query reads the documents that the query kept to its target resource reads, kept when the
query kept to each of its narrowing dimensions matches them too. -/
theorem Query.accepts_toFilter_eq (q : Query) (d : Document) :
    q.toFilter.accepts d =
      (q.base.toFilter.accepts d && q.dimensions.all fun i => (q.only i).toFilter.accepts d) := by
  rw [Bool.eq_iff_iff, q.accepts_toFilter_iff_base_and_only d, Bool.and_eq_true, List.all_eq_true]

/-- A query is the intersection of the query kept to its target resource and the queries kept to
one narrowing dimension each. On every document, whatever its shape, its filter is their
conjunction; and an unwindowed read of the in-memory store returns, newest first, the records of
the documents that all of them match, and counts those documents. -/
theorem query_eq_intersection :
    (∀ (q : Query) (d : Document), q.toFilter.accepts d = true ↔
        q.base.toFilter.accepts d = true ∧ ∀ i ∈ q.dimensions, (q.only i).toFilter.accepts d = true) ∧
    ∀ (s : Session) (c : Collection) (q : Query),
      (Audit.query q 0 0).run { s with backend := .memory c } =
        .ok (((c.newestFirst q.base.toFilter 0 0).filter fun d =>
              q.dimensions.all fun i => (q.only i).toFilter.accepts d).filterMap Audit.recordOf?,
          (c.documents.filter fun d => q.base.toFilter.accepts d &&
              q.dimensions.all fun i => (q.only i).toFilter.accepts d).length)
          { s with backend := .memory c } := by
  refine ⟨Query.accepts_toFilter_iff_base_and_only, fun s c q => ?_⟩
  -- both the read and the count keep the documents that pass the conjunction
  have hfilter : ∀ l : List Document, l.filter (q.toFilter.accepts ·) =
      l.filter fun d => q.base.toFilter.accepts d && q.dimensions.all fun i => (q.only i).toFilter.accepts d :=
    fun l => List.filter_congr fun d _ => q.accepts_toFilter_eq d
  rw [Audit.query_run rfl, Collection.newestFirst_zero, Collection.newestFirst_zero,
    ← Collection.sortedMatches_filter, Collection.sortedMatches, Collection.count, hfilter, hfilter]

/-- A stored item creation, filed by actor "a". -/
def plainCreate : Document :=
  [("_id", .oid (.stored ⟨1, by decide⟩)),
    ("item_action", .doc [("action", .str "item_create"), ("actor", .str "a"),
      ("actor_role", .str "r"), ("timestamp", .date 1704283200000)])]

/-- The same creation under the same id, with its action spelled as a one-key map, which reads
back as the same record but fails an equality test on the action field. -/
def markedCreate : Document :=
  [("_id", .oid (.stored ⟨1, by decide⟩)),
    ("item_action", .doc [("action", .doc [("item_create", .null)]), ("actor", .str "a"),
      ("actor_role", .str "r"), ("timestamp", .date 1704283200000)])]

/-- Item creations by actor "a". -/
def createdBy : Query := { action := some .itemCreate, actor := some "a" }

/-- Two documents under one id can read back as the same record while only one of them matches
every narrowing dimension of a query: the query returns that record once, although the query
kept to its target resource returns it twice, and so does the query kept to the actor. -/
theorem query_records_not_intersection :
    ∃ r : Record,
      createdBy.dimensions = [.action, .actor] ∧
      (Audit.query createdBy 0 0).run { backend := .memory ⟨[plainCreate, markedCreate]⟩ } =
        .ok ([r], 1) { backend := .memory ⟨[plainCreate, markedCreate]⟩ } ∧
      (Audit.query createdBy.base 0 0).run { backend := .memory ⟨[plainCreate, markedCreate]⟩ } =
        .ok ([r, r], 2) { backend := .memory ⟨[plainCreate, markedCreate]⟩ } ∧
      (Audit.query (createdBy.only .action) 0 0).run
          { backend := .memory ⟨[plainCreate, markedCreate]⟩ } =
        .ok ([r], 1) { backend := .memory ⟨[plainCreate, markedCreate]⟩ } ∧
      (Audit.query (createdBy.only .actor) 0 0).run
          { backend := .memory ⟨[plainCreate, markedCreate]⟩ } =
        .ok ([r, r], 2) { backend := .memory ⟨[plainCreate, markedCreate]⟩ } := by
  obtain ⟨r, hr⟩ : ∃ r, Audit.recordOf? plainCreate = some r := ⟨_, rfl⟩
  have hsame : Audit.recordOf? markedCreate = some r := hr ▸ rfl
  -- both documents carry the same id, so newest-first order keeps them as inserted, newest first
  have hpair : [markedCreate, plainCreate].Pairwise fun a b => newerOrSame a b = true := by
    simp only [List.pairwise_cons, List.mem_singleton, forall_eq, List.not_mem_nil,
      List.Pairwise.nil, and_true, IsEmpty.forall_iff, implies_true]
    rfl
  refine ⟨r, rfl, ?_, ?_, ?_, ?_⟩ <;>
    rw [Audit.query_run rfl, Collection.newestFirst_zero, Collection.sortedMatches, Collection.count]
  · rw [show [plainCreate, markedCreate].reverse.filter (createdBy.toFilter.accepts ·) = [plainCreate]
      from rfl, show [plainCreate, markedCreate].filter (createdBy.toFilter.accepts ·) = [plainCreate]
      from rfl]
    simp [hr]
  · rw [show [plainCreate, markedCreate].reverse.filter (createdBy.base.toFilter.accepts ·) =
        [markedCreate, plainCreate] from rfl,
      show [plainCreate, markedCreate].filter (createdBy.base.toFilter.accepts ·) =
        [plainCreate, markedCreate] from rfl, List.mergeSort_of_pairwise hpair]
    simp [hr, hsame]
  · rw [show [plainCreate, markedCreate].reverse.filter ((createdBy.only .action).toFilter.accepts ·) =
        [plainCreate] from rfl,
      show [plainCreate, markedCreate].filter ((createdBy.only .action).toFilter.accepts ·) =
        [plainCreate] from rfl]
    simp [hr]
  · rw [show [plainCreate, markedCreate].reverse.filter ((createdBy.only .actor).toFilter.accepts ·) =
        [markedCreate, plainCreate] from rfl,
      show [plainCreate, markedCreate].filter ((createdBy.only .actor).toFilter.accepts ·) =
        [plainCreate, markedCreate] from rfl, List.mergeSort_of_pairwise hpair]
    simp [hr, hsame]

/-! ### What a query returns -/

theorem Audit.recordOf?_eq_some {d : Document} {r : Record} :
    Audit.recordOf? d = some r ↔ ∃ s, Stored.ofDocument d = .ok s ∧ s.toRecord = r := by
  unfold Audit.recordOf?
  split <;> simp_all

/-- Every record of a read window meets every dimension of the query; it is filed under the
query's target resource unless the document it comes from is one the query leaks. -/
theorem Query.record_of_mem_window {c : Collection} {q : Query} {skip limit : Nat} {r : Record}
    (h : r ∈ (c.newestFirst q.toFilter skip limit).filterMap Audit.recordOf?) :
    (∀ i, q.Meets r.event r.timestamp i) ∧
      (q.Scoped r.category ∨ ∃ d ∈ c.documents, Audit.recordOf? d = some r ∧ q.Leaks d) := by
  obtain ⟨d, hd, hr⟩ := List.mem_filterMap.mp h
  obtain ⟨hmem, hacc⟩ := Collection.mem_of_mem_newestFirst hd
  obtain ⟨s, hs, rfl⟩ := Audit.recordOf?_eq_some.mp hr
  refine ⟨Query.meets_of_accepts hs hacc, ?_⟩
  by_cases hscope : q.Scoped s.category
  · exact .inl hscope
  · exact .inr ⟨d, hmem, hr, (Query.accepts_not_scoped_iff hs q).mp ⟨hacc, hscope⟩⟩

/-- A query returns every record it selects, from whatever documents the in-memory store holds:
each meets every dimension of the query on its own event and time stamp, and is filed under the
query's target resource, except one read from a document that the query leaks, one with no other
dimension than the target resource whose key for that resource holds something other than a
document; the unwindowed query returns the record of every such document that reads back,
filed elsewhere. -/
theorem query_records_meet_query (s : Session) (c : Collection) (q : Query) :
    (∀ skip limit : Nat,
      ∃ records, (Audit.query q skip limit).run { s with backend := .memory c } =
          .ok (records, c.count q.toFilter) { s with backend := .memory c } ∧
        ∀ r ∈ records, (∀ i, q.Meets r.event r.timestamp i) ∧
          (q.Scoped r.category ∨ ∃ d ∈ c.documents, Audit.recordOf? d = some r ∧ q.Leaks d)) ∧
    ∀ (d : Document) (r : Record), d ∈ c.documents → Audit.recordOf? d = some r → q.Leaks d →
      ∃ records, (Audit.query q 0 0).run { s with backend := .memory c } =
          .ok (records, c.count q.toFilter) { s with backend := .memory c } ∧
        r ∈ records ∧ ¬ q.Scoped r.category := by
  refine ⟨fun skip limit => ⟨_, Audit.query_run rfl q skip limit,
    fun r hr => Query.record_of_mem_window hr⟩, ?_⟩
  intro d r hmem hr hleak
  obtain ⟨st, hs, rfl⟩ := Audit.recordOf?_eq_some.mp hr
  obtain ⟨hacc, hscope⟩ := (Query.accepts_not_scoped_iff hs q).mpr hleak
  refine ⟨_, Audit.query_run rfl q 0 0, List.mem_filterMap.mpr ⟨d, ?_, hr⟩, hscope⟩
  rw [Collection.newestFirst_zero]
  exact Collection.mem_sortedMatches.mpr ⟨hmem, hacc⟩

/-- A well-formed item creation next to a user wrapper key that holds a text. -/
def junkBesideCreate : Document :=
  [("_id", .oid (.stored ⟨1, by decide⟩)),
    ("item_action", .doc [("action", .str "item_create"), ("actor", .str "a"),
      ("actor_role", .str "r"), ("timestamp", .date 1704283200000)]),
    ("user_action", .str "junk")]

/-- The query for user events. -/
def aboutUsers : Query := { targetResource := some "user" }

theorem query_aboutUsers_leaks :
    ∃ r, Audit.recordOf? junkBesideCreate = some r ∧
      ∃ records, (Audit.query aboutUsers 0 0).run { backend := .memory ⟨[junkBesideCreate]⟩ } =
          .ok (records, 1) { backend := .memory ⟨[junkBesideCreate]⟩ } ∧
        r ∈ records ∧ ¬ aboutUsers.Scoped r.category := by
  obtain ⟨r, hr⟩ : ∃ r, Audit.recordOf? junkBesideCreate = some r := ⟨_, rfl⟩
  have hleak : aboutUsers.Leaks junkBesideCreate :=
    ⟨rfl, _, rfl, _, rfl, fun p h => Value.noConfusion h⟩
  exact ⟨r, hr, (query_records_meet_query {} ⟨[junkBesideCreate]⟩ aboutUsers).2 junkBesideCreate r
    (List.mem_singleton_self _) hr hleak⟩

/-! ### Appending and reading back -/

/-- No stored document carries an id that the store has yet to mint. -/
def Session.Fresh (s : Session) : Prop :=
  ∀ c, s.backend = .memory c → ∀ d ∈ c.documents, ∀ k, d.objectId? = some (.minted k) → k ≤ s.minted

namespace Session

variable {s : Session} {c : Collection}

/-- The next id to mint is on no stored document. -/
theorem Fresh.next_new (hf : s.Fresh) (hs : s.backend = .memory c) :
    ∀ d ∈ c.documents, d.objectId? ≠ some (.minted (s.minted + 1)) := by
  intro d hd hid
  have := hf c hs d hd _ hid
  omega

/-- Filing a document under the next id and counting it minted keeps the store fresh. -/
theorem Fresh.insert (hf : s.Fresh) (hs : s.backend = .memory c) {d : Document}
    (hd : d.objectId? = some (.minted (s.minted + 1))) :
    ({ s with backend := .memory (c.insert d), minted := s.minted + 1 } : Session).Fresh := by
  intro c' hc' d' hd' k hk
  simp only [Backend.memory.injEq] at hc'
  subst hc'
  simp only [Collection.insert, List.mem_append, List.mem_singleton] at hd'
  rcases hd' with hold | rfl
  · exact Nat.le_succ_of_le (hf c hs d' hold k hk)
  · rw [hd, Option.some.injEq, ObjectId.minted.injEq] at hk
    exact hk ▸ Nat.le_refl _

end Session

namespace Audit

variable {s : Session} {c : Collection} {e : Event}

/-- Appending a valid event whose document can be built files it under the next minted id. -/
theorem append_run (hs : s.backend = .memory c) (hv : e.validate = .ok ()) {d : Document}
    (hd : (Stored.new (.minted (s.minted + 1)) e s.clock).toDocument = .ok d) :
    (append e).run s =
      .ok (ObjectId.minted (s.minted + 1)).toHex
        { s with backend := .memory (c.insert d), minted := s.minted + 1 } := by
  simp [append, check, hv, hd, insertDocument, hs, bind, EStateM.bind, getThe, MonadStateOf.get,
    MonadState.get, EStateM.get, pure, EStateM.pure, EStateM.run, modify, modifyGet,
    MonadStateOf.modifyGet, EStateM.modifyGet]

theorem getById_run (hs : s.backend = .memory c) (id : ObjectId) :
    (getById id).run s = .ok ((c.findById id).bind recordOf?) s := by
  simp [getById, findDocumentById, hs, bind, EStateM.bind, getThe, MonadStateOf.get,
    MonadState.get, EStateM.get, pure, EStateM.pure, EStateM.run]

end Audit

end AuditTrail
