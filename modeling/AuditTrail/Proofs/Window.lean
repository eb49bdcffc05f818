import AuditTrail.Proofs.Store

/-!
# Read windows of the in-memory collection

A read lists the documents that pass a filter newest first and returns a window of that list.
The order is fixed by two keys: the document's object id (`newestKey`), larger ids first and
documents without one last, and among equal keys the recency of insertion, most recent first.
This module states that order on its own terms, as a relation on documents ranked by recency
(`Precedes`), and proves that the collection's stable merge sort produces the one list ordered
by it (`Collection.sortedMatches_spec`).

From there a read window is a slice of that list, and windows that meet join into the window that
spans them, for the collection and for the store's queries alike. When no two documents share a
sort key, the tie-break by recency never applies, and the order in which the documents were
inserted no longer shows. The condition is on sort keys, not on the `_id` values themselves: ids
that are not object ids all sort as missing, so two documents under the distinct ids `"a"` and
`"b"` still come out in reverse insertion order (`text_ids_keep_insertion_order`).

## Main definitions

* `KeyNewer` — the strict order of sort keys
* `Collection.byRecency`, `Precedes` — the matching documents ranked by recency, and their order
* `PagesJoin` — consecutive windows of a read join into one

## Main results

* `Collection.sortedMatches_spec`, `eq_of_precedes`
* `Collection.getElem?_newestFirst`, `Collection.newestFirst_append`
* `Collection.sortedMatches_of_perm`
* `newestFirst_is_window`
-/

namespace AuditTrail

/-! ### Sort keys -/

namespace ObjectId

theorem order_swap (x y : ObjectId) : (x.order y).swap = y.order x := by
  cases x <;> cases y <;> simp only [order]
  · exact Nat.compare_swap _ _
  · split <;> rfl
  · split <;> rfl
  · exact Nat.compare_swap _ _

theorem order_eq_eq {x y : ObjectId} : x.order y = .eq ↔ x = y := by
  cases x <;> cases y <;> simp only [order, stored.injEq, minted.injEq, reduceCtorEq, iff_false]
  · rw [Nat.compare_eq_eq, Fin.ext_iff]
  · split <;> simp
  · split <;> simp
  · exact Nat.compare_eq_eq

end ObjectId

/-- `k` is a newer sort key than `k'`: both are ids and `k` is the later one, or only `k` is an
id. -/
def KeyNewer : Option ObjectId → Option ObjectId → Prop
  | some x, some y => x.order y = .gt
  | some _, none => True
  | none, _ => False

namespace KeyNewer

theorem asymm {k k' : Option ObjectId} (h : KeyNewer k k') : ¬ KeyNewer k' k := by
  match k, k' with
  | none, _ => exact absurd h id
  | some _, none => exact id
  | some x, some y =>
    simp only [KeyNewer] at *
    rw [← ObjectId.order_swap, h]
    decide

theorem irrefl (k : Option ObjectId) : ¬ KeyNewer k k := fun h => h.asymm h

/-- Two sort keys are equal or one is the newer. -/
theorem trichotomy (k k' : Option ObjectId) : KeyNewer k k' ∨ k = k' ∨ KeyNewer k' k := by
  match k, k' with
  | none, none => exact .inr (.inl rfl)
  | none, some _ => exact .inr (.inr trivial)
  | some _, none => exact .inl trivial
  | some x, some y =>
    simp only [KeyNewer, Option.some.injEq]
    rw [← ObjectId.order_swap x y, ← ObjectId.order_eq_eq]
    cases x.order y <;> simp

end KeyNewer

/-- The comparison the sort uses says that `b`'s key is not newer than `a`'s. -/
theorem newerOrSame_eq_true_iff (a b : Document) :
    newerOrSame a b = true ↔ ¬ KeyNewer (newestKey b) (newestKey a) := by
  unfold newerOrSame
  cases newestKey a <;> cases newestKey b <;> simp only [KeyNewer, not_true, not_false_eq_true]
  · decide
  · rename_i x y
    rw [← ObjectId.order_swap x y]
    cases x.order y <;> decide

/-! ### The order of a read -/

/-- The documents of a collection that pass a filter, most recently inserted first, each with its
rank in that order. -/
def Collection.byRecency (c : Collection) (f : Filter) : List (Document × Nat) :=
  (c.documents.reverse.filter (f.accepts ·)).zipIdx

/-- Newest first, `a` comes before `b`: its sort key is newer, or the keys are equal and it was
inserted more recently. -/
def Precedes (a b : Document × Nat) : Prop :=
  KeyNewer (newestKey a.1) (newestKey b.1) ∨ (newestKey a.1 = newestKey b.1 ∧ a.2 < b.2)

theorem Precedes.asymm {a b : Document × Nat} (h : Precedes a b) : ¬ Precedes b a := by
  rintro (hba | ⟨hkey, hrank⟩)
  · rcases h with hab | ⟨hkey, -⟩
    · exact hab.asymm hba
    · exact KeyNewer.irrefl _ (hkey ▸ hba)
  · rcases h with hab | ⟨-, hrank'⟩
    · exact KeyNewer.irrefl _ (hkey ▸ hab)
    · omega

/-- Only one arrangement of ranked documents is ordered by `Precedes`. -/
theorem eq_of_precedes {l l' : List (Document × Nat)} (h : l.Perm l') (hl : l.Pairwise Precedes)
    (hl' : l'.Pairwise Precedes) : l = l' :=
  h.eq_of_pairwise (fun _ _ _ _ hab hba => absurd hba hab.asymm) hl hl'

/-- The order merge sort gives to ranked elements, where ranks differ, is `Precedes`. -/
theorem precedes_of_zipIdxLE {a b : Document × Nat} (hle : List.zipIdxLE newerOrSame a b = true)
    (hne : a.2 ≠ b.2) : Precedes a b := by
  unfold List.zipIdxLE at hle
  by_cases hab : newerOrSame a.1 b.1 = true
  · by_cases hba : newerOrSame b.1 a.1 = true
    · -- neither key is newer, so they are equal and the ranks decide
      simp only [hab, hba, if_true, decide_eq_true_eq] at hle
      rw [newerOrSame_eq_true_iff] at hab hba
      rcases KeyNewer.trichotomy (newestKey a.1) (newestKey b.1) with h | h | h
      · exact absurd h hba
      · exact .inr ⟨h, by omega⟩
      · exact absurd h hab
    · rw [newerOrSame_eq_true_iff, not_not] at hba
      exact .inl hba
  · simp [hab] at hle

namespace Collection

/-- A read lists the matching documents in the one order that `Precedes` allows: merge sort is
stable, so sorting by key keeps equal keys in the order of recency. -/
theorem sortedMatches_spec (c : Collection) (f : Filter) :
    ∃ l : List (Document × Nat), l.Perm (c.byRecency f) ∧ l.Pairwise Precedes ∧
      c.sortedMatches f = l.map Prod.fst := by
  let l := (c.byRecency f).mergeSort (List.zipIdxLE newerOrSame)
  have hperm : l.Perm (c.byRecency f) := List.mergeSort_perm _ _
  have hsorted : l.Pairwise (List.zipIdxLE newerOrSame · ·) :=
    List.pairwise_mergeSort (List.zipIdxLE_trans newerOrSame_trans)
      (List.zipIdxLE_total newerOrSame_total) _
  -- the ranks are distinct, as they were before sorting
  have hranks : l.Pairwise fun a b => a.2 ≠ b.2 := by
    have hnodup : (l.map Prod.snd).Nodup := by
      rw [(hperm.map Prod.snd).nodup_iff, byRecency, List.zipIdx_map_snd]
      exact List.nodup_range'
    exact List.pairwise_map.mp hnodup
  exact ⟨l, hperm, (hsorted.and hranks).imp fun ⟨hle, hne⟩ => precedes_of_zipIdxLE hle hne,
    List.mergeSort_zipIdx.symm⟩

theorem length_byRecency (c : Collection) (f : Filter) : (c.byRecency f).length = c.count f := by
  simp [byRecency, count]

/-- The `i`-th document of a window is the `skip + i`-th of the read, within the limit. -/
theorem getElem?_newestFirst (c : Collection) (f : Filter) (skip limit i : Nat) :
    (c.newestFirst f skip limit)[i]? =
      if limit = 0 ∨ i < limit then (c.sortedMatches f)[skip + i]? else none := by
  unfold newestFirst
  by_cases h : limit = 0 <;> simp [h, List.getElem?_take, List.getElem?_drop]

/-- Two windows that meet join into the window that spans both. -/
theorem newestFirst_append (c : Collection) (f : Filter) {skip a b : Nat} (ha : 0 < a)
    (hb : 0 < b) :
    c.newestFirst f skip a ++ c.newestFirst f (skip + a) b = c.newestFirst f skip (a + b) := by
  simp only [newestFirst, Nat.ne_of_gt ha, Nat.ne_of_gt hb, Nat.ne_of_gt (Nat.add_pos_left ha b),
    if_false]
  rw [List.take_add, List.drop_drop]

/-- Without two documents under one sort key, a read lists the matches by strictly decreasing
key. -/
theorem sortedMatches_keyNewer {c : Collection} (hkeys : (c.documents.map newestKey).Nodup)
    (f : Filter) :
    (c.sortedMatches f).Pairwise fun a b => KeyNewer (newestKey a) (newestKey b) := by
  have hperm : (c.sortedMatches f).Perm (c.documents.reverse.filter (f.accepts ·)) :=
    List.mergeSort_perm _ _
  have hsorted : (c.sortedMatches f).Pairwise (newerOrSame · ·) :=
    List.pairwise_mergeSort newerOrSame_trans newerOrSame_total _
  -- the matches are a sublist of the documents, so their keys are distinct too
  have hdistinct : (c.sortedMatches f).Pairwise fun a b => newestKey a ≠ newestKey b := by
    have hsub : ((c.documents.reverse.filter (f.accepts ·)).map newestKey).Sublist
        (c.documents.map newestKey).reverse := by
      rw [← List.map_reverse]
      exact (List.filter_sublist).map _
    exact List.pairwise_map.mp ((hperm.map newestKey).nodup_iff.mpr
      (List.nodup_reverse.mpr hkeys |>.sublist hsub))
  refine (hsorted.and hdistinct).imp fun ⟨hle, hne⟩ => ?_
  rw [newerOrSame_eq_true_iff] at hle
  rcases KeyNewer.trichotomy (newestKey _) (newestKey _) with h | h | h
  · exact h
  · exact absurd h hne
  · exact absurd h hle

/-- Without two documents under one sort key, the order of insertion does not show in reads. -/
theorem sortedMatches_of_perm {c c' : Collection} (h : c.documents.Perm c'.documents)
    (hkeys : (c.documents.map newestKey).Nodup) (f : Filter) :
    c.sortedMatches f = c'.sortedMatches f := by
  have hkeys' : (c'.documents.map newestKey).Nodup := ((h.map newestKey).nodup_iff).mp hkeys
  -- both reads sort the same matches, only listed in another order
  have hmatches : (c.documents.reverse.filter (f.accepts ·)).Perm
      (c'.documents.reverse.filter (f.accepts ·)) :=
    ((List.reverse_perm _).trans (h.trans (List.reverse_perm _).symm)).filter _
  have hperm : (c.sortedMatches f).Perm (c'.sortedMatches f) :=
    (List.mergeSort_perm _ _).trans (hmatches.trans (List.mergeSort_perm _ _).symm)
  exact hperm.eq_of_pairwise (fun _ _ _ _ hab hba => absurd hba hab.asymm)
    (sortedMatches_keyNewer hkeys f) (sortedMatches_keyNewer hkeys' f)

theorem count_of_perm {c c' : Collection} (h : c.documents.Perm c'.documents) (f : Filter) :
    c.count f = c'.count f :=
  (h.filter _).length_eq

end Collection

/-! ### Pages of store reads -/

/-- Two consecutive windows of a read join into the window that spans both, and all three report
one total. -/
def PagesJoin (read : Nat → Nat → Audit (List Record × Nat)) (s : Session) (skip a b : Nat) :
    Prop :=
  ∃ r₁ r₂ total, (read skip a).run s = .ok (r₁, total) s ∧
    (read (skip + a) b).run s = .ok (r₂, total) s ∧
    (read skip (a + b)).run s = .ok (r₁ ++ r₂, total) s

theorem Audit.findPage_pagesJoin {s : Session} {c : Collection} (hs : s.backend = .memory c)
    (f : Filter) {skip a b : Nat} (ha : 0 < a) (hb : 0 < b) :
    PagesJoin (findPage f) s skip a b := by
  refine ⟨_, _, _, findPage_run hs f skip a, findPage_run hs f (skip + a) b, ?_⟩
  rw [findPage_run hs, ← c.newestFirst_append f ha hb, List.filterMap_append]

/-- A read of the in-memory collection returns a window of the one list that orders the matching
documents newest first: by sort key (the object id under `_id`, documents without one last), and
among equal keys most recently inserted first. Its `i`-th document is the `skip + i`-th of that
list, within the limit, and the count is the length of the list. Windows that meet therefore join
into the window that spans them, for the collection and for the records and totals of queries
and activity reads; and when no two documents share a sort key, the order of insertion does not
show in reads or counts. -/
theorem newestFirst_is_window :
    (∀ (c : Collection) (f : Filter), ∃ l : List (Document × Nat),
      l.Perm (c.byRecency f) ∧ l.Pairwise Precedes ∧
      (∀ l', l'.Perm (c.byRecency f) → l'.Pairwise Precedes → l' = l) ∧
      (∀ skip limit i, (c.newestFirst f skip limit)[i]? =
        if limit = 0 ∨ i < limit then (l.map Prod.fst)[skip + i]? else none) ∧
      c.count f = l.length) ∧
    (∀ (c : Collection) (f : Filter) (skip a b : Nat), 0 < a → 0 < b →
      c.newestFirst f skip a ++ c.newestFirst f (skip + a) b = c.newestFirst f skip (a + b)) ∧
    (∀ (s : Session) (c : Collection) (skip a b : Nat), 0 < a → 0 < b →
      (∀ q, PagesJoin (Audit.query q) { s with backend := .memory c } skip a b) ∧
      ∀ p, PagesJoin (Audit.activityFor p) { s with backend := .memory c } skip a b) ∧
    (∀ c c' : Collection, c.documents.Perm c'.documents → (c.documents.map newestKey).Nodup →
      ∀ f skip limit, c.newestFirst f skip limit = c'.newestFirst f skip limit ∧
        c.count f = c'.count f) := by
  refine ⟨fun c f => ?_, fun c f _ _ _ ha hb => c.newestFirst_append f ha hb,
    fun s c _ _ _ ha hb => ⟨fun q => Audit.findPage_pagesJoin rfl _ ha hb,
      fun p => Audit.findPage_pagesJoin rfl _ ha hb⟩,
    fun c c' h hkeys f skip limit => ⟨?_, Collection.count_of_perm h f⟩⟩
  · obtain ⟨l, hperm, hsorted, hread⟩ := c.sortedMatches_spec f
    refine ⟨l, hperm, hsorted, fun l' hperm' hsorted' => eq_of_precedes (hperm'.trans hperm.symm)
      hsorted' hsorted, fun skip limit i => ?_, ?_⟩
    · rw [c.getElem?_newestFirst, hread]
    · rw [← c.length_byRecency, hperm.length_eq]
  · simp only [Collection.newestFirst, Collection.sortedMatches_of_perm h hkeys f]

/-- A document under the minted id `k`. -/
def mintedDoc (k : Nat) : Document := [("_id", .oid (.minted k))]

theorem newestFirst_minted_pages :
    (0 < 1 ∧ 0 < 1 ∧
      (Collection.mk [mintedDoc 1, mintedDoc 2]).newestFirst .everything 0 1 ++
        (Collection.mk [mintedDoc 1, mintedDoc 2]).newestFirst .everything (0 + 1) 1 =
        (Collection.mk [mintedDoc 1, mintedDoc 2]).newestFirst .everything 0 (1 + 1)) ∧
    (0 < 1 ∧ 0 < 2 ∧
      PagesJoin (Audit.query {}) { backend := .memory ⟨[mintedDoc 1, mintedDoc 2]⟩ } 0 1 2) ∧
    ([mintedDoc 1, mintedDoc 2].Perm [mintedDoc 2, mintedDoc 1] ∧
      ([mintedDoc 1, mintedDoc 2].map newestKey).Nodup ∧
      (Collection.mk [mintedDoc 1, mintedDoc 2]).newestFirst .everything 0 0 =
        (Collection.mk [mintedDoc 2, mintedDoc 1]).newestFirst .everything 0 0) := by
  have hperm : [mintedDoc 1, mintedDoc 2].Perm [mintedDoc 2, mintedDoc 1] := .swap _ _ []
  have hkeys : ([mintedDoc 1, mintedDoc 2].map newestKey).Nodup := by decide
  refine ⟨⟨by decide, by decide, newestFirst_is_window.2.1 _ _ 0 1 1 (by decide) (by decide)⟩,
    ⟨by decide, by decide,
      (newestFirst_is_window.2.2.1 {} _ 0 1 2 (by decide) (by decide)).1 {}⟩,
    ⟨hperm, hkeys, (newestFirst_is_window.2.2.2 ⟨_⟩ ⟨_⟩ hperm hkeys .everything 0 0).1⟩⟩

/-- A document under the text id `"a"`, which is no object id. -/
def textIdA : Document := [("_id", .str "a")]

/-- A document under the text id `"b"`. -/
def textIdB : Document := [("_id", .str "b")]

/-- Distinct ids that are not object ids give no sort keys, so two documents under such ids are
read back in reverse insertion order, whichever order that was. -/
theorem text_ids_keep_insertion_order :
    [textIdA, textIdB].Perm [textIdB, textIdA] ∧ textIdA.get? "_id" ≠ textIdB.get? "_id" ∧
      (Collection.mk [textIdA, textIdB]).newestFirst .everything 0 0 = [textIdB, textIdA] ∧
      (Collection.mk [textIdB, textIdA]).newestFirst .everything 0 0 = [textIdA, textIdB] := by
  refine ⟨.swap _ _ [], by simp [textIdA, textIdB, Document.get?], ?_, ?_⟩ <;>
    rw [Collection.newestFirst_zero, Collection.sortedMatches] <;>
    exact List.mergeSort_of_pairwise (by decide)

end AuditTrail
