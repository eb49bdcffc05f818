import AuditTrail.Filter.Match
import AuditTrail.Stored

/-!
# Storing open JSON

The diff of an event is open JSON, and it is stored as a document value: keys sorted, integers as
64-bit integers, and every map read for a type marker first (`Value.ofExtended`). This module
proves what storing keeps, which is what reading a stored diff back, or filtering on it, relies
on:

* storing a map keeps its keys, and each key finds the stored form of what it found before
  (`lookup_storedOfFields`); sorting the keys keeps what each key finds, because the sort is
  stable (`lookup_sortFields`);
* a string is stored as itself, and nothing else is stored as a string;
* a map whose keys do not spell a marker stays a map, and a field name that is not a marker key
  is found in the stored map exactly where it was (`descend_ofExtended`);
* a value as the JSON library holds it (`Json.Canonical`), in which no map could be read as a
  marker (`Json.Unmarked`), reads back as itself (`toRelaxed_storedOfJson`).

The last point needs both conditions. Values outside `Json.Canonical` cannot occur in a decoded
request: the JSON library keeps map keys sorted and unique, integers within a 64-bit word and
doubles finite. A map that does spell a marker, such as `{"$numberLong": "5"}`, is stored as the
marked value and reads back as something else.

## Main results

* `lookup_storedOfFields`, `lookup_sortFields`, `lookup_sortKeysFields`
* `storedOfJson_eq_str_iff`
* `Value.ofExtended_of_not_marker`, `descend_ofExtended`
* `toRelaxed_storedOfJson`
-/

namespace AuditTrail

/-! ### Type markers -/

/-- The keys of the markers that `Value.ofExtended` reads. -/
def extendedMarkers : List String := ["$oid", "$numberInt", "$numberLong", "$numberDouble", "$date"]

namespace Value

/-- The kinds of value a type marker can describe. -/
def markable : Value → Bool
  | .oid _ | .int32 _ | .int64 _ | .double _ | .date _ => true
  | _ => false

theorem ofExtended_of_not_marker {d : Document} (h : ∀ m v, d = [(m, v)] → m ∉ extendedMarkers) :
    ofExtended d = .doc d := by
  unfold ofExtended
  split <;> first | rfl | exact absurd (h _ _ rfl) (by decide)

/-- What holds of a map and of every value a marker can describe holds of the stored map. -/
theorem ofExtended_rec {P : Value → Prop} {d : Document} (hdoc : P (.doc d))
    (hmarked : ∀ m v, d = [(m, v)] → m ∈ extendedMarkers → ∀ w : Value, w.markable → P w) :
    P (ofExtended d) := by
  -- a marker whose text does not read falls back to the map
  have hmap : ∀ {α : Type} (o : Option α) (c : α → Value), (∀ a, (c a).markable) →
      (∃ m v, d = [(m, v)] ∧ m ∈ extendedMarkers) → P ((o.map c).getD (.doc d)) := by
    intro α o c hc ⟨m, v, hd, hm⟩
    cases o with
    | none => exact hdoc
    | some a => exact hmarked m v hd hm (c a) (hc a)
  unfold ofExtended
  split
  all_goals first
    | exact hdoc
    | exact hmap _ _ (fun _ => rfl) ⟨_, _, rfl, by decide⟩
    | exact hmarked _ _ rfl (by decide) _ rfl

theorem ofExtended_ne_str (d : Document) (x : String) : ofExtended d ≠ .str x :=
  ofExtended_rec (P := (· ≠ .str x)) (by simp) fun _ _ _ _ w hw h => by
    subst h; simp [markable] at hw

end Value

/-- A key that is not a marker key finds in the stored map what it found in the map. -/
theorem descend_ofExtended (d : Document) {k : String} (hk : k ∉ extendedMarkers) :
    Document.descend (some (Value.ofExtended d)) [k] = d.get? k := by
  apply Value.ofExtended_rec (P := fun w => Document.descend (some w) [k] = d.get? k)
  · rfl
  · rintro m v rfl hm w hw
    have hne : (k == m) = false := beq_eq_false_iff_ne.mpr fun h => hk (h ▸ hm)
    have hnone : Document.get? [(m, v)] k = none := by
      simp [Document.get?, List.lookup_cons, hne]
    rw [hnone]
    cases w <;> simp_all [Value.markable, Document.descend]

/-! ### Storing keeps the keys -/

theorem storedOfItems_cons_eq_ok {j : Json} {rest : List Json} {vs : List Value} :
    storedOfItems (j :: rest) = .ok vs ↔
      ∃ v ws, storedOfJson j = .ok v ∧ storedOfItems rest = .ok ws ∧ vs = v :: ws := by
  simp only [storedOfItems, bind, Except.bind]
  cases storedOfJson j <;> cases storedOfItems rest <;> simp [pure, Except.pure, eq_comm]

theorem storedOfFields_cons_eq_ok {k : String} {j : Json} {rest : List (String × Json)}
    {vs : Document} :
    storedOfFields ((k, j) :: rest) = .ok vs ↔
      ∃ v ws, storedOfJson j = .ok v ∧ storedOfFields rest = .ok ws ∧ vs = (k, v) :: ws := by
  simp only [storedOfFields, bind, Except.bind]
  cases storedOfJson j <;> cases storedOfFields rest <;> simp [pure, Except.pure, eq_comm]

theorem storedOfJson_eq_str_iff {j : Json} {x : String} :
    storedOfJson j = .ok (.str x) ↔ j = .str x := by
  constructor
  · intro h
    cases j with
    | str s => simpa [storedOfJson] using h
    | int n =>
      simp only [storedOfJson] at h
      split at h <;> cases h
    | arr items =>
      simp only [storedOfJson] at h
      cases hs : storedOfItems items <;> simp [hs, Except.map] at h
    | obj fields =>
      simp only [storedOfJson] at h
      cases hs : storedOfFields fields <;> simp [hs, Except.map] at h
      exact absurd h (Value.ofExtended_ne_str _ _)
    | _ => simp [storedOfJson] at h
  · rintro rfl
    rfl

/-- Storing a map keeps its fields in place: each key finds the stored form of the value it
found before. -/
theorem lookup_storedOfFields {fs : List (String × Json)} {vs : Document}
    (h : storedOfFields fs = .ok vs) (k : String) :
    vs.lookup k = (fs.lookup k).bind fun j => (storedOfJson j).toOption := by
  induction fs generalizing vs with
  | nil =>
    cases h
    rfl
  | cons kj rest ih =>
    obtain ⟨k', j⟩ := kj
    obtain ⟨v, ws, hj, hr, rfl⟩ := storedOfFields_cons_eq_ok.mp h
    cases hk : k == k' <;> simp [List.lookup_cons, hk, ih hr, hj, Except.toOption]

theorem keys_storedOfFields {fs : List (String × Json)} {vs : Document}
    (h : storedOfFields fs = .ok vs) : vs.map (·.1) = fs.map (·.1) := by
  induction fs generalizing vs with
  | nil =>
    cases h
    rfl
  | cons kj rest ih =>
    obtain ⟨v, ws, -, hr, rfl⟩ := storedOfFields_cons_eq_ok.mp h
    simp [ih hr]

/-! ### Sorting keeps what each key finds -/

/-- The value a key finds is the value of the first field with that key. -/
theorem lookup_eq_head?_filter {β : Type} (l : List (String × β)) (k : String) :
    l.lookup k = ((l.filter (·.1 == k)).head?).map (·.2) := by
  induction l with
  | nil => rfl
  | cons kv rest ih =>
    obtain ⟨k', v⟩ := kv
    by_cases hk : k = k'
    · subst hk; simp
    · have hne : (k == k') = false := beq_false_of_ne hk
      simp [List.lookup_cons, hne, Ne.symm hk, ih]

/-- The stable sort by key keeps the fields of one key in their order. -/
theorem filter_key_sortFields {β : Type} (fs : List (String × β)) (k : String) :
    (Json.sortFields fs).filter (·.1 == k) = fs.filter (·.1 == k) := by
  have trans : ∀ a b c : String × β, decide (a.1 ≤ b.1) = true → decide (b.1 ≤ c.1) = true →
      decide (a.1 ≤ c.1) = true := by
    intro a b c hab hbc
    simp only [decide_eq_true_eq] at *
    exact String.le_trans hab hbc
  have total : ∀ a b : String × β, (decide (a.1 ≤ b.1) || decide (b.1 ≤ a.1)) = true := by
    intro a b
    simpa using String.le_total a.1 b.1
  -- the fields of key `k` are sorted already, so they stay a sublist of the sorted fields
  have hsorted : (fs.filter (·.1 == k)).Pairwise fun a b => decide (a.1 ≤ b.1) = true := by
    apply List.pairwise_of_forall_mem_list
    intro a ha b hb
    simp only [List.mem_filter, beq_iff_eq] at ha hb
    simp [ha.2, hb.2]
  have hsub : List.Sublist (fs.filter (·.1 == k)) ((Json.sortFields fs).filter (·.1 == k)) := by
    have := (List.sublist_mergeSort trans total hsorted (List.filter_sublist (l := fs))).filter (·.1 == k)
    rwa [List.filter_filter, List.filter_congr (fun x _ => Bool.and_self _)] at this
  have hlen : ((Json.sortFields fs).filter (·.1 == k)).length = (fs.filter (·.1 == k)).length :=
    ((List.mergeSort_perm fs _).filter _).length_eq
  exact (hsub.eq_of_length hlen.symm).symm

/-- Sorting the fields by key keeps what each key finds. -/
theorem lookup_sortFields {β : Type} (fs : List (String × β)) (k : String) :
    (Json.sortFields fs).lookup k = fs.lookup k := by
  rw [lookup_eq_head?_filter, lookup_eq_head?_filter, filter_key_sortFields]

theorem lookup_sortKeysFields (fs : List (String × Json)) (k : String) :
    (Json.sortKeysFields fs).lookup k = (fs.lookup k).map Json.sortKeys := by
  induction fs with
  | nil => rfl
  | cons kj rest ih =>
    obtain ⟨k', j⟩ := kj
    cases hk : k == k' <;> simp [Json.sortKeysFields, List.lookup_cons, hk, ih]

theorem sortKeys_eq_str_iff {j : Json} {x : String} : j.sortKeys = .str x ↔ j = .str x := by
  cases j <;> simp [Json.sortKeys]

/-! ### Values that read back as themselves -/

namespace Json

/-- A map the document library could read as a type marker: one or two keys, each starting
with `$`. -/
def markerShaped (fields : List (String × Json)) : Bool :=
  (fields.length == 1 || fields.length == 2) && fields.all (·.1.toList.head? == some '$')

/-- A JSON value as the JSON library holds it: integers within a signed or an unsigned 64-bit
word, finite doubles, and maps whose keys increase, at every depth. -/
inductive Canonical : Json → Prop
  | null : Canonical .null
  | bool (b : Bool) : Canonical (.bool b)
  | int {n : Int} : -(Nat.pow 2 63 : Int) ≤ n → n < Nat.pow 2 64 → Canonical (.int n)
  | float {x : Binary64} : x.isFinite = true → Canonical (.float x)
  | str (s : String) : Canonical (.str s)
  | arr {items : List Json} : (∀ j ∈ items, Canonical j) → Canonical (.arr items)
  | obj {fields : List (String × Json)} : (fields.map (·.1)).Pairwise (· < ·) →
      (∀ kj ∈ fields, Canonical kj.2) → Canonical (.obj fields)

/-- No map, at any depth, could be read as a type marker. -/
inductive Unmarked : Json → Prop
  | null : Unmarked .null
  | bool (b : Bool) : Unmarked (.bool b)
  | int (n : Int) : Unmarked (.int n)
  | float (x : Binary64) : Unmarked (.float x)
  | str (s : String) : Unmarked (.str s)
  | arr {items : List Json} : (∀ j ∈ items, Unmarked j) → Unmarked (.arr items)
  | obj {fields : List (String × Json)} : markerShaped fields = false →
      (∀ kj ∈ fields, Unmarked kj.2) → Unmarked (.obj fields)

theorem sortKeysItems_of_forall {items : List Json} (h : ∀ j ∈ items, j.sortKeys = j) :
    sortKeysItems items = items := by
  induction items with
  | nil => rfl
  | cons j rest ih =>
    simp only [sortKeysItems, h j (List.mem_cons_self ..),
      ih fun j hj => h j (List.mem_cons_of_mem _ hj)]

theorem sortKeysFields_of_forall {fields : List (String × Json)}
    (h : ∀ kj ∈ fields, kj.2.sortKeys = kj.2) : sortKeysFields fields = fields := by
  induction fields with
  | nil => rfl
  | cons kj rest ih =>
    simp only [sortKeysFields, h kj (List.mem_cons_self ..),
      ih fun kj hkj => h kj (List.mem_cons_of_mem _ hkj)]

/-- Sorting the keys of a value whose keys increase changes nothing. -/
theorem sortKeys_of_canonical {j : Json} (h : j.Canonical) : j.sortKeys = j := by
  induction h with
  | arr _ ih => simp [sortKeys, sortKeysItems_of_forall ih]
  | obj hsorted _ ih =>
    rename_i fields _
    -- increasing keys are already in the order of a stable sort by key
    have hle : fields.Pairwise fun a b => decide (a.1 ≤ b.1) = true := by
      refine (List.pairwise_map.mp hsorted).imp fun {a b} hab => ?_
      simpa using String.not_lt.mp (String.lt_asymm hab)
    simp [sortKeys, sortKeysFields_of_forall ih, sortFields, List.mergeSort_of_pairwise hle]
  | _ => rfl

end Json

/-- A map that could not be read as a marker is stored as a map. -/
theorem ofExtended_storedOfFields {fields : List (String × Json)} {vs : Document}
    (hshape : Json.markerShaped fields = false) (h : storedOfFields fields = .ok vs) :
    Value.ofExtended vs = .doc vs := by
  apply Value.ofExtended_of_not_marker
  rintro m v rfl hm
  -- the stored map has the keys of the JSON map, so that map is a single field keyed `m`
  obtain ⟨j, rfl⟩ : ∃ j, fields = [(m, j)] := by
    have hkeys := keys_storedOfFields h
    match fields, hkeys with
    | [(m', j)], hkeys => simp at hkeys; exact ⟨j, by rw [hkeys]⟩
  have hdollar : (m.toList.head? == some '$') = false := by simpa [Json.markerShaped] using hshape
  revert hdollar
  simp only [extendedMarkers, List.mem_cons, List.not_mem_nil, or_false] at hm
  rcases hm with rfl | rfl | rfl | rfl | rfl <;> decide

theorem itemsToRelaxed_of_storedOfItems {items : List Json} {vs : List Value}
    (ih : ∀ j ∈ items, ∀ v, storedOfJson j = .ok v → v.toRelaxed = j)
    (h : storedOfItems items = .ok vs) : Value.itemsToRelaxed vs = items := by
  induction items generalizing vs with
  | nil =>
    cases h
    rfl
  | cons j rest ihr =>
    obtain ⟨v, ws, hj, hr, rfl⟩ := storedOfItems_cons_eq_ok.mp h
    simp only [Value.itemsToRelaxed, ih j (List.mem_cons_self ..) v hj,
      ihr (fun j hj => ih j (List.mem_cons_of_mem _ hj)) hr]

theorem fieldsToRelaxed_of_storedOfFields {fields : List (String × Json)} {vs : Document}
    (ih : ∀ kj ∈ fields, ∀ v, storedOfJson kj.2 = .ok v → v.toRelaxed = kj.2)
    (h : storedOfFields fields = .ok vs) : Value.fieldsToRelaxed vs = fields := by
  induction fields generalizing vs with
  | nil =>
    cases h
    rfl
  | cons kj rest ihr =>
    obtain ⟨k, j⟩ := kj
    obtain ⟨v, ws, hj, hr, rfl⟩ := storedOfFields_cons_eq_ok.mp h
    simp only [Value.fieldsToRelaxed, ih (k, j) (List.mem_cons_self ..) v hj,
      ihr (fun kj hkj => ih kj (List.mem_cons_of_mem _ hkj)) hr]

/-- A value as the JSON library holds it, with no map that could be read as a marker, is stored
and read back as itself. -/
theorem toRelaxed_storedOfJson {j : Json} (hc : j.Canonical) (hu : j.Unmarked) {v : Value}
    (h : storedOfJson j = .ok v) : v.toRelaxed = j := by
  induction hc generalizing v with
  | null | bool | str =>
    simp only [storedOfJson, Except.ok.injEq] at h
    subst h
    rfl
  | @int n hlo _ =>
    simp only [storedOfJson] at h
    split at h
    · cases h
    · rename_i hhi
      cases h
      have hround : (Int64.ofInt n).toInt = n :=
        Int64.toInt_ofInt_of_le (by simpa using hlo) (by omega)
      simp [Value.toRelaxed, hround]
  | float hfin =>
    simp only [storedOfJson, Except.ok.injEq] at h
    subst h
    simp [Value.toRelaxed, hfin]
  | @arr items _ ih =>
    cases hu with
    | arr hitems =>
      simp only [storedOfJson] at h
      cases hs : storedOfItems items <;> simp only [hs, Except.map, reduceCtorEq, Except.ok.injEq] at h
      subst h
      simp only [Value.toRelaxed,
        itemsToRelaxed_of_storedOfItems (fun j hj v hv => ih j hj (hitems j hj) hv) hs]
  | @obj fields _ _ ih =>
    cases hu with
    | obj hshape hfields =>
      simp only [storedOfJson] at h
      cases hs : storedOfFields fields <;> simp only [hs, Except.map, reduceCtorEq, Except.ok.injEq] at h
      subst h
      rw [ofExtended_storedOfFields hshape hs]
      simp only [Value.toRelaxed,
        fieldsToRelaxed_of_storedOfFields (fun kj hkj v hv => ih kj hkj (hfields kj hkj) hv) hs]

end AuditTrail
