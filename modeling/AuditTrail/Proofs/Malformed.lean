import AuditTrail.Proofs.Filing

/-!
# Why a stored document does not read back

Reading a stored document back as a filed event runs four checks in a fixed order and reports
the first that fails: the document needs an object id under `_id`; exactly one of the four
wrapper keys must hold a document, and when several do, their number is reported; that payload
needs a date-time under `timestamp`; and the rest of the payload must read as an event. Only
the payloads under the wrapper keys count: a wrapper key that holds a value of another kind is
as good as absent, `type` is never consulted, and other fields are ignored
(`Stored.ofDocument_congr`).

The checks are stated here on their own terms: `Stored.payloadAt?` is what a wrapper key holds
when it holds a document, and `Stored.heldWrappers` lists the wrappers that do. The reader is
then the chain of those checks (`Stored.ofDocument_eq`), each failing exactly when its condition
fails.

## Main definitions

* `Stored.payloadAt?`, `Stored.heldWrappers` — the payloads a document holds
* `Stored.readPayload` — the checks on the one payload

## Main results

* `Stored.ofDocument_eq`, `Stored.wrappers_eq_singleton_iff`
* `Stored.ofDocument_eq_missingId_iff`, `Stored.ofDocument_eq_noWrapper_iff`,
  `Stored.ofDocument_eq_multipleWrappers_iff`, `Stored.readPayload_eq_missingTimestamp_iff`,
  `Stored.readPayload_eq_payload_iff`
* `Stored.ofDocument_congr`
* `ofDocument_first_failure`
-/

namespace AuditTrail


namespace Stored

/-- The payload a document holds under a wrapper's key: the value there, when it is a document. -/
def payloadAt? (d : Document) (c : Category) : Option Document :=
  match d.get? c.key with
  | some (.doc p) => some p
  | _ => none

/-- The wrappers whose key holds a document, in the fixed order of wrappers. -/
def heldWrappers (d : Document) : List Category :=
  Category.all.filter fun c => (payloadAt? d c).isSome

/-- Reading the payload found under the one wrapper that holds a document. -/
def readPayload (id : ObjectId) (c : Category) (p : Document) : Except Malformed Stored :=
  match p.get? "timestamp" with
  | some (.date ms) =>
    match Event.decode? (Value.doc (p.erase "timestamp")) with
    | some e => .ok ⟨id, c, Instant.ofMillisSaturating ms.toInt, e⟩
    | none => .error .payload
  | _ => .error .missingTimestamp

theorem wrappers_eq_filterMap (d : Document) :
    wrappers d = Category.all.filterMap fun c => (payloadAt? d c).map (c, ·) := by
  unfold wrappers
  refine List.filterMap_congr fun c _ => ?_
  unfold payloadAt?
  rcases d.get? c.key with _ | ⟨_ | _ | _ | _ | _ | _ | _ | _ | _ | _⟩ <;> rfl

theorem map_fst_filterMap_pair {α β : Type} (l : List α) (f : α → Option β) :
    (l.filterMap fun a => (f a).map (a, ·)).map Prod.fst = l.filter fun a => (f a).isSome := by
  induction l with
  | nil => rfl
  | cons a rest ih => cases h : f a <;> simp [h, ih]

theorem map_fst_wrappers (d : Document) : (wrappers d).map Prod.fst = heldWrappers d := by
  rw [wrappers_eq_filterMap]
  exact map_fst_filterMap_pair _ _

theorem mem_wrappers {d : Document} {c : Category} {p : Document} :
    (c, p) ∈ wrappers d ↔ payloadAt? d c = some p := by
  rw [wrappers_eq_filterMap, List.mem_filterMap]
  constructor
  · rintro ⟨c', -, hc'⟩
    obtain ⟨q, hq, hpair⟩ := Option.map_eq_some_iff.mp hc'
    cases hpair
    exact hq
  · intro hp
    exact ⟨c, c.mem_all, by simp [hp]⟩

theorem length_wrappers (d : Document) : (wrappers d).length = (heldWrappers d).length := by
  rw [← map_fst_wrappers, List.length_map]

theorem wrappers_eq_singleton_iff {d : Document} {c : Category} {p : Document} :
    wrappers d = [(c, p)] ↔ heldWrappers d = [c] ∧ payloadAt? d c = some p := by
  constructor
  · intro hw
    exact ⟨by rw [← map_fst_wrappers, hw]; rfl, mem_wrappers.mp (by simp [hw])⟩
  · rintro ⟨hheld, hp⟩
    have hfst := map_fst_wrappers d
    rw [hheld] at hfst
    obtain ⟨⟨c', p'⟩, hw, rfl⟩ := List.map_eq_singleton_iff.mp hfst
    have hp' := mem_wrappers.mp (hw ▸ List.mem_singleton_self _)
    rw [hp, Option.some.injEq] at hp'
    rw [hw, hp']

/-- Reading a document: its id first, then its wrappers, then the one payload. -/
theorem ofDocument_eq (d : Document) :
    ofDocument d = match d.objectId? with
      | none => .error .missingId
      | some id =>
        match wrappers d with
        | [] => .error .noWrapper
        | [(c, p)] => readPayload id c p
        | many => .error (.multipleWrappers many.length) := by
  unfold ofDocument readPayload
  cases d.objectId? <;> rfl

/-- Reading a payload fails, if at all, on its time stamp or its event. -/
theorem readPayload_ne (id : ObjectId) (c : Category) (p : Document) :
    readPayload id c p ≠ .error .missingId ∧ readPayload id c p ≠ .error .noWrapper ∧
      ∀ n, readPayload id c p ≠ .error (.multipleWrappers n) := by
  unfold readPayload
  split
  · split <;> simp
  · simp

theorem objectId?_eq_none_iff (d : Document) :
    d.objectId? = none ↔ ∀ id, d.get? "_id" ≠ some (.oid id) := by
  unfold Document.objectId?
  split <;> simp_all

/-! ### Each check -/

theorem ofDocument_eq_missingId_iff (d : Document) :
    ofDocument d = .error .missingId ↔ ∀ id, d.get? "_id" ≠ some (.oid id) := by
  rw [← objectId?_eq_none_iff, ofDocument_eq]
  cases d.objectId? with
  | none => simp
  | some id =>
    simp only [reduceCtorEq, iff_false]
    rcases wrappers d with _ | ⟨⟨c, p⟩, _ | ⟨x, rest⟩⟩
    · simp
    · exact (readPayload_ne id c p).1
    · simp

variable {d : Document} {id : ObjectId}

theorem ofDocument_eq_noWrapper_iff (hid : d.objectId? = some id) :
    ofDocument d = .error .noWrapper ↔ heldWrappers d = [] := by
  rw [ofDocument_eq, hid, ← map_fst_wrappers, List.map_eq_nil_iff]
  rcases wrappers d with _ | ⟨⟨c, p⟩, _ | ⟨x, rest⟩⟩
  · simp
  · simp [(readPayload_ne id c p).2.1]
  · simp

theorem ofDocument_eq_multipleWrappers_iff (hid : d.objectId? = some id) (n : Nat) :
    ofDocument d = .error (.multipleWrappers n) ↔
      2 ≤ (heldWrappers d).length ∧ n = (heldWrappers d).length := by
  rw [ofDocument_eq, hid, ← length_wrappers]
  rcases wrappers d with _ | ⟨⟨c, p⟩, _ | ⟨x, rest⟩⟩
  · simp
  · simp [(readPayload_ne id c p).2.2 n]
  · simp [eq_comm]

theorem ofDocument_of_single (hid : d.objectId? = some id) {w : Category} {p : Document}
    (hheld : heldWrappers d = [w]) (hp : payloadAt? d w = some p) :
    ofDocument d = readPayload id w p := by
  rw [ofDocument_eq, hid, wrappers_eq_singleton_iff.mpr ⟨hheld, hp⟩]

theorem readPayload_eq_missingTimestamp_iff (id : ObjectId) (c : Category) (p : Document) :
    readPayload id c p = .error .missingTimestamp ↔ ∀ ms, p.get? "timestamp" ≠ some (.date ms) := by
  unfold readPayload
  split
  · -- a date-time: the event is read, and its failure is another one
    rename_i ms hts
    have hdate : ¬∀ ms', p.get? "timestamp" ≠ some (.date ms') := fun h => h ms hts
    split <;> simp [hdate]
  · rename_i hno
    simpa using hno

theorem readPayload_eq_payload_iff {p : Document} {ms : Int64}
    (hts : p.get? "timestamp" = some (.date ms)) (id : ObjectId) (c : Category) :
    readPayload id c p = .error .payload ↔ Event.decode? (Value.doc (p.erase "timestamp")) = none := by
  unfold readPayload
  rw [hts]
  cases Event.decode? (Value.doc (p.erase "timestamp")) <;> simp

theorem readPayload_eq_ok {p : Document} {ms : Int64} (hts : p.get? "timestamp" = some (.date ms))
    {e : Event} (he : Event.decode? (Value.doc (p.erase "timestamp")) = some e) (id : ObjectId)
    (c : Category) : readPayload id c p = .ok ⟨id, c, Instant.ofMillisSaturating ms.toInt, e⟩ := by
  unfold readPayload
  rw [hts, he]

/-- What a document reads as depends only on its `_id` and the payloads under the wrapper keys:
not on `type`, on wrapper keys holding other values, or on any other field. -/
theorem ofDocument_congr {d d' : Document} (hid : d'.get? "_id" = d.get? "_id")
    (hw : ∀ c, payloadAt? d' c = payloadAt? d c) : ofDocument d' = ofDocument d := by
  have hobj : d'.objectId? = d.objectId? := by
    unfold Document.objectId?
    rw [hid]
  have hwrap : wrappers d' = wrappers d := by
    rw [wrappers_eq_filterMap, wrappers_eq_filterMap]
    simp only [hw]
  rw [ofDocument_eq, ofDocument_eq, hobj, hwrap]

end Stored

@[simp] theorem Category.ofKey?_key (c : Category) : Category.ofKey? c.key = some c := by
  cases c <;> rfl

/-- Reading a stored document reports the first check it fails, in this order: `_id` must hold
an object id; exactly one wrapper key must hold a document, the count of those that do being
reported when there are several; that payload must hold a date-time under `timestamp`; and the
rest of the payload must read as an event. A document passing every check reads as the event
filed under the id, in the category whose key holds the payload, at the stored time stamp, which
saturates at the ends of the representable span. Nothing else of the document matters. -/
theorem ofDocument_first_failure :
    (∀ d : Document, Stored.ofDocument d = .error .missingId ↔ ∀ id, d.get? "_id" ≠ some (.oid id)) ∧
    (∀ (d : Document) (id : ObjectId), d.get? "_id" = some (.oid id) →
      (Stored.ofDocument d = .error .noWrapper ↔ Stored.heldWrappers d = []) ∧
      (∀ n, Stored.ofDocument d = .error (.multipleWrappers n) ↔
        2 ≤ (Stored.heldWrappers d).length ∧ n = (Stored.heldWrappers d).length) ∧
      ∀ w p, Stored.heldWrappers d = [w] → Stored.payloadAt? d w = some p →
        (Stored.ofDocument d = .error .missingTimestamp ↔ ∀ ms, p.get? "timestamp" ≠ some (.date ms)) ∧
        ∀ ms, p.get? "timestamp" = some (.date ms) →
          (Stored.ofDocument d = .error .payload ↔
            Event.decode? (Value.doc (p.erase "timestamp")) = none) ∧
          ∀ e, Event.decode? (Value.doc (p.erase "timestamp")) = some e →
            Category.ofKey? w.key = some w ∧
            Stored.ofDocument d = .ok ⟨id, w, Instant.ofMillisSaturating ms.toInt, e⟩) ∧
    (∀ m : Int, (Instant.ofMillisSaturating m).nanos =
      if minNanos ≤ m * 1000000 ∧ m * 1000000 ≤ maxNanos then m * 1000000
      else if m < 0 then minNanos else maxNanos) ∧
    (∀ d d' : Document, d'.get? "_id" = d.get? "_id" →
      (∀ c, Stored.payloadAt? d' c = Stored.payloadAt? d c) → Stored.ofDocument d' = Stored.ofDocument d) := by
  refine ⟨Stored.ofDocument_eq_missingId_iff, fun d id hid => ?_, Instant.nanos_ofMillisSaturating,
    fun d d' hid hw => Stored.ofDocument_congr hid hw⟩
  have hobj : d.objectId? = some id := by simp [Document.objectId?, hid]
  refine ⟨Stored.ofDocument_eq_noWrapper_iff hobj, Stored.ofDocument_eq_multipleWrappers_iff hobj,
    fun w p hheld hp => ?_⟩
  rw [Stored.ofDocument_of_single hobj hheld hp]
  exact ⟨Stored.readPayload_eq_missingTimestamp_iff id w p, fun ms hts =>
    ⟨Stored.readPayload_eq_payload_iff hts id w, fun e he =>
      ⟨Category.ofKey?_key w, Stored.readPayload_eq_ok hts he id w⟩⟩⟩

/-- The payload of an item creation by "a" at 2024-01-03T12:00:00Z. -/
def itemCreatePayload : Document :=
  [("action", .str "item_create"), ("actor", .str "a"), ("actor_role", .str "r"),
    ("timestamp", .date 1704283200000)]

/-- The first stored id is below the bound of ids. Documents cite it by name, so that no two of
them carry their own copy of the proof. -/
theorem ObjectId.one_lt_bound : 1 < Nat.pow 2 96 := by decide

/-- The creation filed under `item_action`, with `type` naming the user wrapper and the user
wrapper key holding a text. -/
def itemUnderUserType : Document :=
  [("_id", .oid (.stored ⟨1, ObjectId.one_lt_bound⟩)), ("type", .str "user_action"), ("user_action", .str "junk"),
    ("item_action", .doc itemCreatePayload)]

/-- The document reads as the item creation, in the item category, whatever `type` says. -/
theorem itemUnderUserType_reads_as_item :
    itemUnderUserType.get? "_id" = some (.oid (.stored ⟨1, by decide⟩)) ∧
    Stored.heldWrappers itemUnderUserType = [.item] ∧
    Stored.payloadAt? itemUnderUserType .item = some itemCreatePayload ∧
    itemCreatePayload.get? "timestamp" = some (.date 1704283200000) ∧
    Event.decode? (Value.doc (itemCreatePayload.erase "timestamp")) =
      some (Event.new .itemCreate "a" "r") ∧
    Stored.ofDocument itemUnderUserType = .ok ⟨.stored ⟨1, by decide⟩, .item,
      Instant.ofMillisSaturating (1704283200000 : Int64).toInt, Event.new .itemCreate "a" "r"⟩ := by
  obtain ⟨-, hread, -, -⟩ := ofDocument_first_failure
  have hid : itemUnderUserType.get? "_id" = some (.oid (.stored ⟨1, by decide⟩)) := rfl
  have hheld : Stored.heldWrappers itemUnderUserType = [.item] := by decide
  have hp : Stored.payloadAt? itemUnderUserType .item = some itemCreatePayload := rfl
  have hts : itemCreatePayload.get? "timestamp" = some (.date 1704283200000) := rfl
  have he : Event.decode? (Value.doc (itemCreatePayload.erase "timestamp")) =
      some (Event.new .itemCreate "a" "r") := rfl
  exact ⟨hid, hheld, hp, hts, he,
    (((((hread _ _ hid).2.2 .item _ hheld hp).2 _ hts).2 _ he).2)⟩

end AuditTrail
