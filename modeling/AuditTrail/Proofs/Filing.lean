import AuditTrail.Proofs.Evaluation
import AuditTrail.Proofs.Storage
import Mathlib

/-!
# Filing an event and reading it back

A filed event is stored as a document of three fields: `_id`, the event's wrapper key holding
the payload, and `type` holding the wrapper key again. The payload is the event's JSON with the
keys of its diff sorted, stored, followed by the time stamp in whole milliseconds. This module
proves that layout and the way back:

* the payload is the stored form of the event's JSON (`Event.toPayload_eq`), so each key finds
  in it the stored form of what it finds in the event (`Event.lookup_toPayload`);
* the document is filed under the event's wrapper (`filedUnder_layout`), which is the only
  wrapper the reader finds (`FiledUnder.wrappers_eq`);
* the document reads back as the filed event, with its time stamp truncated to milliseconds
  (`Stored.ofDocument_toDocument`), when the diff is restorable.

Restorable means two things. The diff is a value as the JSON library holds it
(`Event.CanonicalChanges`): the library keeps the keys of a map sorted and unique, so this is
the invariant of the diff's type rather than a condition on the caller. And no map of the
diff could be read as a type marker (`Event.UnmarkedChanges`): a diff holding
`{"qty": {"$numberLong": "5"}}` is stored with the integer `5` under `qty`, and reads back so.

Time stamps never saturate on the way back: every representable instant has a millisecond
count within a 64-bit word, and that count times a million is representable again
(`Instant.ofMillisSaturating_toMillis`).

## Main results

* `Instant.floorMillis`, `Instant.ofMillisSaturating_toMillis`
* `Event.toPayload_eq`, `Event.lookup_toPayload`
* `Stored.toDocument_new_eq_ok`, `Stored.toDocument_layout`, `filedUnder_layout`,
  `FiledUnder.wrappers_eq`
* `Event.decode?_doc_eq_some`, `Event.decode_toPayload`
* `Stored.ofDocument_toDocument`
-/

namespace AuditTrail

/-! ### Time stamps -/

namespace Instant

theorem minNanos_eq : minNanos = -8334601228800000000000 := by decide

theorem maxNanos_eq : maxNanos = 8210266876799999999999 := by decide

/-- The instant truncated to whole milliseconds, toward the past: what a stored time stamp
keeps of it. -/
def floorMillis (t : Instant) : Instant :=
  ⟨t.toMillis * 1000000,
    by have := t.lower; rw [minNanos_eq] at this ⊢; unfold toMillis; omega,
    by have := t.upper; rw [maxNanos_eq] at this ⊢; unfold toMillis; omega⟩

/-- Milliseconds of a representable instant fit a signed 64-bit word. -/
theorem toInt_ofInt_toMillis (t : Instant) : (Int64.ofInt t.toMillis).toInt = t.toMillis := by
  have hlo := t.lower
  have hhi := t.upper
  rw [minNanos_eq] at hlo
  rw [maxNanos_eq] at hhi
  exact Int64.toInt_ofInt_of_le (by unfold toMillis; omega) (by unfold toMillis; omega)

/-- Reading back the milliseconds of an instant gives the instant truncated to milliseconds;
they never saturate. -/
theorem ofMillisSaturating_toMillis (t : Instant) : ofMillisSaturating t.toMillis = t.floorMillis := by
  have hfloor := t.floorMillis.lower
  have hceil := t.floorMillis.upper
  unfold ofMillisSaturating ofNanos?
  rw [dif_pos ⟨hfloor, hceil⟩]
  rfl

/-- A stored millisecond count reads back as that many milliseconds when representable, and as
the nearest end of the span otherwise. -/
theorem nanos_ofMillisSaturating (m : Int) :
    (ofMillisSaturating m).nanos =
      if minNanos ≤ m * 1000000 ∧ m * 1000000 ≤ maxNanos then m * 1000000
      else if m < 0 then minNanos else maxNanos := by
  unfold ofMillisSaturating ofNanos?
  by_cases h : minNanos ≤ m * 1000000 ∧ m * 1000000 ≤ maxNanos
  · simp [h]
  · by_cases hm : m < 0 <;> simp [h, hm]

/-- A stored millisecond count at least an instant's reads back at least that instant's
milliseconds, saturated or not. -/
theorem le_toMillis_ofMillisSaturating {t : Instant} {m : Int} (h : t.toMillis ≤ m) :
    t.toMillis ≤ (ofMillisSaturating m).toMillis := by
  have hlo := t.lower
  have hhi := t.upper
  unfold toMillis at h ⊢
  rw [nanos_ofMillisSaturating]
  rw [minNanos_eq] at hlo ⊢
  rw [maxNanos_eq] at hhi ⊢
  split_ifs <;> omega

/-- A stored millisecond count at most an instant's reads back at most that instant's
milliseconds, saturated or not. -/
theorem toMillis_ofMillisSaturating_le {t : Instant} {m : Int} (h : m ≤ t.toMillis) :
    (ofMillisSaturating m).toMillis ≤ t.toMillis := by
  have hlo := t.lower
  have hhi := t.upper
  unfold toMillis at h ⊢
  rw [nanos_ofMillisSaturating]
  rw [minNanos_eq] at hlo ⊢
  rw [maxNanos_eq] at hhi ⊢
  split_ifs <;> omega

end Instant

/-! ### The payload -/

/-- Storing two runs of fields stores each, the first run first. -/
theorem storedOfFields_append (a b : List (String × Json)) :
    storedOfFields (a ++ b) = (do let x ← storedOfFields a; let y ← storedOfFields b; pure (x ++ y)) := by
  induction a with
  | nil =>
    show storedOfFields b = (do let y ← storedOfFields b; pure ([] ++ y))
    cases storedOfFields b <;> rfl
  | cons kj rest ih =>
    obtain ⟨k, j⟩ := kj
    simp only [List.cons_append, storedOfFields, ih]
    cases storedOfJson j <;> cases storedOfFields rest <;> cases storedOfFields b <;> rfl

theorem sortKeysFields_append (a b : List (String × Json)) :
    Json.sortKeysFields (a ++ b) = Json.sortKeysFields a ++ Json.sortKeysFields b := by
  induction a with
  | nil => rfl
  | cons kj rest ih => simp [Json.sortKeysFields, ih]

theorem storedOfFields_optionalField (name : String) (o : Option String) :
    storedOfFields (Json.sortKeysFields (Event.optionalField name o)) = .ok (Event.storedField name o) := by
  cases o <;> rfl

/-- The payload of an event is its JSON, with the keys of the diff sorted, stored. -/
theorem Event.toPayload_eq (e : Event) :
    e.toPayload = storedOfFields (Json.sortKeysFields e.toJsonFields) := by
  unfold Event.toPayload Event.toJsonFields
  simp only [sortKeysFields_append, storedOfFields_append, storedOfFields_optionalField]
  cases e.changes with
  | none =>
    simp [storedOfFields, storedOfJson, Json.sortKeys, Json.sortKeysFields, bind, Except.bind, pure,
      Except.pure]
  | some c =>
    simp only [storedOfFields, Json.sortKeysFields]
    cases storedOfJson (Json.sortKeys (.obj c)) <;>
      simp [storedOfJson, Json.sortKeys, bind, Except.bind, pure, Except.pure]

theorem lookup_optionalField (name k : String) (o : Option String) :
    (Event.optionalField name o).lookup k = if k = name then o.map .str else none := by
  cases o <;> by_cases h : k = name <;> simp [Event.optionalField, h]

/-- Each key of the payload finds the stored form of what it finds in the event's JSON. -/
theorem Event.lookup_toPayload {e : Event} {p : Document} (h : e.toPayload = .ok p) (k : String) :
    p.lookup k = (e.toJsonFields.lookup k).bind fun j => (storedOfJson j.sortKeys).toOption := by
  rw [Event.toPayload_eq] at h
  rw [lookup_storedOfFields h, lookup_sortKeysFields]
  cases e.toJsonFields.lookup k <;> rfl

/-- An event has no time stamp of its own. -/
theorem Event.lookup_toJsonFields_timestamp (e : Event) : e.toJsonFields.lookup "timestamp" = none := by
  cases hc : e.changes <;>
    simp [Event.toJsonFields, hc, List.lookup_append, List.lookup_cons, lookup_optionalField]

/-- The event's JSON holds its diff, if any, under `changes`. -/
theorem Event.lookup_toJsonFields_changes (e : Event) :
    e.toJsonFields.lookup "changes" = e.changes.map Json.obj := by
  cases hc : e.changes <;>
    simp [Event.toJsonFields, hc, List.lookup_append, List.lookup_cons, lookup_optionalField]

/-! ### The document -/

theorem Document.insert_of_lookup_eq_none {d : Document} {k : String} (h : d.lookup k = none)
    (v : Value) : d.insert k v = d ++ [(k, v)] := by
  have hany : d.any (·.1 == k) = false := by
    rw [List.lookup_eq_none_iff] at h
    simpa [BEq.comm] using h
  simp [Document.insert, hany]

theorem Document.erase_append_of_lookup_eq_none {d : Document} {k : String} (h : d.lookup k = none)
    (v : Value) : (d ++ [(k, v)]).erase k = d := by
  rw [List.lookup_eq_none_iff] at h
  simp only [Document.erase, List.filter_append]
  rw [List.filter_eq_self.mpr fun kv hkv => by simpa [bne_comm] using h kv hkv]
  simp

theorem lookup_erase_of_ne {d : Document} {k k' : String} (hk : k ≠ k') :
    (d.erase k').lookup k = d.lookup k := by
  induction d with
  | nil => rfl
  | cons kv rest ih =>
    obtain ⟨k'', v⟩ := kv
    by_cases h : k'' = k'
    · subst h
      have hne : (k == k'') = false := beq_false_of_ne hk
      simp [Document.erase, List.lookup_cons, hne] at ih ⊢
      exact ih
    · by_cases h' : k = k''
      · subst h'
        simp [Document.erase, h]
      · have hne : (k == k'') = false := beq_false_of_ne h'
        simp [Document.erase, List.lookup_cons, hne, h] at ih ⊢
        exact ih

/-- The document of a filed event: its id, its payload under its wrapper with the time stamp
last, and the wrapper's key under `type`. -/
theorem Stored.toDocument_eq_ok {s : Stored} {d : Document} :
    s.toDocument = .ok d ↔ ∃ p, s.event.toPayload = .ok p ∧
      d = [("_id", .oid s.id), (s.category.key, .doc (p ++ [("timestamp", s.timestamp.toValue)])),
        ("type", .str s.category.key)] := by
  unfold Stored.toDocument
  cases hp : s.event.toPayload with
  | error err => simp [bind, Except.bind]
  | ok p =>
    have hnone : p.lookup "timestamp" = none := by
      rw [Event.lookup_toPayload hp, Event.lookup_toJsonFields_timestamp]
      rfl
    simp [bind, Except.bind, pure, Except.pure, Document.insert_of_lookup_eq_none hnone,
      Instant.toValue, eq_comm]

theorem Stored.toDocument_new_eq_ok {id : ObjectId} {e : Event} {ts : Instant} {d : Document} :
    (Stored.new id e ts).toDocument = .ok d ↔ ∃ p, e.toPayload = .ok p ∧
      d = [("_id", .oid id), (e.category.key, .doc (p ++ [("timestamp", ts.toValue)])),
        ("type", .str e.category.key)] :=
  Stored.toDocument_eq_ok

/-- In the layout of a filed event's document, the wrapper keys find the payload under its own
wrapper and nothing under the others. -/
theorem get?_layout (id : ObjectId) (w : Category) (q : Document) (c : Category) :
    Document.get? [("_id", .oid id), (w.key, .doc q), ("type", .str w.key)] c.key =
      if c = w then some (.doc q) else none := by
  cases c <;> cases w <;> rfl

/-- The layout of a filed event's document: its id, then the event's stored fields under its
wrapper key with the time stamp last, then the wrapper key as its type. -/
theorem Stored.toDocument_layout {id : ObjectId} {e : Event} {ts : Instant} {d : Document}
    (h : (Stored.new id e ts).toDocument = .ok d) :
    d.map Prod.fst = ["_id", e.category.key, "type"] ∧
      d.get? "_id" = some (.oid id) ∧ d.get? "type" = some (.str e.category.key) ∧
      ∃ p, d.get? e.category.key = some (.doc (p ++ [("timestamp", ts.toValue)])) ∧
        ∀ k, p.lookup k = (e.toJsonFields.lookup k).bind fun j => (storedOfJson j.sortKeys).toOption := by
  obtain ⟨p, hp, rfl⟩ := Stored.toDocument_new_eq_ok.mp h
  refine ⟨rfl, rfl, ?_, p, ?_, Event.lookup_toPayload hp⟩
  · cases e.category <;> rfl
  · simpa using get?_layout id e.category (p ++ [("timestamp", ts.toValue)]) e.category

theorem Stored.objectId?_of_toDocument {id : ObjectId} {e : Event} {ts : Instant} {d : Document}
    (h : (Stored.new id e ts).toDocument = .ok d) : d.objectId? = some id := by
  obtain ⟨-, hid, -⟩ := Stored.toDocument_layout h
  simp [Document.objectId?, hid]

/-- The layout of a filed event's document files it under its wrapper. -/
theorem filedUnder_layout (id : ObjectId) (w : Category) (q : Document) :
    FiledUnder [("_id", .oid id), (w.key, .doc q), ("type", .str w.key)] w q where
  payload := by rw [get?_layout, if_pos rfl]
  others c hc q' := by simp [get?_layout, hc]

/-- A filed document has exactly one wrapper holding a document: its own. -/
theorem FiledUnder.wrappers_eq {d p : Document} {w : Category} (h : FiledUnder d w p) :
    Stored.wrappers d = [(w, p)] := by
  unfold Stored.wrappers
  rw [List.filterMap_congr (g := fun c => if c = w then some (w, p) else none)]
  · cases w <;> simp [Category.all]
  · intro c _
    split
    · rename_i q hq
      by_cases hc : c = w
      · subst hc
        rw [h.payload] at hq
        cases hq
        simp
      · exact absurd hq (h.others c hc q)
    · rename_i hno
      have hc : c ≠ w := fun hc => hno p (hc ▸ h.payload)
      simp [hc]

/-- A document whose only wrapper holding a document is `w` is filed under `w`. -/
theorem filedUnder_of_wrappers {d p : Document} {w : Category} (h : Stored.wrappers d = [(w, p)]) :
    FiledUnder d w p := by
  -- a wrapper key holding a document is one of the wrappers the reader finds
  have hmem : ∀ c q, d.get? c.key = some (.doc q) → (c, q) ∈ Stored.wrappers d := by
    intro c q hq
    exact List.mem_filterMap.mpr ⟨c, c.mem_all, by simp [hq]⟩
  refine ⟨?_, fun c hc q hq => ?_⟩
  · have hw : (w, p) ∈ Stored.wrappers d := by simp [h]
    obtain ⟨c, -, hc⟩ := List.mem_filterMap.mp hw
    split at hc
    · rename_i q hq
      simp only [Option.some.injEq, Prod.mk.injEq] at hc
      obtain ⟨rfl, rfl⟩ := hc
      exact hq
    · cases hc
  · have hcq := hmem c q hq
    rw [h, List.mem_singleton, Prod.mk.injEq] at hcq
    exact hc hcq.1

/-! ### Reading the payload back -/

/-- A stored map reads as an event exactly when each of the event's fields reads from it. -/
theorem Event.decode?_doc_eq_some (fs : Document) (e : Event) :
    Event.decode? (Value.doc fs) = some e ↔
      (Fields.named fs).required "action" 0 Event.readAction = some e.action ∧
      (Fields.named fs).required "actor" 1 Tree.text? = some e.actor ∧
      (Fields.named fs).required "actor_role" 2 Tree.text? = some e.actorRole ∧
      (Fields.named fs).optional "target_user" 3 Tree.text? = some e.targetUser ∧
      (Fields.named fs).optional "target_role" 4 Tree.text? = some e.targetRole ∧
      (Fields.named fs).optional "target_resource" 5 Tree.text? = some e.targetResource ∧
      (Fields.named fs).optional "resource_id" 6 Tree.text? = some e.resourceId ∧
      (Fields.named fs).optional "changes" 7 Tree.jsonMap? = some e.changes ∧
      (Fields.named fs).optional "reason" 8 Tree.text? = some e.reason ∧
      (Fields.named fs).optional "details" 9 Tree.text? = some e.details ∧
      (Fields.named fs).optional "ip_address" 10 Tree.text? = some e.ipAddress ∧
      (Fields.named fs).optional "user_agent" 11 Tree.text? = some e.userAgent := by
  rcases e with ⟨a, b, c, d, e, f, g, h, i, j, k, l⟩
  -- a map is read by name, and a record of names always fits
  have hof : Fields.of? (Value.doc fs) = pure (Fields.named fs) := rfl
  have hfits : ¬ ((!(Fields.named fs : Fields Value).fits 12) = true) := by simp [Fields.fits]
  unfold Event.decode?
  rw [hof, pure_bind, if_neg hfits]
  -- the binds are unfolded by definition: simp would rebuild the whole chain at each of them
  dsimp only [Option.bind_eq_bind]
  constructor
  · -- peel the reads off one at a time
    intro hdec
    obtain ⟨_, h1, hdec⟩ := Option.bind_eq_some_iff.mp hdec
    obtain ⟨_, h2, hdec⟩ := Option.bind_eq_some_iff.mp hdec
    obtain ⟨_, h3, hdec⟩ := Option.bind_eq_some_iff.mp hdec
    obtain ⟨_, h4, hdec⟩ := Option.bind_eq_some_iff.mp hdec
    obtain ⟨_, h5, hdec⟩ := Option.bind_eq_some_iff.mp hdec
    obtain ⟨_, h6, hdec⟩ := Option.bind_eq_some_iff.mp hdec
    obtain ⟨_, h7, hdec⟩ := Option.bind_eq_some_iff.mp hdec
    obtain ⟨_, h8, hdec⟩ := Option.bind_eq_some_iff.mp hdec
    obtain ⟨_, h9, hdec⟩ := Option.bind_eq_some_iff.mp hdec
    obtain ⟨_, h10, hdec⟩ := Option.bind_eq_some_iff.mp hdec
    obtain ⟨_, h11, hdec⟩ := Option.bind_eq_some_iff.mp hdec
    obtain ⟨_, h12, hdec⟩ := Option.bind_eq_some_iff.mp hdec
    cases hdec
    exact ⟨h1, h2, h3, h4, h5, h6, h7, h8, h9, h10, h11, h12⟩
  · rintro ⟨h1, h2, h3, h4, h5, h6, h7, h8, h9, h10, h11, h12⟩
    rw [h1, Option.bind_some, h2, Option.bind_some, h3, Option.bind_some, h4, Option.bind_some,
      h5, Option.bind_some, h6, Option.bind_some, h7, Option.bind_some, h8, Option.bind_some,
      h9, Option.bind_some, h10, Option.bind_some, h11, Option.bind_some, h12, Option.bind_some]
    rfl

theorem Action.ofName?_name (a : Action) : Action.ofName? a.name = some a := by
  cases a <;> rfl

theorem Action.name_of_ofName? {s : String} {a : Action} (h : Action.ofName? s = some a) : a.name = s := by
  simpa using List.find?_some h

theorem Action.name_inj {a b : Action} : a.name = b.name ↔ a = b := by
  constructor
  · intro h
    cases a <;> cases b <;> first | rfl | exact absurd h (by decide)
  · rintro rfl
    rfl

section Reading

variable {fs : Document} {k : String} {n : Nat}

theorem Fields.required_text {s : String} (h : fs.lookup k = some (.str s)) :
    (Fields.named fs).required k n Tree.text? = some s := by
  simp [Fields.required, Fields.get?, h, Tree.text?, Tree.shape]

theorem Fields.required_action {a : Action} (h : fs.lookup k = some (.str a.name)) :
    (Fields.named fs).required k n Event.readAction = some a := by
  simp [Fields.required, Fields.get?, h, Event.readAction, Tree.name?, Tree.shape, Action.ofName?_name]

theorem Fields.optional_text {o : Option String} (h : fs.lookup k = o.map .str) :
    (Fields.named fs).optional k n Tree.text? = some o := by
  cases o <;> simp [Fields.optional, Fields.get?, h, Tree.text?, Tree.shape]

theorem Fields.eq_of_required_text {x y : String}
    (h : fs.lookup k = some (.str x)) (hr : (Fields.named fs).required k n Tree.text? = some y) : y = x := by
  rw [Fields.required_text h] at hr
  exact (Option.some.inj hr).symm

theorem Fields.eq_of_optional_text {x : String}
    {y : Option String} (h : fs.lookup k = some (.str x))
    (ho : (Fields.named fs).optional k n Tree.text? = some y) : y = some x := by
  rw [Fields.optional_text (o := some x) h] at ho
  exact (Option.some.inj ho).symm

end Reading

namespace Event

/-- The diff, if any, is a value as the JSON library holds it. -/
def CanonicalChanges (e : Event) : Prop := ∀ c, e.changes = some c → (Json.obj c).Canonical

/-- No map of the diff, if any, could be read as a type marker. -/
def UnmarkedChanges (e : Event) : Prop := ∀ c, e.changes = some c → (Json.obj c).Unmarked

/-- A payload holds the stored diff under `changes`. -/
theorem toPayload_changes {e : Event} {p : Document} (h : e.toPayload = .ok p)
    {c : List (String × Json)} (hc : e.changes = some c) :
    ∃ v, storedOfJson (Json.sortKeys (.obj c)) = .ok v ∧ p.lookup "changes" = some v := by
  cases hs : storedOfJson (Json.sortKeys (.obj c)) with
  | error err =>
    simp [toPayload, hc, hs, bind, Except.bind] at h
  | ok v =>
    refine ⟨v, rfl, ?_⟩
    rw [lookup_toPayload h, lookup_toJsonFields_changes, hc]
    simp [hs, Except.toOption]

end Event

theorem lookup_map_snd {β γ : Type} (l : List (String × β)) (f : β → γ) (k : String) :
    (l.map fun kv => (kv.1, f kv.2)).lookup k = (l.lookup k).map f := by
  induction l with
  | nil => rfl
  | cons kv rest ih =>
    obtain ⟨k', v⟩ := kv
    cases hk : k == k' <;> simp [List.lookup_cons, hk, ih]

theorem Value.fieldsToRelaxed_eq_map (vs : Document) :
    Value.fieldsToRelaxed vs = vs.map fun kv => (kv.1, kv.2.toRelaxed) := by
  induction vs with
  | nil => rfl
  | cons kv rest ih => simp [Value.fieldsToRelaxed, ih]

/-- A diff as the JSON library holds it, with no map that could be read as a marker, reads back
from its stored form as itself. -/
theorem jsonMap_storedOfJson {c : List (String × Json)} (hc : (Json.obj c).Canonical)
    (hu : (Json.obj c).Unmarked) {v : Value} (h : storedOfJson (Json.sortKeys (.obj c)) = .ok v) :
    Tree.jsonMap? v = some c := by
  rw [Json.sortKeys_of_canonical hc] at h
  have hback := toRelaxed_storedOfJson hc hu h
  cases hu with
  | obj hshape _ =>
    simp only [storedOfJson] at h
    cases hs : storedOfFields c <;> simp only [hs, Except.map, reduceCtorEq, Except.ok.injEq] at h
    subst h
    rename_i vs
    rw [ofExtended_storedOfFields hshape hs] at hback ⊢
    simp only [Value.toRelaxed, Json.obj.injEq, Value.fieldsToRelaxed_eq_map] at hback
    simp [Tree.jsonMap?, Tree.shape, Tree.toJson, hback]

theorem Fields.optional_absent {β : Type} {fs : Document} {k : String} {n : Nat} {read : Value → Option β}
    (hk : fs.lookup k = none) : (Fields.named fs).optional k n read = some none := by
  simp [Fields.optional, Fields.get?, hk]

/-- A field holding a value that reads as a map reads, as an optional map, as that map. -/
theorem Fields.optional_map {fs : Document} {k : String} {n : Nat} {v : Value}
    {c : List (String × Json)} (hk : fs.lookup k = some v) (hmap : Tree.jsonMap? v = some c) :
    (Fields.named fs).optional k n Tree.jsonMap? = some (some c) := by
  -- a value that reads as a map is not null
  have hshape : ∃ fs', Tree.shape v = Shape.map fs' := by
    unfold Tree.jsonMap? at hmap
    split at hmap
    · exact ⟨_, ‹_›⟩
    · cases hmap
  obtain ⟨fs', hfs⟩ := hshape
  simp [Fields.optional, Fields.get?, hk, hfs, hmap]

/-- The payload of an event reads back as the event, with whatever diff the payload's stored
diff reads as. -/
theorem Event.decode_toPayload_of_changes {e : Event} {p : Document} (h : e.toPayload = .ok p)
    {ch : Option (List (String × Json))}
    (hch : (Fields.named p).optional "changes" 7 Tree.jsonMap? = some ch) :
    Event.decode? (Value.doc p) = some { e with changes := ch } := by
  -- each text field finds in the payload the string it finds in the event's JSON
  have htext : ∀ {k : String} {o : Option String}, e.toJsonFields.lookup k = o.map Json.str →
      p.lookup k = o.map Value.str := by
    intro k o hk
    rw [Event.lookup_toPayload h, hk]
    cases o <;> rfl
  rw [Event.decode?_doc_eq_some]
  refine ⟨Fields.required_action (htext (o := some _) ?_), Fields.required_text (htext (o := some _) ?_),
    Fields.required_text (htext (o := some _) ?_), Fields.optional_text (htext ?_), Fields.optional_text (htext ?_),
    Fields.optional_text (htext ?_), Fields.optional_text (htext ?_), hch,
    Fields.optional_text (htext ?_), Fields.optional_text (htext ?_), Fields.optional_text (htext ?_),
    Fields.optional_text (htext ?_)⟩
  all_goals
    cases hc : e.changes <;>
      simp [Event.toJsonFields, hc, List.lookup_append, List.lookup_cons, lookup_optionalField]

/-- The payload of an event holds, under `changes`, what reads as the event's diff changed by
`f`, when the stored form of the diff reads back as `f` of it. -/
theorem Event.optional_changes_toPayload {e : Event} {p : Document} (h : e.toPayload = .ok p)
    {f : List (String × Json) → List (String × Json)}
    (hf : ∀ c v, e.changes = some c → storedOfJson (Json.sortKeys (.obj c)) = .ok v →
      Tree.jsonMap? v = some (f c)) :
    (Fields.named p).optional "changes" 7 Tree.jsonMap? = some (e.changes.map f) := by
  cases hc : e.changes with
  | none =>
    apply Fields.optional_absent
    rw [Event.lookup_toPayload h, Event.lookup_toJsonFields_changes, hc]
    rfl
  | some c =>
    obtain ⟨v, hv, hlook⟩ := Event.toPayload_changes h hc
    exact Fields.optional_map hlook (hf c v hc hv)

/-- The payload of an event with a restorable diff holds, under `changes`, what reads back as
the event's diff. -/
theorem Event.changes_toPayload {e : Event} {p : Document} (h : e.toPayload = .ok p)
    (hcanon : e.CanonicalChanges) (hmark : e.UnmarkedChanges) :
    (Fields.named p).optional "changes" 7 Tree.jsonMap? = some e.changes := by
  have hread := Event.optional_changes_toPayload h (f := fun c => c)
    fun c _ hc hv => jsonMap_storedOfJson (hcanon c hc) (hmark c hc) hv
  rwa [Option.map_id'] at hread

/-- The payload of an event with a restorable diff reads back as the event. -/
theorem Event.decode_toPayload {e : Event} {p : Document} (h : e.toPayload = .ok p)
    (hcanon : e.CanonicalChanges) (hmark : e.UnmarkedChanges) :
    Event.decode? (Value.doc p) = some e :=
  Event.decode_toPayload_of_changes h (Event.changes_toPayload h hcanon hmark)

/-- A document reads back as a filed event exactly when it has an object id, exactly one wrapper
holding a document, a date-time under that payload's `timestamp`, and the rest of the payload
reads as an event. -/
theorem Stored.ofDocument_eq_ok {d : Document} {s : Stored} :
    Stored.ofDocument d = .ok s ↔
      d.objectId? = some s.id ∧ ∃ p ms, Stored.wrappers d = [(s.category, p)] ∧
        p.get? "timestamp" = some (.date ms) ∧
        Event.decode? (Value.doc (p.erase "timestamp")) = some s.event ∧
        s.timestamp = Instant.ofMillisSaturating ms.toInt := by
  rcases s with ⟨sid, sc, sts, se⟩
  unfold Stored.ofDocument
  cases hid : d.objectId? with
  | none => simp
  | some id =>
    cases hw : Stored.wrappers d with
    | nil => simp
    | cons cp rest =>
      obtain ⟨c, p⟩ := cp
      cases rest with
      | cons cp' rest' => simp
      | nil =>
        simp only [Document.get?] 
        cases hts : p.lookup "timestamp" with
        | none => simp [hts]
        | some v =>
          cases v with
          | date ms =>
            cases hdec : Event.decode? (Value.doc (p.erase "timestamp")) with
            | none => simp [hts, hdec]
            | some e =>
              simp [hts, hdec]
              rintro rfl rfl
              exact ⟨fun h => ⟨h.2, h.1.symm⟩, fun h => ⟨h.2.symm, h.1⟩⟩
          | _ => simp [hts]

/-- A filed event reads back from its document: the same id and wrapper, the time stamp
truncated to milliseconds, and the event with the diff its stored diff reads as. -/
theorem Stored.ofDocument_of_toDocument {s : Stored} {d : Document} (h : s.toDocument = .ok d)
    {ch : Option (List (String × Json))}
    (hch : ∀ p, s.event.toPayload = .ok p → (Fields.named p).optional "changes" 7 Tree.jsonMap? = some ch) :
    Stored.ofDocument d = .ok ⟨s.id, s.category, s.timestamp.floorMillis, { s.event with changes := ch }⟩ := by
  obtain ⟨p, hp, rfl⟩ := Stored.toDocument_eq_ok.mp h
  have hnone : p.lookup "timestamp" = none := by
    rw [Event.lookup_toPayload hp, Event.lookup_toJsonFields_timestamp]
    rfl
  have hwrap := (filedUnder_layout s.id s.category (p ++ [("timestamp", s.timestamp.toValue)])).wrappers_eq
  have hts : (p ++ [("timestamp", s.timestamp.toValue)]).lookup "timestamp" = some s.timestamp.toValue := by
    simp [List.lookup_append, hnone]
  have hdecode : Event.decode? (Value.doc ((p ++ [("timestamp", s.timestamp.toValue)]).erase "timestamp")) =
      some { s.event with changes := ch } := by
    rw [Document.erase_append_of_lookup_eq_none hnone]
    exact Event.decode_toPayload_of_changes hp (hch p hp)
  simp only [Stored.ofDocument, hwrap]
  simp only [Document.objectId?, Document.get?, List.lookup_cons_self, hts, hdecode]
  simp only [Instant.toValue, Instant.toInt_ofInt_toMillis, Instant.ofMillisSaturating_toMillis]

/-- A filed event reads back from its document: the same id, its own wrapper, the time stamp
truncated to milliseconds, and the event itself, when its diff is restorable. -/
theorem Stored.ofDocument_toDocument {id : ObjectId} {e : Event} {ts : Instant} {d : Document}
    (h : (Stored.new id e ts).toDocument = .ok d) (hcanon : e.CanonicalChanges)
    (hmark : e.UnmarkedChanges) :
    Stored.ofDocument d = .ok ⟨id, e.category, ts.floorMillis, e⟩ :=
  Stored.ofDocument_of_toDocument h fun _ hp => Event.changes_toPayload hp hcanon hmark

end AuditTrail
