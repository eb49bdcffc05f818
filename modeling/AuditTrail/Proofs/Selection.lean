import AuditTrail.Proofs.Clauses
import AuditTrail.Proofs.Filing

/-!
# What a query selects

A reader's query asks, along each of its dimensions, something of the event and its time stamp:
the action and the non-empty actor, target user and resource id are the event's, untrimmed; the
time stamp lies in the window, both compared in whole milliseconds rounded toward the past; a
search term that is not blank is found, under simple case folding, in the actor, the target
user, the target resource, the resource id, the reason, the details, or the string under `name`
or `catalog_number` of the diff (`Query.Meets`). A target resource that is not empty names the
wrapper the event must be filed under (`Query.Scoped`).

The filter of a query decides exactly that on the document of a filed event
(`Query.accepts_toDocument_iff`): every clause reads a field of the payload, the payload holds
the event's texts as strings (`textTest_filed`), and the stored time stamp compares in
milliseconds.

On a document that other tools wrote, the filter is weaker than the reader. The reader files a
document under the one wrapper key that holds a document, while the guard of a narrowed query
asks only for the narrowed wrapper's key to be present. Every record the filter lets through
still meets every dimension of the query (`Query.meets_of_accepts`), but a narrowed query with no
other dimension lets through a document whose narrowed wrapper key holds a value that is not a
document, and the reader then files it under its own wrapper (`Query.Leaks`,
`Query.accepts_not_scoped_iff`). Any other dimension closes the gap, because its clause reads the
payload under the narrowed wrapper only.

## Main definitions

* `Event.text`, `Event.changeText` — the texts a filter reads from an event
* `Query.Scoped`, `Query.Meets` — what a query asks of an event
* `Query.Leaks`

## Main results

* `textTest_filed`, `payloadTest_filed`, `Query.accepts_toDocument_iff`
* `Event.text_of_decode`, `payloadTest_decoded`
* `Query.meets_of_accepts`, `Query.accepts_not_scoped_iff`
-/

namespace AuditTrail

/-! ### Filters on a filed event -/

namespace Filter

theorem textTest_eq_true {g : String → Bool} {found : Option Value} :
    textTest g found = true ↔ ∃ s, found = some (.str s) ∧ g s = true := by
  rcases found with _ | ⟨_ | _ | _ | _ | _ | _ | _ | _ | _ | _⟩ <;> simp [textTest]

/-- A string is stored as itself, and nothing else is stored as a string. -/
theorem textTest_stored (g : String → Bool) (j : Json) :
    textTest g (storedOfJson j.sortKeys).toOption = j.str?.any g := by
  by_cases hj : ∃ s, j = .str s
  · obtain ⟨s, rfl⟩ := hj
    rfl
  · have hnone : j.str? = none := by
      cases j <;> simp_all [Json.str?]
    rw [hnone, Option.any_none, Bool.eq_false_iff]
    intro htest
    obtain ⟨x, hx, -⟩ := textTest_eq_true.mp htest
    cases hr : storedOfJson j.sortKeys <;> simp only [hr, Except.toOption, reduceCtorEq,
      Option.some.injEq] at hx
    subst hx
    exact hj ⟨x, sortKeys_eq_str_iff.mp (storedOfJson_eq_str_iff.mp hr)⟩

end Filter

/-- The string under a key of the event's diff, if there is one. -/
def Event.changeText (e : Event) (k : String) : Option String :=
  (e.changes.bind (·.lookup k)).bind Json.str?

/-- The text an event holds in a field, as filters read it from the stored event: the diff's
`name` and `catalog_number` only when they are strings, and the time stamp not at all. -/
def Event.text (e : Event) : Field → Option String
  | .action => some e.action.name
  | .actor => some e.actor
  | .actorRole => some e.actorRole
  | .targetUser => e.targetUser
  | .targetRole => e.targetRole
  | .targetResource => e.targetResource
  | .resourceId => e.resourceId
  | .reason => e.reason
  | .details => e.details
  | .timestamp => none
  | .changesName => e.changeText "name"
  | .changesCatalogNumber => e.changeText "catalog_number"

/-- Every field but the two inside the diff is a key of the payload itself. -/
theorem Field.pathSegments_path {f : Field} (hf : f ≠ .changesName) (hf' : f ≠ .changesCatalogNumber) :
    Document.pathSegments f.path = [f.path] := by
  cases f <;> first | decide | contradiction

theorem Json.bind_str?_map_str (o : Option String) : (o.map Json.str).bind Json.str? = o := by
  cases o <;> rfl

/-- The event's JSON holds the text of each field that is a key of the payload. -/
theorem Event.str?_lookup_toJsonFields (e : Event) {f : Field} (hf : f ≠ .changesName)
    (hf' : f ≠ .changesCatalogNumber) : (e.toJsonFields.lookup f.path).bind Json.str? = e.text f := by
  cases f <;> first | contradiction | skip
  all_goals
    cases hc : e.changes <;>
      simp [Event.toJsonFields, Event.text, hc, List.lookup_append, List.lookup_cons,
        lookup_optionalField, Field.path, Json.str?, Json.bind_str?_map_str]

theorem Filter.textTest_bind_stored (g : String → Bool) (o : Option Json) :
    Filter.textTest g (o.bind fun j => (storedOfJson j.sortKeys).toOption) = (o.bind Json.str?).any g := by
  cases o with
  | none => rfl
  | some j => exact Filter.textTest_stored g j

theorem Field.path_ne_timestamp {f : Field} (hf : f ≠ .timestamp) : f.path ≠ "timestamp" := by
  cases f <;> simp_all [Field.path]

section Filed

variable {e : Event} {p : Document}

/-- The payload with its time stamp finds each other key where the payload does. -/
theorem lookup_stamped (ts : Instant) {k : String} (hk : k ≠ "timestamp") :
    (p ++ [("timestamp", ts.toValue)]).lookup k = p.lookup k := by
  have hne : (k == "timestamp") = false := beq_false_of_ne hk
  simp [List.lookup_append, List.lookup_cons, hne]

/-- The value under a key of the stored diff is the stored form of the value under that key of
the diff. -/
theorem descend_changes (hp : e.toPayload = .ok p) (ts : Instant) {k : String}
    (hk : k ∉ extendedMarkers) :
    Document.descend ((p ++ [("timestamp", ts.toValue)]).get? "changes") [k] =
      (e.changes.bind (·.lookup k)).bind fun j => (storedOfJson j.sortKeys).toOption := by
  rw [Document.get?, lookup_stamped ts (by decide)]
  cases hc : e.changes with
  | none =>
    have hnone : p.lookup "changes" = none := by
      rw [Event.lookup_toPayload hp, Event.lookup_toJsonFields_changes, hc]
      rfl
    simp [hnone, Document.descend]
  | some c =>
    obtain ⟨v, hv, hlook⟩ := Event.toPayload_changes hp hc
    -- the stored diff is the stored map of the diff's fields, keys sorted
    simp only [Json.sortKeys, storedOfJson] at hv
    cases hs : storedOfFields (Json.sortFields (Json.sortKeysFields c)) <;>
      simp only [hs, Except.map, reduceCtorEq, Except.ok.injEq] at hv
    subst hv
    rename_i vs
    rw [hlook, descend_ofExtended vs hk, Document.get?, lookup_storedOfFields hs, lookup_sortFields,
      lookup_sortKeysFields, Option.bind_map]
    rfl

/-- A string under a key of the diff is found under that key of the stored diff, and nothing
else there is a string. -/
theorem textTest_changes (hp : e.toPayload = .ok p) (ts : Instant) (g : String → Bool) {k : String}
    (hk : k ∉ extendedMarkers) :
    Filter.textTest g (Document.descend ((p ++ [("timestamp", ts.toValue)]).get? "changes") [k]) =
      (e.changeText k).any g := by
  rw [descend_changes hp ts hk]
  exact Filter.textTest_bind_stored g _

/-- A test on the string in a field of a filed event is the test on the event's text in that
field. -/
theorem textTest_filed (hp : e.toPayload = .ok p) (ts : Instant) (g : String → Bool) (f : Field) :
    Filter.textTest g ((p ++ [("timestamp", ts.toValue)]).lookupPath f.path) = (e.text f).any g := by
  by_cases hn : f = .changesName
  · subst hn
    rw [Document.lookupPath_of_pathSegments (by decide : Document.pathSegments Field.changesName.path =
      ["changes", "name"])]
    exact textTest_changes hp ts g (by decide)
  by_cases hcat : f = .changesCatalogNumber
  · subst hcat
    rw [Document.lookupPath_of_pathSegments (by decide :
      Document.pathSegments Field.changesCatalogNumber.path = ["changes", "catalog_number"])]
    exact textTest_changes hp ts g (by decide)
  rw [Document.lookupPath_of_pathSegments (Field.pathSegments_path hn hcat), Document.descend]
  by_cases ht : f = .timestamp
  · subst ht
    simp [Document.get?, List.lookup_append, Event.lookup_toPayload hp,
      Event.lookup_toJsonFields_timestamp, Field.path, Filter.textTest, Event.text, Instant.toValue]
  · rw [Document.get?, lookup_stamped ts (Field.path_ne_timestamp ht), Event.lookup_toPayload hp,
      Filter.textTest_bind_stored, Event.str?_lookup_toJsonFields e hn hcat]

end Filed

/-! ### What a query asks of an event -/

namespace Query

/-- A category meets the query's target resource: a target resource that is not empty names the
category the event must be filed under. -/
def Scoped (q : Query) (c : Category) : Prop :=
  ∀ t, nonEmpty q.targetResource = some t → c = Category.forTarget (some t)

/-- What one dimension of the query asks of an event filed at a time stamp, read off the event
itself: the action, and the actor, target user and resource id when not empty, equal the
event's, untrimmed; the window's bounds compare with the time stamp in whole milliseconds,
rounded toward the past; a search term that is not blank is found, under simple case folding,
in one of the texts that search looks into. -/
def Meets (q : Query) (e : Event) (ts : Instant) : Dimension → Prop
  | .action => ∀ a, q.action = some a → e.action = a
  | .actor => ∀ s, nonEmpty q.actor = some s → e.actor = s
  | .targetUser => ∀ s, nonEmpty q.targetUser = some s → e.targetUser = some s
  | .resourceId => ∀ s, nonEmpty q.resourceId = some s → e.resourceId = some s
  | .window =>
    (∀ t, q.startDate = some t → t.toMillis ≤ ts.toMillis) ∧
      (∀ t, q.endDate = some t → ts.toMillis ≤ t.toMillis)
  | .search =>
    ∀ s, q.searchTerm = some s → ∃ f ∈ searchFields, ((e.text f).any fun x => containsFolded x s) = true

theorem scoped_iff (q : Query) (w : Category) : q.Scoped w ↔ ∀ c, q.narrowedTo = some c → w = c := by
  unfold Scoped narrowedTo
  cases nonEmpty q.targetResource <;> simp

/-- A dimension that does not narrow asks nothing. -/
theorem meets_of_inactive {q : Query} {i : Dimension} (h : q.active i = false) (e : Event)
    (ts : Instant) : q.Meets e ts i := by
  cases i <;> simp_all [active, Meets]

end Query

/-- The time stamp of a filed event is the last key of its payload. -/
theorem lookupPath_stamped_timestamp {e : Event} {p : Document} (hp : e.toPayload = .ok p)
    (ts : Instant) :
    (p ++ [("timestamp", ts.toValue)]).lookupPath Field.timestamp.path = some ts.toValue := by
  rw [Document.lookupPath_of_pathSegments (by decide : Document.pathSegments Field.timestamp.path =
    ["timestamp"])]
  have hnone : p.lookup "timestamp" = none := by
    rw [Event.lookup_toPayload hp, Event.lookup_toJsonFields_timestamp]
    rfl
  simp [Document.descend, Document.get?, List.lookup_append, hnone]

/-- A time window holds of a stored time stamp when its bounds hold of the time stamp's
milliseconds. -/
theorem rangeTest_stamp (ts : Instant) (lo hi : Option Instant) :
    Filter.rangeTest (lo.map Instant.toValue) (hi.map Instant.toValue) (some ts.toValue) =
      ((lo.all fun t => decide (t.toMillis ≤ ts.toMillis)) &&
        hi.all fun t => decide (ts.toMillis ≤ t.toMillis)) := by
  cases lo <;> cases hi <;>
    simp only [Filter.rangeTest, Option.map_some, Option.map_none, Option.all_some, Option.all_none,
      Instant.toValue, Value.atLeast_date, Value.atMost_date, Instant.toInt_ofInt_toMillis]

/-- A string under a key of a stored diff is the string under that key of the diff it reads as. -/
theorem changeText_of_decode {p : Document} {e : Event}
    (hdec : Event.decode? (Value.doc (p.erase "timestamp")) = some e) {k x : String}
    (hx : Document.descend (p.get? "changes") [k] = some (.str x)) : e.changeText k = some x := by
  have hchanges := ((Event.decode?_doc_eq_some _ _).mp hdec).2.2.2.2.2.2.2.1
  obtain ⟨cs, hcs, hk⟩ := Document.descend_single_eq_some hx
  have hl : (p.erase "timestamp").lookup "changes" = some (.doc cs) := by
    rw [lookup_erase_of_ne (by decide)]
    exact hcs
  simp only [Fields.optional, Fields.get?, hl, Tree.shape, Tree.jsonMap?, Option.map_some,
    Option.some.injEq] at hchanges
  rw [Event.changeText, ← hchanges]
  simp [lookup_map_snd, hk, Tree.toJson, Value.toRelaxed, Json.str?]

/-- A string that a filter finds in a field of a payload is the text, in that field, of the event
the payload reads as. -/
theorem Event.text_of_decode {p : Document} {e : Event}
    (hdec : Event.decode? (Value.doc (p.erase "timestamp")) = some e) {f : Field}
    (hf : f ≠ .timestamp) {x : String} (hx : p.lookupPath f.path = some (.str x)) :
    e.text f = some x := by
  by_cases hn : f = .changesName
  · subst hn
    rw [Document.lookupPath_of_pathSegments (by decide : Document.pathSegments Field.changesName.path =
      ["changes", "name"])] at hx
    exact changeText_of_decode hdec hx
  by_cases hcat : f = .changesCatalogNumber
  · subst hcat
    rw [Document.lookupPath_of_pathSegments (by decide :
      Document.pathSegments Field.changesCatalogNumber.path = ["changes", "catalog_number"])] at hx
    exact changeText_of_decode hdec hx
  -- any other field is a key of the payload, which the time stamp's removal leaves in place
  have hl : (p.erase "timestamp").lookup f.path = some (.str x) := by
    rw [Document.lookupPath_of_pathSegments (Field.pathSegments_path hn hcat)] at hx
    rw [lookup_erase_of_ne (Field.path_ne_timestamp hf)]
    exact hx
  obtain ⟨haction, hactor, hrole, huser, hurole, hres, hid, -, hreason, hdetails, -, -⟩ :=
    (Event.decode?_doc_eq_some _ _).mp hdec
  cases f with
  | action =>
    simp only [Field.path] at hl
    simp only [Fields.required, Fields.get?, hl] at haction
    exact congrArg some (Action.name_of_ofName? haction)
  | actor => exact congrArg some (Fields.eq_of_required_text hl hactor)
  | actorRole => exact congrArg some (Fields.eq_of_required_text hl hrole)
  | targetUser => exact Fields.eq_of_optional_text hl huser
  | targetRole => exact Fields.eq_of_optional_text hl hurole
  | targetResource => exact Fields.eq_of_optional_text hl hres
  | resourceId => exact Fields.eq_of_optional_text hl hid
  | reason => exact Fields.eq_of_optional_text hl hreason
  | details => exact Fields.eq_of_optional_text hl hdetails
  | timestamp => exact absurd rfl hf
  | changesName => exact absurd rfl hn
  | changesCatalogNumber => exact absurd rfl hcat

section Decoded

variable {p : Document} {e : Event}

/-- A test that the string in a field of a payload passes, the decoded event's text in that field
passes too. -/
theorem textTest_decoded (hdec : Event.decode? (Value.doc (p.erase "timestamp")) = some e)
    {f : Field} (hf : f ≠ .timestamp) {g : String → Bool}
    (h : Filter.textTest g (p.lookupPath f.path) = true) : (e.text f).any g = true := by
  obtain ⟨x, hx, hg⟩ := Filter.textTest_eq_true.mp h
  rw [Event.text_of_decode hdec hf hx]
  exact hg

/-- A payload that passes a dimension's test reads as an event that meets the dimension, at the
time stamp the reader gives it, saturated or not. -/
theorem payloadTest_decoded {ms : Int64} (hts : p.lookup "timestamp" = some (.date ms))
    (hdec : Event.decode? (Value.doc (p.erase "timestamp")) = some e) (q : Query) (i : Dimension)
    (h : q.payloadTest p i = true) : q.Meets e (Instant.ofMillisSaturating ms.toInt) i := by
  have htext : ∀ {f : Field} {g : String → Bool}, f ≠ .timestamp →
      Filter.textTest g (p.lookupPath f.path) = true → (e.text f).any g = true :=
    fun hf h => textTest_decoded hdec hf h
  cases i with
  | action =>
    intro a ha
    simp only [Query.payloadTest, ha, Option.all_some, Filter.eqTest_str] at h
    simpa [Event.text, Action.name_inj] using htext (f := .action) (by decide) h
  | actor =>
    intro s hs
    simp only [Query.payloadTest, hs, Option.all_some, Filter.eqTest_str] at h
    simpa [Event.text] using htext (f := .actor) (by decide) h
  | targetUser =>
    intro s hs
    simp only [Query.payloadTest, hs, Option.all_some, Filter.eqTest_str] at h
    simpa [Event.text, Option.any_eq_true] using htext (f := .targetUser) (by decide) h
  | resourceId =>
    intro s hs
    simp only [Query.payloadTest, hs, Option.all_some, Filter.eqTest_str] at h
    simpa [Event.text, Option.any_eq_true] using htext (f := .resourceId) (by decide) h
  | window =>
    have hstamp : p.lookupPath Field.timestamp.path = some (.date ms) := by
      rw [Document.lookupPath_of_pathSegments (by decide : Document.pathSegments Field.timestamp.path =
        ["timestamp"])]
      exact hts
    simp only [Query.payloadTest, hstamp, Filter.rangeTest, Bool.and_eq_true, Option.all_eq_true,
      Option.map_eq_some_iff] at h
    obtain ⟨hlo, hhi⟩ := h
    refine ⟨fun t ht => ?_, fun t ht => ?_⟩
    · have hle := hlo t.toValue ⟨t, ht, rfl⟩
      simp only [Instant.toValue, Value.atLeast_date, Instant.toInt_ofInt_toMillis,
        decide_eq_true_eq] at hle
      exact Instant.le_toMillis_ofMillisSaturating hle
    · have hle := hhi t.toValue ⟨t, ht, rfl⟩
      simp only [Instant.toValue, Value.atMost_date, Instant.toInt_ofInt_toMillis,
        decide_eq_true_eq] at hle
      exact Instant.toMillis_ofMillisSaturating_le hle
  | search =>
    intro s hs
    simp only [Query.payloadTest, hs, Option.all_some, List.any_eq_true, Filter.containsTest_eq] at h
    obtain ⟨f, hf, hc⟩ := h
    have hft : f ≠ .timestamp := by
      rintro rfl
      simp [searchFields] at hf
    exact ⟨f, hf, htext hft hc⟩

end Decoded

/-! ### What a query lets through -/

namespace Query

/-- A narrowed query with no other dimension lets a document through when the narrowed wrapper's
key is present, whatever it holds; it *leaks* the document when that key holds something other
than a document, so that the reader files the document under another wrapper. -/
def Leaks (q : Query) (d : Document) : Prop :=
  q.dimensions = [] ∧ ∃ c, q.narrowedTo = some c ∧ ∃ v, d.get? c.key = some v ∧ ∀ p, v ≠ .doc p

/-- Every document a query's filter lets through that reads back as a filed event meets every
dimension of the query, with the event's time stamp as the reader gives it. -/
theorem meets_of_accepts {d : Document} {s : Stored} (hs : Stored.ofDocument d = .ok s) {q : Query}
    (h : q.toFilter.accepts d = true) (i : Dimension) : q.Meets s.event s.timestamp i := by
  obtain ⟨-, p, ms, hw, hts, hdec, hstamp⟩ := Stored.ofDocument_eq_ok.mp hs
  obtain ⟨-, hdims⟩ := (filedUnder_of_wrappers hw).accepts_toFilter_iff q |>.mp h
  cases ha : q.active i
  · exact meets_of_inactive ha _ _
  · rw [hstamp]
    exact payloadTest_decoded hts hdec q i (hdims i (List.mem_filter.mpr ⟨i.mem_all, ha⟩)).2

/-- A document that reads back as a filed event passes a query's filter although the event is
filed under another wrapper than the query names exactly when the query leaks it. -/
theorem accepts_not_scoped_iff {d : Document} {s : Stored} (hs : Stored.ofDocument d = .ok s)
    (q : Query) : (q.toFilter.accepts d = true ∧ ¬ q.Scoped s.category) ↔ q.Leaks d := by
  obtain ⟨-, p, ms, hw, -, -, -⟩ := Stored.ofDocument_eq_ok.mp hs
  have hfiled := filedUnder_of_wrappers hw
  rw [hfiled.accepts_toFilter_iff, scoped_iff]
  constructor
  · rintro ⟨⟨hguard, hdims⟩, hout⟩
    obtain ⟨c, hc, hne⟩ : ∃ c, q.narrowedTo = some c ∧ s.category ≠ c := by
      simpa using hout
    -- the payload's wrapper is out of scope, so no dimension may narrow
    have hnil : q.dimensions = [] := by
      refine List.eq_nil_iff_forall_not_mem.mpr fun i hi => hne ?_
      exact (mem_scope_iff q _).mp (hdims i hi).1 c hc
    obtain ⟨v, hv⟩ := Option.isSome_iff_exists.mp (hguard c hc)
    exact ⟨hnil, c, hc, v, hv, fun p' hp' => hfiled.others c (Ne.symm hne) p' (hp' ▸ hv)⟩
  · rintro ⟨hnil, c, hc, v, hv, hnd⟩
    refine ⟨⟨fun c' hc' => ?_, by simp [hnil]⟩, fun hall => ?_⟩
    · rw [hc] at hc'
      cases hc'
      simp [hv]
    · -- the narrowed key holds no document, so it is not the payload's wrapper
      have hpayload := hfiled.payload
      rw [hall c hc] at hpayload
      exact hnd p (Option.some.inj (hv.symm.trans hpayload))

end Query

end AuditTrail
