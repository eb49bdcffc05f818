import AuditTrail.Proofs.Append
import AuditTrail.Proofs.Window

/-!
# The activity of a principal

A principal's activity is read through one filter that asks, under every wrapper, for the
principal as the actor or as the target user. On every document, whatever its shape, that
filter holds exactly when the query for the principal as actor or the query for the principal as
target user holds (`involving_accepts`), provided the principal is not empty: an empty actor or
target user narrows no query, so those queries then hold of every document. An activity read
therefore returns the records that the two queries return, each once (`activityFor_records_iff`).

After a history of appends to an empty in-memory store, the store holds one document per
accepted event, under ids minted in order (`Session.afterAppends_eq`), and reads list those
documents newest first, that is, in reverse order of appending. When each event's diff reads
back as itself, the activity of a principal is then exactly the accepted events that involve
it, newest first, each with its own id, and the total counts them
(`activity_lists_involved_events`). A diff spelled as an integer marker does not read back as
itself, and its event is then counted but not listed (`markerUpdate_activity_lists_none`).

## Main definitions

* `Event.appendable` — whether appending accepts an event
* `Session.afterAppends` — the session after a history of appends, each at its clock reading
* `appendedEntries` — the accepted events of a history with the serials of their ids
* `filedDocuments`, `filedRecord` — what the store holds for them, and how it reads back
* `involvedRecords` — the records of the accepted events that involve a principal, newest first

## Main results

* `involving_accepts`, `Audit.activityFor_records_iff`
* `Session.afterAppends_eq`
* `involving_accepts_filed`, `records_filedDocuments`, `count_filedDocuments_of`, `count_filedDocuments`
* `activity_lists_involved_events`, and `markerUpdate_activity_lists_none` where a diff does
  not read back
-/

namespace AuditTrail

/-! ### The principal's filter and the two queries -/

section Queries

variable {p : String}

/-- The query for an actor that is not empty holds of a document when the actor is found under
some wrapper. -/
theorem accepts_actorQuery (hp : p ≠ "") (d : Document) :
    ({ actor := some p } : Query).toFilter.accepts d =
      Category.all.any fun c => (Filter.eq (c.path .actor) (.str p)).accepts d := by
  rw [Query.accepts_toFilter]
  simp [Query.narrowing, Query.scope, nonEmpty, Query.clausesOf, Query.exactClause, hp,
    Query.searchTerm, Dimension.all, Filter.accepts_anyWrapper_eq, Category.all]

/-- The query for a target user that is not empty holds of a document when the target user is
found under some wrapper. -/
theorem accepts_targetQuery (hp : p ≠ "") (d : Document) :
    ({ targetUser := some p } : Query).toFilter.accepts d =
      Category.all.any fun c => (Filter.eq (c.path .targetUser) (.str p)).accepts d := by
  rw [Query.accepts_toFilter]
  simp [Query.narrowing, Query.scope, nonEmpty, Query.clausesOf, Query.exactClause, hp,
    Query.searchTerm, Dimension.all, Filter.accepts_anyWrapper_eq, Category.all]

/-- The principal's filter is the disjunction of the query for the principal as actor and the
query for the principal as target user, on every document. -/
theorem involving_accepts (hp : p ≠ "") (d : Document) :
    (involving p).accepts d =
      (({ actor := some p } : Query).toFilter.accepts d ||
        ({ targetUser := some p } : Query).toFilter.accepts d) := by
  rw [involving, Filter.accepts_disj, List.any_flatMap, accepts_actorQuery hp,
    accepts_targetQuery hp, Bool.eq_iff_iff]
  simp only [Bool.or_eq_true, List.any_eq_true, List.any_cons, List.any_nil, Bool.or_false,
    and_or_left, exists_or]

end Queries

namespace Audit

variable {s : Session} {c : Collection}

theorem mem_records_newestFirst {f : Filter} {r : Record} :
    r ∈ (c.newestFirst f 0 0).filterMap recordOf? ↔
      ∃ d ∈ c.documents, f.accepts d = true ∧ recordOf? d = some r := by
  simp only [List.mem_filterMap, Collection.newestFirst_zero, Collection.mem_sortedMatches, and_assoc]

/-- An unwindowed activity read returns the records that the query for the principal as actor
or the query for the principal as target user returns, and counts the documents either counts. -/
theorem activityFor_records_iff (hs : s.backend = .memory c) {p : String} (hp : p ≠ "") :
    ∃ ra ta rt tt records,
      (query { actor := some p } 0 0).run s = .ok (ra, ta) s ∧
      (query { targetUser := some p } 0 0).run s = .ok (rt, tt) s ∧
      (activityFor p 0 0).run s = .ok (records,
        (c.documents.filter fun d => ({ actor := some p } : Query).toFilter.accepts d ||
          ({ targetUser := some p } : Query).toFilter.accepts d).length) s ∧
      ∀ r, r ∈ records ↔ r ∈ ra ∨ r ∈ rt := by
  refine ⟨_, _, _, _, (c.newestFirst (involving p) 0 0).filterMap recordOf?,
    query_run hs _ 0 0, query_run hs _ 0 0, ?_, fun r => ?_⟩
  · rw [activityFor, findPage_run hs, Collection.count,
      List.filter_congr fun d _ => involving_accepts hp d]
  · simp only [mem_records_newestFirst, involving_accepts hp, Bool.or_eq_true, or_and_right,
      and_or_left, exists_or]

end Audit

/-! ### A history of appends -/

/-- Whether appending accepts an event: it is valid and its payload can be built. -/
def Event.appendable (e : Event) : Bool :=
  e.validate.toBool && e.toPayload.toBool

/-- Whether a principal is the event's actor or its target user. -/
def Event.involves (p : String) (e : Event) : Bool :=
  e.actor == p || e.targetUser == some p

/-- The session after appending each event of a history at its own clock reading; an append
that fails leaves the store and the mint as they were. -/
def Session.afterAppends (s : Session) : List (Event × Instant) → Session
  | [] => s
  | (e, t) :: rest =>
    match (Audit.append e).run { s with clock := t } with
    | .ok _ s' => s'.afterAppends rest
    | .error _ s' => s'.afterAppends rest

/-- The events of a history that appending accepts, each with its clock reading and the serial
of the id minted for it, the mint standing at `start` before the first. -/
def appendedEntries (start : Nat) (h : List (Event × Instant)) : List ((Event × Instant) × Nat) :=
  (h.filter fun et => et.1.appendable).zipIdx (start + 1)

/-- The documents filed for numbered events. -/
def filedDocuments (entries : List ((Event × Instant) × Nat)) : List Document :=
  entries.filterMap fun x => ((Stored.new (.minted x.2) x.1.1 x.1.2).toDocument).toOption

/-- The record a numbered event reads back as. -/
def filedRecord (x : (Event × Instant) × Nat) : Record :=
  ⟨.minted x.2, x.1.2.floorMillis, x.1.1.category, x.1.1⟩

/-- The records of the appended events of a history that involve a principal, newest first. -/
def involvedRecords (start : Nat) (h : List (Event × Instant)) (p : String) : List Record :=
  ((appendedEntries start h).reverse.filter fun x => x.1.1.involves p).map filedRecord

theorem except_toOption_eq_some {ε α : Type} {x : Except ε α} {a : α} :
    x.toOption = some a ↔ x = .ok a := by
  cases x <;> simp [Except.toOption]

theorem filedDocuments_cons {e : Event} {t : Instant} {k : Nat} {d : Document}
    (hd : (Stored.new (.minted k) e t).toDocument = .ok d) (rest : List ((Event × Instant) × Nat)) :
    filedDocuments (((e, t), k) :: rest) = d :: filedDocuments rest := by
  simp [filedDocuments, hd, Except.toOption]

theorem mem_filedDocuments {entries : List ((Event × Instant) × Nat)} {d : Document} :
    d ∈ filedDocuments entries ↔
      ∃ x ∈ entries, (Stored.new (.minted x.2) x.1.1 x.1.2).toDocument = .ok d := by
  simp [filedDocuments, except_toOption_eq_some]

/-- On the in-memory store one append either rejects the event and leaves the session as it
was, or files the event's document under the next id. -/
theorem Audit.append_run_memory {s : Session} {c : Collection} (hs : s.backend = .memory c)
    (e : Event) :
    (e.appendable = false ∧ ∃ err, (Audit.append e).run s = .error err s) ∨
      (e.appendable = true ∧ ∃ d, (Stored.new (.minted (s.minted + 1)) e s.clock).toDocument = .ok d ∧
        (Audit.append e).run s = .ok (ObjectId.minted (s.minted + 1)).toHex
          { s with backend := .memory (c.insert d), minted := s.minted + 1 }) := by
  rcases Audit.append_run_cases s e with ⟨ha, hrun⟩ | ⟨ha, hr, hrun⟩ |
    ⟨-, -, hover, _, hrun⟩ | ⟨ha, hr, -, d, hd, ⟨c', hs', hrun⟩ | ⟨name, hs', -⟩⟩
  · exact .inl ⟨by simp [Event.appendable, Event.validate_eq, ha, Except.toBool], _, hrun⟩
  · exact .inl ⟨by simp [Event.appendable, Event.validate_eq, ha, hr, Except.toBool], _, hrun⟩
  · -- the payload cannot be built, whatever the validation says
    have hskip : e.appendable = false := by
      cases hp : e.toPayload with
      | error err => simp [Event.appendable, hp, Except.toBool]
      | ok p => exact absurd hp (Event.toPayload_ne_ok hover p)
    exact .inl ⟨hskip, _, hrun⟩
  · rw [hs, Backend.memory.injEq] at hs'
    subst hs'
    obtain ⟨p, hp, -⟩ := Stored.toDocument_new_eq_ok.mp hd
    have hkeep : e.appendable = true := by
      simp [Event.appendable, (Event.validate_eq_ok_iff e).mpr ⟨ha, hr⟩, hp, Except.toBool]
    exact .inr ⟨hkeep, d, hd, hrun⟩
  · simp [hs] at hs'

namespace Session

/-- A history of appends to the in-memory store adds the documents of the accepted events, in
order, under the ids minted next, leaves the clock at the last reading, and changes nothing
else. -/
theorem afterAppends_eq (h : List (Event × Instant)) :
    ∀ (s : Session) (c : Collection), s.backend = .memory c →
      s.afterAppends h = { s with
        backend := .memory ⟨c.documents ++ filedDocuments (appendedEntries s.minted h)⟩,
        clock := (h.map Prod.snd).getLastD s.clock,
        minted := s.minted + (h.filter fun et => et.1.appendable).length } := by
  induction h with
  | nil =>
    intro s c hs
    cases s
    cases hs
    simp [afterAppends, appendedEntries, filedDocuments]
  | cons et rest ih =>
    obtain ⟨e, t⟩ := et
    intro s c hs
    have hs₁ : ({ s with clock := t } : Session).backend = .memory c := hs
    rcases Audit.append_run_memory hs₁ e with ⟨hskip, err, hrun⟩ | ⟨hkeep, d, hd, hrun⟩
    · simp [afterAppends, hrun, ih _ c hs₁, appendedEntries, hskip, List.getLast?_cons]
    · dsimp only at hd hrun
      simp only [afterAppends, hrun]
      rw [ih _ (c.insert d) rfl]
      simp only [appendedEntries, List.filter_cons, hkeep, if_true, List.zipIdx_cons]
      rw [filedDocuments_cons hd]
      simp [Collection.insert, Nat.add_assoc, Nat.add_comm 1, List.getLast?_cons]

end Session

/-! ### Reading a history back -/

theorem Collection.sortedMatches_of_sorted {c : Collection} (f : Filter)
    (h : c.documents.reverse.Pairwise fun a b => KeyNewer (newestKey a) (newestKey b)) :
    c.sortedMatches f = c.documents.reverse.filter (f.accepts ·) := by
  -- a list already newest first is its own stable sort
  refine List.mergeSort_of_pairwise ((h.filter _).imp fun hab => ?_)
  exact (newerOrSame_eq_true_iff _ _).mpr hab.asymm

theorem Event.toDocument_of_appendable {e : Event} (he : e.appendable = true) (id : ObjectId)
    (t : Instant) : ∃ d, (Stored.new id e t).toDocument = .ok d := by
  cases hp : e.toPayload with
  | error err => simp [Event.appendable, hp, Except.toBool] at he
  | ok pl => exact ⟨_, Stored.toDocument_new_eq_ok.mpr ⟨pl, hp, rfl⟩⟩

/-- The principal's filter holds of a filed event's document exactly when the principal is the
event's actor or its target user. -/
theorem involving_accepts_filed {id : ObjectId} {e : Event} {ts : Instant} {d : Document}
    (hd : (Stored.new id e ts).toDocument = .ok d) {p : String} (hp : p ≠ "") :
    (involving p).accepts d = e.involves p := by
  obtain ⟨pl, hpl, rfl⟩ := Stored.toDocument_new_eq_ok.mp hd
  have hfiled := filedUnder_layout id e.category (pl ++ [("timestamp", ts.toValue)])
  -- every wrapper but the event's own reads a missing field
  have hfield : ∀ f : Field, (Category.all.any fun c =>
      (Filter.eq (c.path f) (.str p)).accepts
        [("_id", .oid id), (e.category.key, .doc (pl ++ [("timestamp", ts.toValue)])),
          ("type", .str e.category.key)]) = (e.text f).any (· == p) := by
    intro f
    rw [← Filter.accepts_anyWrapper_eq,
      hfiled.accepts_anyWrapper Category.all (Filter.eqTest_none _) fun _ _ => rfl,
      Filter.eqTest_str, textTest_filed hpl]
    simp [Category.mem_all]
  rw [involving_accepts hp, accepts_actorQuery hp, accepts_targetQuery hp, hfield, hfield]
  rcases ht : e.targetUser with _ | u <;> simp [Event.involves, Event.text, ht]

section Ledger

variable {entries : List ((Event × Instant) × Nat)} {p : String}

/-- Documents filed for events numbered in increasing order are listed newest first when taken
last to first. -/
theorem filedDocuments_reverse_sorted (hinc : entries.Pairwise fun a b => a.2 < b.2) :
    (filedDocuments entries).reverse.Pairwise fun a b => KeyNewer (newestKey a) (newestKey b) := by
  rw [filedDocuments, ← List.filterMap_reverse]
  refine (List.pairwise_reverse.mpr hinc).filterMap _ fun a b hab da hda db hdb => ?_
  have hka := Stored.objectId?_of_toDocument (except_toOption_eq_some.mp hda)
  have hkb := Stored.objectId?_of_toDocument (except_toOption_eq_some.mp hdb)
  simp only [newestKey, hka, hkb, KeyNewer, ObjectId.order]
  exact Nat.compare_eq_gt.mpr hab

/-- A filed event whose diff reads back as itself reads back as its numbered record. -/
theorem recordOf?_filed {e : Event} {t : Instant} {k : Nat} {d : Document}
    (hd : (Stored.new (.minted k) e t).toDocument = .ok d) (hcanon : e.CanonicalChanges)
    (hmark : e.UnmarkedChanges) :
    Audit.recordOf? d = some (filedRecord ((e, t), k)) := by
  simp [Audit.recordOf?, Stored.ofDocument_toDocument hd hcanon hmark, Stored.toRecord, filedRecord]

/-- What every entry of an appended history satisfies when its diff reads back as itself. -/
def Readable (entries : List ((Event × Instant) × Nat)) : Prop :=
  ∀ x ∈ entries, x.1.1.appendable = true ∧ x.1.1.CanonicalChanges ∧ x.1.1.UnmarkedChanges

/-- The records of the filed documents the principal's filter holds of, taken last to first,
are the records of the entries that involve the principal, last to first. -/
theorem records_filedDocuments (hp : p ≠ "") (hent : Readable entries) :
    ((filedDocuments entries).reverse.filter ((involving p).accepts ·)).filterMap Audit.recordOf? =
      (entries.reverse.filter fun x => x.1.1.involves p).map filedRecord := by
  rw [filedDocuments, ← List.filterMap_reverse, List.filter_filterMap, List.filterMap_filterMap,
    ← List.filterMap_eq_map', List.filterMap_filter]
  refine List.filterMap_congr fun x hx => ?_
  obtain ⟨happ, hcanon, hmark⟩ := hent x (List.mem_reverse.mp hx)
  obtain ⟨d, hd⟩ := Event.toDocument_of_appendable happ (.minted x.2) x.1.2
  have hrec := recordOf?_filed hd hcanon hmark
  cases hinv : x.1.1.involves p <;>
    simp [hd, Except.toOption, Option.filter, involving_accepts_filed hd hp, hinv, hrec]

/-- A filter that reads every filed document as a test of its entry holds of as many filed
documents as there are entries that pass the test. -/
theorem count_filedDocuments_of (hent : ∀ x ∈ entries, x.1.1.appendable = true) {F : Filter}
    {test : (Event × Instant) × Nat → Bool}
    (hF : ∀ x ∈ entries, ∀ d, (Stored.new (.minted x.2) x.1.1 x.1.2).toDocument = .ok d →
      F.accepts d = test x) :
    ((filedDocuments entries).filter (F.accepts ·)).length = (entries.filter test).length := by
  induction entries with
  | nil => rfl
  | cons x rest ih =>
    obtain ⟨d, hd⟩ := Event.toDocument_of_appendable (hent x (List.mem_cons_self ..)) (.minted x.2) x.1.2
    have hrest := ih (fun y hy => hent y (List.mem_cons_of_mem _ hy))
      (fun y hy => hF y (List.mem_cons_of_mem _ hy))
    obtain ⟨⟨e, t⟩, k⟩ := x
    rw [filedDocuments_cons hd, List.filter_cons, List.filter_cons, hF _ (List.mem_cons_self ..) d hd]
    cases test ((e, t), k) <;> simp [hrest]

/-- The principal's filter holds of as many filed documents as there are entries involving the
principal. -/
theorem count_filedDocuments (hp : p ≠ "") (hent : Readable entries) :
    ((filedDocuments entries).filter ((involving p).accepts ·)).length =
      (entries.filter fun x => x.1.1.involves p).length :=
  count_filedDocuments_of (fun x hx => (hent x hx).1) fun _ _ _ hd => involving_accepts_filed hd hp

end Ledger

section History

variable {start : Nat} {h : List (Event × Instant)}

/-- The serials of the appended entries increase along the history. -/
theorem appendedEntries_increasing (start : Nat) (h : List (Event × Instant)) :
    (appendedEntries start h).Pairwise fun a b => a.2 < b.2 := by
  have hr := List.pairwise_lt_range' (s := start + 1) (n := (h.filter fun et => et.1.appendable).length)
  rwa [← List.zipIdx_map_snd, List.pairwise_map] at hr

theorem readable_appendedEntries (start : Nat) (hread : ∀ et ∈ h, et.1.CanonicalChanges ∧ et.1.UnmarkedChanges) :
    Readable (appendedEntries start h) := by
  intro x hx
  obtain ⟨hmem, happ⟩ := List.mem_filter.mp (List.fst_mem_of_mem_zipIdx hx)
  exact ⟨happ, hread _ hmem⟩

/-- Each involved record carries its own id. -/
theorem involvedRecords_ids_nodup (start : Nat) (h : List (Event × Instant)) (p : String) :
    ((involvedRecords start h p).map Record.id).Nodup := by
  rw [involvedRecords, List.map_map]
  refine List.pairwise_map.mpr
    (((List.pairwise_reverse.mpr (appendedEntries_increasing start h)).filter _).imp ?_)
  intro a b hab hid
  simp only [Function.comp_apply, filedRecord, ObjectId.minted.injEq] at hid
  omega

end History

/-- Appending a history of events to an empty in-memory store, each at its own clock reading,
and reading the activity of a principal that is not empty gives the appended events that the
principal acts in or is targeted by, newest first, each once under its own id, with their number
as the total; they are the records of the query for the principal as actor together with those of
the query for the principal as target user. The events' diffs must read back as themselves. -/
theorem activity_lists_involved_events (s : Session) (h : List (Event × Instant)) {p : String}
    (hp : p ≠ "") (hs : s.backend = .memory {})
    (hread : ∀ et ∈ h, et.1.CanonicalChanges ∧ et.1.UnmarkedChanges) :
    let s' := s.afterAppends h
    let records := involvedRecords s.minted h p
    (Audit.activityFor p 0 0).run s' = .ok (records, records.length) s' ∧
      (records.map Record.id).Nodup ∧
      ∃ ra ta rt tt,
        (Audit.query { actor := some p } 0 0).run s' = .ok (ra, ta) s' ∧
        (Audit.query { targetUser := some p } 0 0).run s' = .ok (rt, tt) s' ∧
        ∀ r, r ∈ records ↔ r ∈ ra ∨ r ∈ rt := by
  intro s' records
  have hs' : s'.backend = .memory ⟨filedDocuments (appendedEntries s.minted h)⟩ := by
    simp [s', Session.afterAppends_eq h s {} hs]
  have hent := readable_appendedEntries s.minted hread
  have hrun : (Audit.activityFor p 0 0).run s' = .ok (records, records.length) s' := by
    rw [Audit.activityFor, Audit.findPage_run hs', Collection.newestFirst_zero,
      Collection.sortedMatches_of_sorted (c := ⟨filedDocuments (appendedEntries s.minted h)⟩) _
        (filedDocuments_reverse_sorted (appendedEntries_increasing s.minted h)),
      records_filedDocuments hp hent, Collection.count, count_filedDocuments hp hent]
    simp [records, involvedRecords]
  obtain ⟨ra, ta, rt, tt, records', hqa, hqt, hact, hunion⟩ := Audit.activityFor_records_iff hs' hp
  have hsame : records' = records := by
    rw [hrun] at hact
    injection hact with hpair
    exact (Prod.ext_iff.mp hpair).1.symm
  exact ⟨hrun, involvedRecords_ids_nodup s.minted h p, ra, ta, rt, tt, hqa, hqt, hsame ▸ hunion⟩

/-- Logins by "alice" and by "bob", both at the epoch. -/
def twoLogins : List (Event × Instant) :=
  [(aliceLogin, Instant.epoch), (Event.new .userLogin "bob" "user", Instant.epoch)]

/-- After the two logins, the activity of "alice" is her login alone, under the first id. -/
theorem twoLogins_activity_of_alice :
    ∃ records, (Audit.activityFor "alice" 0 0).run (({} : Session).afterAppends twoLogins) =
        .ok (records, 1) (({} : Session).afterAppends twoLogins) ∧
      records.map Record.id = [.minted 1] := by
  have hread : ∀ et ∈ twoLogins, et.1.CanonicalChanges ∧ et.1.UnmarkedChanges := by
    intro et het
    -- neither login carries a diff
    have hnone : et.1.changes = none := by
      simp only [twoLogins, List.mem_cons, List.not_mem_nil, or_false] at het
      rcases het with rfl | rfl <;> rfl
    exact ⟨fun c hc => by simp [hnone] at hc, fun c hc => by simp [hnone] at hc⟩
  obtain ⟨hrun, -, -⟩ :=
    activity_lists_involved_events {} twoLogins (p := "alice") (by decide) rfl hread
  have hone : (involvedRecords 0 twoLogins "alice").length = 1 := by decide
  exact ⟨_, hone ▸ hrun, by decide⟩

/-- An update by "alice" whose whole diff is spelled as a 64-bit integer marker. -/
def markerUpdate : Event :=
  { action := .itemUpdate, actor := "alice", actorRole := "admin",
    changes := some [("$numberLong", .str "5")] }

/-- The update is appended, but its diff is stored as the integer `5` and the filed document no
longer decodes: the activity of "alice" lists no event while counting one. -/
theorem markerUpdate_activity_lists_none :
    (({} : Session).afterAppends [(markerUpdate, Instant.epoch)]).minted = 1 ∧
      ((Audit.activityFor "alice" 0 0).run'
          (({} : Session).afterAppends [(markerUpdate, Instant.epoch)])).map
        (fun page => (page.1.length, page.2)) = some (0, 1) := by
  decide +kernel

end AuditTrail
