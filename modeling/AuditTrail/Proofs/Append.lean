import Mathlib.Data.List.DropRight
import Mathlib.Data.List.TakeWhile
import AuditTrail.Proofs.Store

/-!
# What appending an event does

Appending runs three checks and one write, in this order: the actor must not be blank, then the
actor's role must not be blank, then the event's document must be buildable, which fails only
when the diff holds, at some depth, an integer above the largest signed 64-bit value
(`Json.Oversized`); then the document is inserted. The first check that fails decides the
error, and the session is left as it was. Only the insert can fail with a database error, and
only on the unreachable remote store; on the in-memory store it appends the document built for
the next minted id, which no stored document carries yet.

Blank means empty once the Unicode `White_Space` characters are trimmed from both ends
(`trimBlank_eq_empty_iff`).

## Main definitions

* `Json.Oversized`, `Event.Oversized` — an integer too large to store

## Main results

* `oversized_of_storedOfJson`, `Json.Oversized.storedOfJson_ne_ok` — storing fails exactly on
  oversized integers, and then with a serialization error
* `Audit.append_run_cases` — what one append does, case by case
* `append_checks_in_order`
-/

namespace AuditTrail

/-! ### Blank texts -/

/-- All of a list is blank exactly when all of it is, once its leading blanks are dropped. -/
theorem forall_dropBlank_iff (cs : List Char) :
    (∀ c ∈ dropBlank cs, isBlankChar c = true) ↔ ∀ c ∈ cs, isBlankChar c = true := by
  rw [← List.dropWhile_eq_nil_iff, dropBlank, List.dropWhile_idempotent,
    List.dropWhile_eq_nil_iff]

/-- A text trims to nothing exactly when it is blank. -/
theorem trimBlank_eq_empty_iff (s : String) : trimBlank s = "" ↔ isBlank s = true := by
  simp only [trimBlank, String.ofList_eq_empty_iff, List.reverse_eq_nil_iff, dropBlank,
    List.dropWhile_eq_nil_iff, List.mem_reverse, isBlank, List.all_eq_true]
  exact forall_dropBlank_iff s.toList

example : trimBlank "\u3000\u00A0 " = "" := by decide
example : trimBlank "\u200B" = "\u200B" := by decide

/-! ### Integers too large to store -/

namespace Json

/-- Somewhere in the value, at any depth, an integer lies above the largest signed 64-bit
value. -/
inductive Oversized : Json → Prop
  | int {n : Int} : 9223372036854775807 < n → Oversized (.int n)
  | item {items : List Json} {x : Json} : x ∈ items → Oversized x → Oversized (.arr items)
  | field {fields : List (String × Json)} {k : String} {x : Json} :
      (k, x) ∈ fields → Oversized x → Oversized (.obj fields)

theorem sortKeysItems_eq_map (items : List Json) : sortKeysItems items = items.map sortKeys := by
  induction items with
  | nil => rfl
  | cons j rest ih => simp [sortKeysItems, ih]

theorem sortKeysFields_eq_map (fields : List (String × Json)) :
    sortKeysFields fields = fields.map fun kj => (kj.1, sortKeys kj.2) := by
  induction fields with
  | nil => rfl
  | cons kj rest ih => simp [sortKeysFields, ih]

theorem mem_sortFields {β : Type} {fields : List (String × β)} {kv : String × β} :
    kv ∈ sortFields fields ↔ kv ∈ fields :=
  List.mem_mergeSort

/-- Sorting keys moves fields, and so moves no integer in or out of the value. -/
theorem oversized_sortKeys_iff {j : Json} : j.sortKeys.Oversized ↔ j.Oversized := by
  constructor
  · -- the derivation for the sorted value is followed back to the unsorted one
    intro h
    generalize hs : j.sortKeys = s at h
    induction h generalizing j with
    | int hn =>
      cases j <;> simp only [sortKeys, reduceCtorEq, Json.int.injEq] at hs
      exact hs ▸ .int hn
    | item hmem _ ih =>
      cases j <;> simp only [sortKeys, reduceCtorEq, Json.arr.injEq] at hs
      subst hs
      obtain ⟨y, hy, rfl⟩ := List.mem_map.mp ((sortKeysItems_eq_map _) ▸ hmem)
      exact .item hy (ih rfl)
    | field hmem _ ih =>
      cases j <;> simp only [sortKeys, reduceCtorEq, Json.obj.injEq] at hs
      subst hs
      rw [mem_sortFields, sortKeysFields_eq_map] at hmem
      obtain ⟨⟨k, y⟩, hy, hky⟩ := List.mem_map.mp hmem
      simp only [Prod.mk.injEq] at hky
      obtain ⟨rfl, rfl⟩ := hky
      exact .field hy (ih rfl)
  · intro h
    induction h with
    | int hn => exact .int hn
    | item hmem _ ih =>
      rw [sortKeys, sortKeysItems_eq_map]
      exact .item (List.mem_map_of_mem hmem) ih
    | @field fields k x hmem _ ih =>
      rw [sortKeys]
      refine .field (k := k) ?_ ih
      rw [mem_sortFields, sortKeysFields_eq_map]
      exact List.mem_map_of_mem (f := fun kj : String × Json => (kj.1, sortKeys kj.2)) hmem

end Json

mutual

/-- Storing a value fails only on an oversized integer, and then with a serialization error. -/
theorem oversized_of_storedOfJson : ∀ {j : Json} {err : AuditError},
    storedOfJson j = .error err → j.Oversized ∧ ∃ m, err = .serialization m
  | .null, _, h | .bool _, _, h | .float _, _, h | .str _, _, h => by simp [storedOfJson] at h
  | .int n, err, h => by
    simp only [storedOfJson] at h
    split at h
    · cases h
      exact ⟨.int ‹_›, _, rfl⟩
    · cases h
  | .arr items, err, h => by
    simp only [storedOfJson] at h
    cases hs : storedOfItems items with
    | error e =>
      simp only [hs, Except.map, Except.error.injEq] at h
      subst h
      obtain ⟨⟨x, hx, hover⟩, hm⟩ := oversized_of_storedOfItems hs
      exact ⟨.item hx hover, hm⟩
    | ok vs => simp [hs, Except.map] at h
  | .obj fields, err, h => by
    simp only [storedOfJson] at h
    cases hs : storedOfFields fields with
    | error e =>
      simp only [hs, Except.map, Except.error.injEq] at h
      subst h
      obtain ⟨⟨k, x, hx, hover⟩, hm⟩ := oversized_of_storedOfFields hs
      exact ⟨.field hx hover, hm⟩
    | ok vs => simp [hs, Except.map] at h

theorem oversized_of_storedOfItems : ∀ {items : List Json} {err : AuditError},
    storedOfItems items = .error err →
      (∃ x ∈ items, x.Oversized) ∧ ∃ m, err = .serialization m
  | [], _, h => by simp [storedOfItems] at h
  | j :: rest, err, h => by
    simp only [storedOfItems, bind, Except.bind] at h
    cases hj : storedOfJson j with
    | error e =>
      simp only [hj, Except.error.injEq] at h
      subst h
      obtain ⟨hover, hm⟩ := oversized_of_storedOfJson hj
      exact ⟨⟨j, List.mem_cons_self .., hover⟩, hm⟩
    | ok v =>
      cases hr : storedOfItems rest with
      | error e =>
        simp only [hj, hr, Except.error.injEq] at h
        subst h
        obtain ⟨⟨x, hx, hover⟩, hm⟩ := oversized_of_storedOfItems hr
        exact ⟨⟨x, List.mem_cons_of_mem _ hx, hover⟩, hm⟩
      | ok vs => simp [hj, hr, pure, Except.pure] at h

theorem oversized_of_storedOfFields : ∀ {fields : List (String × Json)} {err : AuditError},
    storedOfFields fields = .error err →
      (∃ k x, (k, x) ∈ fields ∧ x.Oversized) ∧ ∃ m, err = .serialization m
  | [], _, h => by simp [storedOfFields] at h
  | (k, j) :: rest, err, h => by
    simp only [storedOfFields, bind, Except.bind] at h
    cases hj : storedOfJson j with
    | error e =>
      simp only [hj, Except.error.injEq] at h
      subst h
      obtain ⟨hover, hm⟩ := oversized_of_storedOfJson hj
      exact ⟨⟨k, j, List.mem_cons_self .., hover⟩, hm⟩
    | ok v =>
      cases hr : storedOfFields rest with
      | error e =>
        simp only [hj, hr, Except.error.injEq] at h
        subst h
        obtain ⟨⟨k', x, hx, hover⟩, hm⟩ := oversized_of_storedOfFields hr
        exact ⟨⟨k', x, List.mem_cons_of_mem _ hx, hover⟩, hm⟩
      | ok vs => simp [hj, hr, pure, Except.pure] at h

end

theorem storedOfJson_of_mem_storedOfItems {items : List Json} {vs : List Value}
    (h : storedOfItems items = .ok vs) : ∀ x ∈ items, ∃ v, storedOfJson x = .ok v := by
  induction items generalizing vs with
  | nil => simp
  | cons j rest ih =>
    obtain ⟨v, ws, hj, hr, -⟩ := storedOfItems_cons_eq_ok.mp h
    rintro x (_ | ⟨_, hx⟩)
    · exact ⟨v, hj⟩
    · exact ih hr x hx

theorem storedOfJson_of_mem_storedOfFields {fields : List (String × Json)} {vs : Document}
    (h : storedOfFields fields = .ok vs) :
    ∀ k x, (k, x) ∈ fields → ∃ v, storedOfJson x = .ok v := by
  induction fields generalizing vs with
  | nil => simp
  | cons kj rest ih =>
    obtain ⟨k', j⟩ := kj
    obtain ⟨v, ws, hj, hr, -⟩ := storedOfFields_cons_eq_ok.mp h
    rintro k x (_ | ⟨_, hx⟩)
    · exact ⟨v, hj⟩
    · exact ih hr k x hx

/-- A value with an oversized integer cannot be stored. -/
theorem Json.Oversized.storedOfJson_ne_ok {j : Json} (h : j.Oversized) (v : Value) :
    storedOfJson j ≠ .ok v := by
  induction h generalizing v with
  | int hn => simp [storedOfJson, hn]
  | @item items x hmem _ ih =>
    intro hs
    simp only [storedOfJson] at hs
    cases hi : storedOfItems items with
    | error e => simp [hi, Except.map] at hs
    | ok vs =>
      obtain ⟨w, hw⟩ := storedOfJson_of_mem_storedOfItems hi _ hmem
      exact ih w hw
  | @field fields k x hmem _ ih =>
    intro hs
    simp only [storedOfJson] at hs
    cases hf : storedOfFields fields with
    | error e => simp [hf, Except.map] at hs
    | ok vs =>
      obtain ⟨w, hw⟩ := storedOfJson_of_mem_storedOfFields hf _ _ hmem
      exact ih w hw

/-- The diff of an event holds, at any depth, an integer above the largest signed 64-bit
value. -/
def Event.Oversized (e : Event) : Prop := ∃ c, e.changes = some c ∧ (Json.obj c).Oversized

namespace Event

/-- Building an event's payload fails exactly when its diff is oversized, and then with a
serialization error. -/
theorem toPayload_eq_error {e : Event} {err : AuditError} (h : e.toPayload = .error err) :
    e.Oversized ∧ ∃ m, err = .serialization m := by
  unfold toPayload at h
  cases hc : e.changes with
  | none => simp [hc, bind, Except.bind, pure, Except.pure] at h
  | some c =>
    cases hs : storedOfJson (Json.sortKeys (.obj c)) with
    | error e' =>
      simp only [hc, hs, bind, Except.bind, Except.error.injEq] at h
      subst h
      obtain ⟨hover, hm⟩ := oversized_of_storedOfJson hs
      exact ⟨⟨c, hc, Json.oversized_sortKeys_iff.mp hover⟩, hm⟩
    | ok v => simp [hc, hs, bind, Except.bind, pure, Except.pure] at h

theorem toPayload_ne_ok {e : Event} (h : e.Oversized) (p : Document) : e.toPayload ≠ .ok p := by
  obtain ⟨c, hc, hover⟩ := h
  unfold toPayload
  cases hs : storedOfJson (Json.sortKeys (.obj c)) with
  | error e' => simp [hc, hs, bind, Except.bind]
  | ok v => exact absurd hs ((Json.oversized_sortKeys_iff.mpr hover).storedOfJson_ne_ok v)

/-- The first two checks of an event, read as conditions on its texts. -/
theorem validate_eq (e : Event) :
    e.validate = if isBlank e.actor then .error (.validation "actor is required")
      else if isBlank e.actorRole then .error (.validation "actor_role is required") else .ok () :=
  rfl

theorem validate_eq_ok_iff (e : Event) :
    e.validate = .ok () ↔ isBlank e.actor = false ∧ isBlank e.actorRole = false := by
  rw [validate_eq]
  cases isBlank e.actor <;> cases isBlank e.actorRole <;> simp

end Event

theorem Stored.toDocument_eq_error {id : ObjectId} {e : Event} {ts : Instant} {err : AuditError} :
    (Stored.new id e ts).toDocument = .error err ↔ e.toPayload = .error err := by
  unfold Stored.toDocument Stored.new
  cases e.toPayload <;> simp [bind, Except.bind, pure, Except.pure]

/-! ### One append -/

namespace Audit

variable {s : Session} {e : Event}

theorem append_run_of_validate (err : AuditError) (hv : e.validate = .error err) :
    (append e).run s = .error (.failed err) s := by
  simp [append, check, hv, fail, bind, EStateM.bind, throw, throwThe, MonadExceptOf.throw,
    EStateM.throw, EStateM.run]

theorem append_run_of_toDocument (hv : e.validate = .ok ()) {err : AuditError}
    (hd : (Stored.new (.minted (s.minted + 1)) e s.clock).toDocument = .error err) :
    (append e).run s = .error (.failed err) s := by
  simp [append, check, hv, hd, fail, bind, EStateM.bind, throw, throwThe, MonadExceptOf.throw,
    EStateM.throw, EStateM.run, getThe, MonadStateOf.get, MonadState.get, EStateM.get, pure,
    EStateM.pure]

theorem append_run_remote (hv : e.validate = .ok ()) {name : String} (hs : s.backend = .remote name)
    {d : Document} (hd : (Stored.new (.minted (s.minted + 1)) e s.clock).toDocument = .ok d) :
    (append e).run s = .error (.failed unreachable) s := by
  simp [append, check, hv, hd, insertDocument, hs, fail, bind, EStateM.bind, throw, throwThe,
    MonadExceptOf.throw, EStateM.throw, EStateM.run, getThe, MonadStateOf.get, MonadState.get,
    EStateM.get, pure, EStateM.pure]

/-- What one append does, decided by the first check that fails. -/
theorem append_run_cases (s : Session) (e : Event) :
    (isBlank e.actor = true ∧
      (append e).run s = .error (.failed (.validation "actor is required")) s) ∨
    (isBlank e.actor = false ∧ isBlank e.actorRole = true ∧
      (append e).run s = .error (.failed (.validation "actor_role is required")) s) ∨
    (isBlank e.actor = false ∧ isBlank e.actorRole = false ∧ e.Oversized ∧
      ∃ m, (append e).run s = .error (.failed (.serialization m)) s) ∨
    (isBlank e.actor = false ∧ isBlank e.actorRole = false ∧ ¬ e.Oversized ∧
      ∃ d, (Stored.new (.minted (s.minted + 1)) e s.clock).toDocument = .ok d ∧
        ((∃ c, s.backend = .memory c ∧ (append e).run s =
            .ok (ObjectId.minted (s.minted + 1)).toHex
              { s with backend := .memory (c.insert d), minted := s.minted + 1 }) ∨
          (∃ name, s.backend = .remote name ∧
            (append e).run s = .error (.failed unreachable) s))) := by
  by_cases ha : isBlank e.actor = true
  · exact .inl ⟨ha, append_run_of_validate _ (by simp [Event.validate_eq, ha])⟩
  by_cases hr : isBlank e.actorRole = true
  · exact .inr (.inl ⟨Bool.not_eq_true _ ▸ ha, hr,
      append_run_of_validate _ (by simp [Event.validate_eq, ha, hr])⟩)
  simp only [Bool.not_eq_true] at ha hr
  have hv : e.validate = .ok () := (Event.validate_eq_ok_iff e).mpr ⟨ha, hr⟩
  -- the checks pass; building the document decides between the last two cases
  cases hd : (Stored.new (.minted (s.minted + 1)) e s.clock).toDocument with
  | error err =>
    obtain ⟨hover, m, rfl⟩ := Event.toPayload_eq_error (Stored.toDocument_eq_error.mp hd)
    exact .inr (.inr (.inl ⟨ha, hr, hover, m, append_run_of_toDocument hv hd⟩))
  | ok d =>
    have hfit : ¬ e.Oversized := fun hover => by
      obtain ⟨p, hp, -⟩ := Stored.toDocument_new_eq_ok.mp hd
      exact Event.toPayload_ne_ok hover p hp
    refine .inr (.inr (.inr ⟨ha, hr, hfit, d, rfl, ?_⟩))
    cases hs : s.backend with
    | memory c => exact .inl ⟨c, rfl, append_run hs hv hd⟩
    | remote name => exact .inr ⟨name, rfl, append_run_remote hv hs hd⟩

end Audit

/-- Appending an event checks that the actor, then the actor's role, is not blank once
`White_Space` is trimmed, then that its diff holds no integer above the largest signed 64-bit
value; the first check that fails is the error, and no failure changes the session. When all
pass, the event's document for the next minted id is built; a database error arises only when
the store, being remote, cannot take it, and the in-memory store appends it to its documents
and answers with the id's text, an id that no stored document carries yet. -/
theorem append_checks_in_order (s : Session) (e : Event) :
    ((Audit.append e).run s = .error (.failed (.validation "actor is required")) s ↔
      trimBlank e.actor = "") ∧
    ((Audit.append e).run s = .error (.failed (.validation "actor_role is required")) s ↔
      trimBlank e.actor ≠ "" ∧ trimBlank e.actorRole = "") ∧
    ((∃ m, (Audit.append e).run s = .error (.failed (.serialization m)) s) ↔
      trimBlank e.actor ≠ "" ∧ trimBlank e.actorRole ≠ "" ∧ e.Oversized) ∧
    ((∃ m s', (Audit.append e).run s = .error (.failed (.database m)) s') ↔
      trimBlank e.actor ≠ "" ∧ trimBlank e.actorRole ≠ "" ∧ ¬ e.Oversized ∧
        ∃ name, s.backend = .remote name) ∧
    (∀ f s', (Audit.append e).run s = .error f s' → s' = s) ∧
    (trimBlank e.actor ≠ "" → trimBlank e.actorRole ≠ "" → ¬ e.Oversized →
      ∃ d, (Stored.new (.minted (s.minted + 1)) e s.clock).toDocument = .ok d ∧
        ∀ c, s.backend = .memory c →
          (Audit.append e).run s = .ok (ObjectId.minted (s.minted + 1)).toHex
            { s with backend := .memory ⟨c.documents ++ [d]⟩, minted := s.minted + 1 } ∧
          (s.Fresh →
            ∀ d' ∈ c.documents, d'.objectId? ≠ some (.minted (s.minted + 1)))) := by
  simp only [trimBlank_eq_empty_iff, ne_eq, Bool.not_eq_true]
  rcases Audit.append_run_cases s e with ⟨ha, hrun⟩ | ⟨ha, hr, hrun⟩ |
    ⟨ha, hr, hover, m, hrun⟩ | ⟨ha, hr, hfit, d, hd, ⟨c, hs, hrun⟩ | ⟨name, hs, hrun⟩⟩
  · -- the actor is blank
    simp [hrun, ha]
  · -- the actor's role is blank
    simp [hrun, ha, hr]
  · -- the diff cannot be stored
    simp [hrun, ha, hr, hover]
  · -- the document is appended to the in-memory store
    refine ⟨?_, ?_, ?_, ?_, ?_, fun _ _ _ => ⟨d, hd, fun c' hc' => ?_⟩⟩
    rotate_right
    · rw [hs, Backend.memory.injEq] at hc'
      subst hc'
      exact ⟨hrun, fun hf => hf.next_new hs⟩
    all_goals simp [hrun, ha, hr, hfit, hs]
  · -- the remote store cannot take the document
    refine ⟨?_, ?_, ?_, ?_, ?_, fun _ _ _ => ⟨d, hd, fun c hc => by simp [hs] at hc⟩⟩ <;>
      simp [hrun, ha, hr, hfit, hs, Audit.unreachable]

/-- A login by "alice" as a user. -/
def aliceLogin : Event := Event.new .userLogin "alice" "user"

theorem aliceLogin_appends :
    trimBlank aliceLogin.actor ≠ "" ∧ trimBlank aliceLogin.actorRole ≠ "" ∧
      ¬ aliceLogin.Oversized ∧
      ∃ d, (Stored.new (.minted 1) aliceLogin Instant.epoch).toDocument = .ok d ∧
        (Audit.append aliceLogin).run {} =
          .ok "@1" { backend := .memory ⟨[d]⟩, minted := 1 } := by
  have ha : trimBlank aliceLogin.actor ≠ "" := by decide
  have hr : trimBlank aliceLogin.actorRole ≠ "" := by decide
  have hfit : ¬ aliceLogin.Oversized := fun ⟨_, hc, _⟩ => by simp [aliceLogin, Event.new] at hc
  obtain ⟨d, hd, hrun⟩ := (append_checks_in_order {} aliceLogin).2.2.2.2.2 ha hr hfit
  exact ⟨ha, hr, hfit, d, hd, (hrun {} rfl).1⟩

end AuditTrail
