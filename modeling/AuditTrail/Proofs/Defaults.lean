import AuditTrail.Config.Loader
import AuditTrail.Proofs.Dashboard
import AuditTrail.Proofs.Paging

/-!
# The configured defaults pass the services' own checks

The page size and the activity window are bounded twice: once when the configuration is
validated, and again at every request, by the listing and by the activity counts, against the
settings the session holds. The two sets of checks agree. A configuration validates exactly when
its collection is named and a request that leaves the page size and the window to their defaults
is not refused. The check that the largest page holds at least one event adds nothing: a default
page size of at least one is above a largest page of 0.

A configuration that loads has been validated, whatever file and environment it was read from.
So under it a listing that leaves the page size to its default is refused only for page 0, an
activity listing also for a blank principal, and the activity counts over the default window
never.

Refusing is failing with a validation error. Reads of the store make no check of their own: they
succeed, or fail on the unreachable store with a database error, or on the clock with an
overflow (`Audit.NeverRefuses`), so a request is refused exactly by the checks it makes first.

## Main definitions

* `Audit.Refuses` — an operation fails on a session with a validation error
* `Audit.NeverRefuses` — an operation that refuses on no session

## Main results

* `Audit.refuses_bind` — a check followed by work that never refuses refuses as the check does
* `Audit.refuses_paging_iff`, `Audit.refuses_activityCounts_iff` — the requests' own bounds
* `AuditConfig.validate_eq_ok_iff` — the configuration's bounds
* `validate_of_loadConfig` — a loaded configuration is valid
* `configured_defaults_pass_checks`
-/

namespace AuditTrail

namespace Audit

/-- An operation refuses on a session when it fails there with a validation error. -/
def Refuses {α : Type} (x : Audit α) (s : Session) : Prop :=
  ∃ m s', x.run s = .error (.failed (.validation m)) s'

/-- An operation that makes no check of its own: it refuses on no session. -/
def NeverRefuses {α : Type} (x : Audit α) : Prop := ∀ s, ¬x.Refuses s

theorem run_bind {α β : Type} (x : Audit α) (f : α → Audit β) (s : Session) :
    (x >>= f).run s = match x.run s with
      | .ok a s' => (f a).run s'
      | .error e s' => .error e s' := by
  change EStateM.bind x f s = _
  unfold EStateM.bind EStateM.run
  cases x s <;> rfl

/-- Work that never refuses, after a first step, leaves the refusals to the first step. -/
theorem refuses_bind {α β : Type} {x : Audit α} {f : α → Audit β} (hf : ∀ a, NeverRefuses (f a))
    (s : Session) : (x >>= f).Refuses s ↔ x.Refuses s := by
  unfold Refuses
  rw [run_bind]
  cases hx : x.run s with
  | ok a s'' =>
    simp only
    constructor
    · intro h
      exact absurd h (hf a s'')
    · rintro ⟨m, s', h⟩
      cases h
  | error e s'' => simp

namespace NeverRefuses

theorem bind {α β : Type} {x : Audit α} {f : α → Audit β} (hx : NeverRefuses x)
    (hf : ∀ a, NeverRefuses (f a)) : NeverRefuses (x >>= f) := fun s => by
  rw [refuses_bind hf]
  exact hx s

theorem of_ok {α : Type} {x : Audit α} (h : ∀ s, ∃ a s', x.run s = .ok a s') : NeverRefuses x := by
  rintro s ⟨m, s', hs⟩
  obtain ⟨a, s'', hok⟩ := h s
  rw [hok] at hs
  cases hs

theorem pure {α : Type} (a : α) : NeverRefuses (pure a : Audit α) := of_ok fun s => ⟨a, s, rfl⟩

theorem get : NeverRefuses (MonadState.get : Audit Session) := of_ok fun s => ⟨s, s, rfl⟩

theorem log (r : LogRecord) : NeverRefuses (log r) := of_ok fun _ => ⟨(), _, rfl⟩

theorem now : NeverRefuses now := of_ok fun s => ⟨s.clock, s, rfl⟩

theorem throw {α : Type} {e : Fault} (he : ∀ m, e ≠ .failed (.validation m)) :
    NeverRefuses (throw e : Audit α) := by
  rintro s ⟨m, s', hs⟩
  cases hs
  exact he m rfl

end NeverRefuses

/-! ### Reads make no check -/

theorem neverRefuses_unreachable {α : Type} : NeverRefuses (fail unreachable : Audit α) :=
  NeverRefuses.throw fun _ h => by cases h

theorem neverRefuses_findDocuments (F : Filter) (skip limit : Nat) :
    NeverRefuses (findDocuments F skip limit) := by
  unfold findDocuments
  refine NeverRefuses.get.bind fun st => ?_
  split
  · exact .pure _
  · exact (NeverRefuses.log _).bind fun _ => neverRefuses_unreachable

theorem neverRefuses_countDocuments (F : Filter) : NeverRefuses (countDocuments F) := by
  unfold countDocuments
  refine NeverRefuses.get.bind fun st => ?_
  split
  · exact .pure _
  · exact neverRefuses_unreachable

theorem neverRefuses_findPage (F : Filter) (skip limit : Nat) :
    NeverRefuses (findPage F skip limit) :=
  (neverRefuses_findDocuments F skip limit).bind fun _ =>
    (neverRefuses_countDocuments F).bind fun _ => .pure _

/-! ### The requests' own checks -/

theorem refuses_paging_iff (page pageSize : Option Nat) (s : Session) :
    (paging page pageSize).Refuses s ↔ page.getD 1 = 0 ∨
      pageSize.getD s.config.defaultPageSize = 0 ∨
      pageSize.getD s.config.defaultPageSize > s.config.maxPageSize := by
  unfold Refuses
  rw [paging_run]
  split_ifs <;> simp_all

/-- A paged read refuses as its page request does. -/
theorem refuses_paged {read : Nat → Nat → Audit (List Record × Nat)}
    (hread : ∀ skip limit, NeverRefuses (read skip limit)) (page pageSize : Option Nat)
    (s : Session) : (paged read page pageSize).Refuses s ↔ (paging page pageSize).Refuses s :=
  refuses_bind (fun ⟨_, _⟩ => (hread _ _).bind fun ⟨_, _⟩ => .pure _) s

theorem refuses_list (q : Query) (page pageSize : Option Nat) (s : Session) :
    (list q page pageSize).Refuses s ↔ (paging page pageSize).Refuses s := by
  rw [list_eq_paged]
  exact refuses_paged (neverRefuses_findPage q.toFilter) page pageSize s

theorem refuses_activity (principal : String) (page pageSize : Option Nat) (s : Session) :
    (activity principal page pageSize).Refuses s ↔
      isBlank principal = true ∨ (paging page pageSize).Refuses s := by
  rw [← @refuses_paged (activityFor principal) (fun _ _ => neverRefuses_findPage _ _ _) page
    pageSize s]
  unfold Refuses
  rw [activity_run]
  split_ifs with hb <;> simp [hb]

/-- The activity counts refuse a window of 0 days or of more than the largest, the default
window when none is given; the clock and the store refuse nothing. -/
theorem refuses_activityCounts_iff (days : Option Nat) (s : Session) :
    (activityCounts days).Refuses s ↔
      days.getD s.config.defaultActivityWindowDays = 0 ∨
        days.getD s.config.defaultActivityWindowDays > s.config.maxActivityWindowDays := by
  unfold Refuses
  rw [activityCounts, config_bind_run]
  dsimp only
  split_ifs with hw
  · exact iff_of_true ⟨_, _, rfl⟩ hw
  · refine iff_of_false ?_ hw
    refine NeverRefuses.now.bind (fun t => ?_) s
    split
    · exact (NeverRefuses.log _).bind fun _ => (neverRefuses_countDocuments _).bind fun _ =>
        (neverRefuses_countDocuments _).bind fun _ =>
          (neverRefuses_countDocuments _).bind fun _ => .pure _
    · exact NeverRefuses.throw fun _ h => by cases h

/-- With the default page size within its bounds, a page request is refused only for page 0. -/
theorem refuses_paging_default {s : Session} (hpos : 0 < s.config.defaultPageSize)
    (hle : s.config.defaultPageSize ≤ s.config.maxPageSize) (page : Option Nat) :
    (paging page none).Refuses s ↔ page = some 0 := by
  rw [refuses_paging_iff]
  cases page <;> simp <;> omega

end Audit

/-! ### The configuration's checks -/

/-- A configuration validates when its collection is named and both defaults lie between 1 and
their largest value; a largest page of 0 is then excluded by the default page size. -/
theorem AuditConfig.validate_eq_ok_iff (c : AuditConfig) :
    c.validate = .ok () ↔ isBlank c.collection = false ∧ 0 < c.defaultPageSize ∧
      c.defaultPageSize ≤ c.maxPageSize ∧ 0 < c.defaultActivityWindowDays ∧
      c.defaultActivityWindowDays ≤ c.maxActivityWindowDays := by
  unfold AuditConfig.validate
  split_ifs <;> simp_all <;> omega

theorem AppConfig.audit_validate {c : AppConfig} (h : c.validate = .ok ()) :
    c.audit.validate = .ok () := by
  unfold AppConfig.validate at h
  split_ifs at h
  exact h

/-- A configuration that is returned after its validation is valid. -/
theorem validated_eq_ok {x : Except ConfigError AppConfig} {app : AppConfig}
    (h : (do let c ← x; c.validate; return c) = .ok app) : app.validate = .ok () := by
  cases x with
  | error e => cases h
  | ok c =>
    cases hv : c.validate with
    | error e =>
      simp only [bind, Except.bind, hv] at h
      cases h
    | ok u =>
      simp only [bind, Except.bind, hv, pure, Except.pure] at h
      cases h
      exact hv

/-- A configuration that loads is valid, whatever file and environment it was read from. -/
theorem validate_of_loadConfig {probe : String → PathKind} {named : Option String}
    {lookup : String → Option String} {app : AppConfig}
    (h : (loadConfig probe named lookup).2 = .ok app) : app.validate = .ok () := by
  unfold loadConfig at h
  split at h
  · -- the file is read first; a file that does not read fails the load
    rename_i path _
    dsimp only at h
    cases hr : readConfigFile probe path with
    | error e =>
      rw [hr] at h
      cases h
    | ok c =>
      rw [hr] at h
      exact validated_eq_ok h
  · exact validated_eq_ok h

/-- The configuration's checks are the requests' checks at the defaults. A configuration
validates exactly when its collection is named and, on every session that holds it, neither a
page request that leaves both values to their defaults nor the activity counts over the default
window is refused. Hence under a configuration that loads, from any file and environment, a
listing that leaves the page size to its default is refused only for page 0, an activity
listing only for a blank principal or page 0, and the activity counts over the default window
never. -/
theorem configured_defaults_pass_checks :
    (∀ c : AuditConfig, c.validate = .ok () ↔ isBlank c.collection = false ∧
      ∀ s : Session, s.config = c →
        ¬(Audit.paging none none).Refuses s ∧ ¬(Audit.activityCounts none).Refuses s) ∧
    ∀ (probe : String → PathKind) (named : Option String) (lookup : String → Option String)
      (app : AppConfig), (loadConfig probe named lookup).2 = .ok app →
      ∀ s : Session, s.config = app.audit →
        (∀ q page, (Audit.list q page none).Refuses s ↔ page = some 0) ∧
        (∀ p page, (Audit.activity p page none).Refuses s ↔ isBlank p = true ∨ page = some 0) ∧
        ¬(Audit.activityCounts none).Refuses s := by
  refine ⟨fun c => ?_, fun probe named lookup app hload s hs => ?_⟩
  · rw [AuditConfig.validate_eq_ok_iff]
    constructor
    · rintro ⟨hblank, hp, hpm, hw, hwm⟩
      refine ⟨hblank, fun s hs => ?_⟩
      simp only [Audit.refuses_paging_iff, Audit.refuses_activityCounts_iff, hs, Option.getD_none]
      exact ⟨by omega, by omega⟩
    · -- the session that holds nothing but the configuration shows both defaults in bounds
      rintro ⟨hblank, h⟩
      obtain ⟨hpage, hwindow⟩ := h { config := c } rfl
      simp only [Audit.refuses_paging_iff, Audit.refuses_activityCounts_iff, Option.getD_none]
        at hpage hwindow
      exact ⟨hblank, by omega, by omega, by omega, by omega⟩
  · obtain ⟨-, hp, hpm, hw, hwm⟩ := (AuditConfig.validate_eq_ok_iff _).mp
      (AppConfig.audit_validate (validate_of_loadConfig hload))
    rw [← hs] at hp hpm hw hwm
    refine ⟨fun q page => ?_, fun p page => ?_, ?_⟩
    · rw [Audit.refuses_list, Audit.refuses_paging_default hp hpm]
    · rw [Audit.refuses_activity, Audit.refuses_paging_default hp hpm]
    · rw [Audit.refuses_activityCounts_iff, Option.getD_none]
      omega

/-- With no file and no environment, the defaults load, and the first page of the unfiltered
listing at the default size is served. -/
theorem defaultSettings_serve_first_page :
    (loadConfig (fun _ => .missing) none (fun _ => none)).2 = .ok {} ∧
      ¬(Audit.list {} none none).Refuses { config := ({} : AppConfig).audit } := by
  have hload : (loadConfig (fun _ => .missing) none (fun _ => none)).2 = .ok {} := rfl
  refine ⟨hload, ?_⟩
  rw [(configured_defaults_pass_checks.2 _ _ _ _ hload _ rfl).1]
  simp

end AuditTrail
