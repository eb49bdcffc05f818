import AuditTrail.Proofs.Activity
import AuditTrail.Proofs.Paging
import AuditTrail.Store.Activity

/-!
# The dashboard's counts

The dashboard counts the created, updated and deleted events of the last `w` days. The window is
checked against the settings first, from the settings alone: 0 days, or more than the largest
window, is refused before the clock or the store is read (`Audit.activityCounts_run_invalid`).
Otherwise the window starts `w` days before the clock reading, and each bucket is counted by one
filter over the four wrappers (`Audit.activityCounts_run`).

On a document filed by appending, that filter asks exactly what the dashboard promises: that the
event was filed at or after the window start, in whole milliseconds, and that its action counts
towards the bucket (`bucketFilter_accepts_filed`). So after any history of appends to an empty
in-memory store, each count is the number of accepted events of the bucket in the window, taken
from the history itself (`countsFrom`). An action counts towards at most one bucket, so the three
counts together count each event of the window at most once, and a longer window starts no
later, so no count decreases as the window grows.

## Main definitions

* `windowCount`, `bucketCount`, `countsFrom` — what the dashboard counts, read off a history

## Main results

* `Audit.activityCounts_run_invalid`, `Audit.activityCounts_run`
* `bucketFilter_accepts_filed`, `count_bucketFilter_filed`
* `bucketCounts_le_windowCount`, `bucketCount_mono`
* `activityCounts_of_appends`
-/

namespace AuditTrail

/-! ### What the dashboard counts, on its own terms -/

/-- The events of a history that appending files at a clock reading at or after `start`, in
whole milliseconds. -/
def windowCount (h : List (Event × Instant)) (start : Instant) : Nat :=
  (h.filter fun et => et.1.appendable && decide (start.toMillis ≤ et.2.toMillis)).length

/-- The events of a history that appending files at or after `start`, in whole milliseconds,
with an action of bucket `b`. -/
def bucketCount (h : List (Event × Instant)) (b : Bucket) (start : Instant) : Nat :=
  (h.filter fun et => et.1.appendable &&
    (decide (start.toMillis ≤ et.2.toMillis) && et.1.action.bucket == some b)).length

/-- The counts of a window of `days` days that starts at `start`. -/
def countsFrom (h : List (Event × Instant)) (start : Instant) (days : Nat) : ActivityCounts :=
  ⟨bucketCount h .created start, bucketCount h .updated start, bucketCount h .deleted start, days⟩

/-- An action counts towards at most one bucket, so the three counts of a window together count
each event of the window at most once. -/
theorem bucketCounts_le_windowCount (h : List (Event × Instant)) (start : Instant) :
    bucketCount h .created start + bucketCount h .updated start + bucketCount h .deleted start ≤
      windowCount h start := by
  induction h with
  | nil => simp [bucketCount, windowCount]
  | cons et rest ih =>
    simp only [bucketCount, windowCount, List.filter_cons] at ih ⊢
    cases et.1.appendable <;> cases decide (start.toMillis ≤ et.2.toMillis) <;>
      rcases et.1.action.bucket with _ | ⟨_ | _ | _⟩ <;> simp <;> omega

/-- A window that starts no later counts no fewer events of a bucket. -/
theorem bucketCount_mono (h : List (Event × Instant)) (b : Bucket) {start start' : Instant}
    (hle : start'.toMillis ≤ start.toMillis) : bucketCount h b start ≤ bucketCount h b start' := by
  refine (List.monotone_filter_right h fun et het => ?_).length_le
  simp only [Bool.and_eq_true, decide_eq_true_eq] at het ⊢
  exact ⟨het.1, le_trans hle het.2.1, het.2.2⟩

/-! ### The aggregator's run -/

namespace Audit

theorem now_bind_run {α : Type} (f : Instant → Audit α) (s : Session) :
    (now >>= f).run s = (f s.clock).run s := rfl

theorem log_bind_run {α : Type} (r : LogRecord) (f : Unit → Audit α) (s : Session) :
    (log r >>= f).run s = (f ()).run { s with journal := s.journal ++ [r] } := rfl

theorem countDocuments_bind_run {α : Type} {s : Session} {c : Collection}
    (hs : s.backend = .memory c) (F : Filter) (f : Nat → Audit α) :
    (countDocuments F >>= f).run s = (f (c.count F)).run s := by
  simp only [countDocuments, hs, bind, EStateM.bind, EStateM.run, getThe, MonadStateOf.get,
    MonadState.get, EStateM.get, pure, EStateM.pure]

/-- A window of 0 days, or of more than the largest, is refused from the settings alone: neither
the clock nor the store is read, and the session is left as it was. -/
theorem activityCounts_run_invalid (s : Session) {w : Nat}
    (hw : w = 0 ∨ w > s.config.maxActivityWindowDays) :
    (activityCounts (some w)).run s = .error (.failed (.validation
      ("window_days must be between 1 and " ++ toString s.config.maxActivityWindowDays))) s := by
  rw [activityCounts, config_bind_run]
  dsimp only
  rw [Option.getD_some, if_pos hw]
  rfl

/-- A window the settings allow, whose start is representable, is counted bucket by bucket in the
in-memory store, after one debug record. -/
theorem activityCounts_run {s : Session} {c : Collection} (hs : s.backend = .memory c) {w : Nat}
    (hw0 : 0 < w) (hw : w ≤ s.config.maxActivityWindowDays) {start : Instant}
    (hstart : s.clock.addNanos? (-((w : Int) * nanosPerDay)) = some start) :
    (activityCounts (some w)).run s =
      .ok ⟨c.count (bucketFilter .created start), c.count (bucketFilter .updated start),
        c.count (bucketFilter .deleted start), w⟩
      { s with journal := s.journal ++ [⟨.debug, "wh_audit::activity", "Counting audit activity",
          [("window_days", .count w), ("window_start", .text start.display)]⟩] } := by
  have hvalid : ¬(w = 0 ∨ w > s.config.maxActivityWindowDays) := by omega
  rw [activityCounts, config_bind_run]
  dsimp only
  rw [Option.getD_some, if_neg hvalid, now_bind_run, hstart]
  dsimp only
  rw [log_bind_run]
  -- the debug record leaves the store as it was
  have hs' : ({ s with journal := s.journal ++ [⟨.debug, "wh_audit::activity",
      "Counting audit activity", [("window_days", .count w), ("window_start", .text start.display)]⟩] } :
      Session).backend = .memory c := hs
  rw [countDocuments_bind_run hs', countDocuments_bind_run hs', countDocuments_bind_run hs']
  rfl

end Audit

/-! ### The bucket test on a filed event -/

@[simp] theorem Filter.accepts_isIn (d : Document) (path : String) (vs : List Value) :
    (Filter.isIn path vs).accepts d = (d.lookupPath path).any fun w => vs.any (·.same w) := by
  simp [Filter.accepts]

/-- A membership test against strings is a test on the text found. -/
theorem Value.str_same (s : String) (w : Value) :
    (Value.str s).same w = match w with
      | .str x => s == x
      | _ => false := by
  cases w <;> rfl

theorem isInTest_strs (xs : List String) (found : Option Value) :
    found.any (fun w => (xs.map Value.str).any (·.same w)) =
      Filter.textTest (fun x => xs.any (· == x)) found := by
  rcases found with _ | ⟨_ | _ | _ | _ | _ | s | _ | _ | _ | _⟩
  all_goals simp [Filter.textTest, List.any_map, Function.comp_def, Value.str_same]

/-- An action's name is among the names of a bucket's actions exactly when the action counts
towards that bucket. -/
theorem Bucket.any_actions_name (b : Bucket) (a : Action) :
    ((b.actions.map Action.name).any (· == a.name)) = (a.bucket == some b) := by
  have hall : a ∈ Action.all := by cases a <;> decide
  refine Bool.eq_iff_iff.mpr ?_
  simp only [List.any_eq_true, List.mem_map, beq_iff_eq, Bucket.actions, List.mem_filter]
  constructor
  · rintro ⟨_, ⟨x, ⟨-, hb⟩, rfl⟩, hname⟩
    rwa [← Action.name_inj.mp hname]
  · intro hb
    exact ⟨a.name, ⟨a, ⟨hall, hb⟩, rfl⟩, rfl⟩

/-- The test of a bucket holds of a filed event's document exactly when the event was filed at or
after the window start, in whole milliseconds, and its action counts towards the bucket. -/
theorem bucketFilter_accepts_filed {id : ObjectId} {e : Event} {ts : Instant} {d : Document}
    (hd : (Stored.new id e ts).toDocument = .ok d) (b : Bucket) (start : Instant) :
    (bucketFilter b start).accepts d =
      (decide (start.toMillis ≤ ts.toMillis) && e.action.bucket == some b) := by
  obtain ⟨p, hp, rfl⟩ := Stored.toDocument_new_eq_ok.mp hd
  have hfiled := filedUnder_layout id e.category (p ++ [("timestamp", ts.toValue)])
  -- under every wrapper but the event's own, both fields are missing
  have hc : ∀ c, (Filter.allOf [.range (c.path .timestamp) (some start.toValue) none,
      .isIn (c.path .action) (b.actions.map fun a => .str a.name)]).accepts
        [("_id", .oid id), (e.category.key, .doc (p ++ [("timestamp", ts.toValue)])),
          ("type", .str e.category.key)] =
      (decide (c = e.category) && (decide (start.toMillis ≤ ts.toMillis) &&
        e.action.bucket == some b)) := by
    intro c
    have hnames : (b.actions.map fun a => Value.str a.name) = (b.actions.map Action.name).map .str := by
      simp [Function.comp_def]
    have hrange : Filter.rangeTest (some start.toValue) none (some ts.toValue) =
        decide (start.toMillis ≤ ts.toMillis) := by
      simpa using rangeTest_stamp ts (some start) none
    by_cases hce : c = e.category
    · subst hce
      simp only [Filter.accepts_allOf, List.all_cons, List.all_nil, Bool.and_true,
        Filter.accepts_range, Filter.accepts_isIn, hfiled.lookupPath_path, if_true,
        lookupPath_stamped_timestamp hp, hrange, hnames, isInTest_strs, textTest_filed hp ts,
        Event.text, Option.any_some, Bucket.any_actions_name, decide_true, Bool.true_and]
    · simp [hfiled.lookupPath_path, hce]
  rw [bucketFilter, Filter.accepts_anyWrapper_eq]
  simp only [hc]
  cases (decide (start.toMillis ≤ ts.toMillis) && e.action.bucket == some b) <;>
    simp [Category.mem_all]

/-! ### Counting a history of appends -/

/-- The entries of a history that pass a test of the event and its clock reading are the
accepted events that pass it. -/
theorem length_filter_appendedEntries (start : Nat) (h : List (Event × Instant))
    (test : Event × Instant → Bool) :
    ((appendedEntries start h).filter fun x => test x.1).length =
      (h.filter fun et => et.1.appendable && test et).length := by
  -- the serials ride along and no test reads them
  calc ((appendedEntries start h).filter fun x => test x.1).length
      = (((appendedEntries start h).filter (test ∘ Prod.fst)).map Prod.fst).length :=
        (List.length_map _).symm
    _ = (List.filter test (((h.filter fun et => et.1.appendable).zipIdx (start + 1)).map
          Prod.fst)).length := by rw [List.filter_map, appendedEntries]
    _ = ((h.filter fun et => et.1.appendable).filter test).length := by rw [List.zipIdx_map_fst]
    _ = (h.filter fun et => et.1.appendable && test et).length := by
        rw [List.filter_filter]
        exact congrArg List.length (List.filter_congr fun et _ => Bool.and_comm _ _)

theorem appendable_of_mem_appendedEntries {start : Nat} {h : List (Event × Instant)}
    {x : (Event × Instant) × Nat} (hx : x ∈ appendedEntries start h) : x.1.1.appendable = true :=
  (List.mem_filter.mp (List.fst_mem_of_mem_zipIdx hx)).2

/-- A bucket's test holds of as many documents filed for a history as the bucket counts. -/
theorem count_bucketFilter_filed (serial : Nat) (h : List (Event × Instant)) (b : Bucket)
    (start : Instant) :
    (Collection.mk (filedDocuments (appendedEntries serial h))).count (bucketFilter b start) =
      bucketCount h b start := by
  have hF : ∀ x ∈ appendedEntries serial h, ∀ d, (Stored.new (.minted x.2) x.1.1 x.1.2).toDocument = .ok d →
      (bucketFilter b start).accepts d =
        (decide (start.toMillis ≤ x.1.2.toMillis) && x.1.1.action.bucket == some b) :=
    fun x _ d hd => bucketFilter_accepts_filed hd b start
  rw [Collection.count, count_filedDocuments_of (fun x hx => appendable_of_mem_appendedEntries hx) hF]
  exact length_filter_appendedEntries serial h
    (fun et => decide (start.toMillis ≤ et.2.toMillis) && et.1.action.bucket == some b)

/-- Moving back by more days starts the window no later. -/
theorem toMillis_le_of_addNanos? {now start start' : Instant} {w w' : Nat} (hw : w ≤ w')
    (hstart : now.addNanos? (-((w : Int) * nanosPerDay)) = some start)
    (hstart' : now.addNanos? (-((w' : Int) * nanosPerDay)) = some start') :
    start'.toMillis ≤ start.toMillis := by
  have hnanos : ∀ {d : Int} {u : Instant}, now.addNanos? d = some u → u.nanos = now.nanos + d := by
    intro d u hu
    unfold Instant.addNanos? Instant.ofNanos? at hu
    split at hu
    · cases hu
      rfl
    · cases hu
  have hday : (w : Int) * nanosPerDay ≤ (w' : Int) * nanosPerDay :=
    Int.mul_le_mul_of_nonneg_right (by exact_mod_cast hw) (by decide)
  apply Int.ediv_le_ediv (by decide)
  rw [hnanos hstart, hnanos hstart']
  omega

/-- After a history of appends to an empty in-memory store, the dashboard counts each bucket over
a window of `w` days before the clock reading: a window of 0 days, or of more than the largest,
is refused from the settings alone, before the clock or the store is read. Any other window whose
start is representable counts, for each bucket, the accepted events of the history whose action
counts towards the bucket and whose clock reading, in whole milliseconds, is at or after the
window start. The three counts together count no event of the window twice, and none of them
decreases as the window grows. -/
theorem activityCounts_of_appends :
    (∀ (s : Session) (w : Nat), w = 0 ∨ w > s.config.maxActivityWindowDays →
      (Audit.activityCounts (some w)).run s = .error (.failed (.validation
        ("window_days must be between 1 and " ++ toString s.config.maxActivityWindowDays))) s) ∧
    ∀ (s : Session) (h : List (Event × Instant)) (now : Instant), s.backend = .memory {} →
      let s' : Session := { s.afterAppends h with clock := now }
      (∀ (w : Nat) (start : Instant), 0 < w → w ≤ s.config.maxActivityWindowDays →
        now.addNanos? (-((w : Int) * nanosPerDay)) = some start →
        ∃ r, (Audit.activityCounts (some w)).run s' =
          .ok (countsFrom h start w) { s' with journal := s'.journal ++ [r] }) ∧
      (∀ (start : Instant) (w : Nat), (countsFrom h start w).created + (countsFrom h start w).updated +
        (countsFrom h start w).deleted ≤ windowCount h start) ∧
      (∀ (w w' : Nat) (start start' : Instant), w ≤ w' → now.addNanos? (-((w : Int) * nanosPerDay)) = some start →
        now.addNanos? (-((w' : Int) * nanosPerDay)) = some start' →
        (countsFrom h start w).created ≤ (countsFrom h start' w').created ∧
        (countsFrom h start w).updated ≤ (countsFrom h start' w').updated ∧
        (countsFrom h start w).deleted ≤ (countsFrom h start' w').deleted) := by
  refine ⟨fun s w hw => Audit.activityCounts_run_invalid s hw, fun s h now hs => ?_⟩
  intro s'
  have hs' : s'.backend = .memory ⟨filedDocuments (appendedEntries s.minted h)⟩ := by
    simp [s', Session.afterAppends_eq h s {} hs]
  have hconfig : s'.config = s.config := by
    simp [s', Session.afterAppends_eq h s {} hs]
  refine ⟨fun w start hw0 hw hstart => ⟨⟨.debug, "wh_audit::activity", "Counting audit activity",
      [("window_days", .count w), ("window_start", .text start.display)]⟩, ?_⟩, fun start w => bucketCounts_le_windowCount h start,
    fun w w' start start' hle hstart hstart' => ?_⟩
  · rw [Audit.activityCounts_run hs' hw0 (hconfig ▸ hw) hstart]
    simp only [count_bucketFilter_filed]
    rfl
  · have hms := toMillis_le_of_addNanos? hle hstart hstart'
    exact ⟨bucketCount_mono h _ hms, bucketCount_mono h _ hms, bucketCount_mono h _ hms⟩

/-- The first instant of the last day of 1969. -/
def lastDayOf1969 : Instant := ⟨-nanosPerDay, by decide, by decide⟩

/-- An item created by "alice" at the epoch. -/
def epochCreate : List (Event × Instant) := [(Event.new .itemCreate "alice" "admin", Instant.epoch)]

/-- The session after the creation, its clock at the epoch. -/
def afterEpochCreate : Session := { Session.afterAppends {} epochCreate with clock := Instant.epoch }

/-- After the creation, a window of 0 days is refused, and the one-day window before the epoch
counts the creation once. -/
theorem epochCreate_counts :
    (0 = 0 ∨ 0 > ({} : Session).config.maxActivityWindowDays) ∧
    (Audit.activityCounts (some 0)).run {} = .error (.failed (.validation
      ("window_days must be between 1 and " ++ toString ({} : Session).config.maxActivityWindowDays))) {} ∧
    ({} : Session).backend = .memory {} ∧ 0 < 1 ∧ 1 ≤ ({} : Session).config.maxActivityWindowDays ∧
    Instant.epoch.addNanos? (-((1 : Nat) * nanosPerDay)) = some lastDayOf1969 ∧
    (∃ r, (Audit.activityCounts (some 1)).run afterEpochCreate =
      .ok (countsFrom epochCreate lastDayOf1969 1)
        { afterEpochCreate with journal := afterEpochCreate.journal ++ [r] }) ∧
    (countsFrom epochCreate lastDayOf1969 1).created = 1 ∧
    (countsFrom epochCreate lastDayOf1969 1).updated = 0 := by
  obtain ⟨hinvalid, hcounts⟩ := activityCounts_of_appends
  have hstart : Instant.epoch.addNanos? (-((1 : Nat) * nanosPerDay)) = some lastDayOf1969 := by decide
  have hmax : 1 ≤ ({} : Session).config.maxActivityWindowDays := by decide
  exact ⟨.inl rfl, hinvalid {} 0 (.inl rfl), rfl, Nat.one_pos, hmax, hstart,
    (hcounts {} epochCreate Instant.epoch rfl).1 1 lastDayOf1969 Nat.one_pos hmax hstart,
    by decide, by decide⟩

end AuditTrail
