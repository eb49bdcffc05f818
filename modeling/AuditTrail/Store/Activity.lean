import AuditTrail.Store.Session

/-!
# Activity in a window

A dashboard counts the created, updated and deleted events of the last days. The window starts
the given number of days before the clock reading and is open at the end; the number of days
defaults to the configured one and lies between 1 and the configured largest.

A document counts toward a bucket when one of its wrappers holds a time at or after the window
start and an action of the bucket. The test is one disjunction over the four wrappers, so each
document counts at most once per bucket. Only stored times compare with the window start.

## Main definitions

* `ActivityCounts`
* `bucketFilter` — the test of a bucket
* `Audit.activityCounts`
-/

namespace AuditTrail

/-- Events per bucket in a window of days. -/
structure ActivityCounts where
  created : Nat
  updated : Nat
  deleted : Nat
  windowDays : Nat

/-- Documents with a wrapper that is timed at or after `start` and holds an action of `b`. -/
def bucketFilter (b : Bucket) (start : Instant) : Filter :=
  anyWrapper Category.all fun c =>
    .allOf [.range (c.path .timestamp) (some start.toValue) none,
      .isIn (c.path .action) (b.actions.map fun a => .str a.name)]

namespace Audit

/-- Count the created, updated and deleted events of the last `days` days. -/
def activityCounts (days : Option Nat) : Audit ActivityCounts := do
  let cfg ← config
  let days := days.getD cfg.defaultActivityWindowDays
  if days = 0 ∨ days > cfg.maxActivityWindowDays then
    fail (.validation ("window_days must be between 1 and " ++ toString cfg.maxActivityWindowDays))
  let some start := (← now).addNanos? (-((days : Int) * nanosPerDay)) | throw .clockOverflow
  log { level := .debug, target := "wh_audit::activity", message := "Counting audit activity",
        fields := [("window_days", .count days), ("window_start", .text start.display)] }
  let created ← countDocuments (bucketFilter .created start)
  let updated ← countDocuments (bucketFilter .updated start)
  let deleted ← countDocuments (bucketFilter .deleted start)
  return { created, updated, deleted, windowDays := days }

end Audit

end AuditTrail
