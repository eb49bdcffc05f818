/-!
# Instants on the UTC time line

An `Instant` counts nanoseconds from 1970-01-01T00:00:00Z on the proleptic Gregorian calendar
without leap seconds. The representable span runs from the first instant of the year -262143 to
the last nanosecond of the year 262142; arithmetic that would leave it fails.

Stored timestamps are milliseconds. An instant becomes milliseconds by flooring, toward the
past, so `1969-12-31T23:59:59.9995Z` is `-1` ms. Milliseconds outside the span read back as
its nearest end.

## Main definitions

* `daysFromCivil`, `civilFromDays` — the calendar, as day counts from the epoch
* `Instant`, `Instant.ofNanos?`, `Instant.addNanos?` — the checked time line
* `Instant.toMillis`, `Instant.ofMillisSaturating` — the stored form
-/

namespace AuditTrail

/-- A calendar date: year, month `1..12`, day `1..31`. -/
structure CivilDate where
  year : Int
  month : Nat
  day : Nat
  deriving DecidableEq, Repr

/-- Whether a year of the proleptic Gregorian calendar has 366 days. -/
def isLeapYear (y : Int) : Bool := y % 4 == 0 && (y % 100 != 0 || y % 400 == 0)

/-- The number of days in a month. -/
def daysInMonth (y : Int) (m : Nat) : Nat :=
  match m with
  | 2 => if isLeapYear y then 29 else 28
  | 4 | 6 | 9 | 11 => 30
  | _ => 31

/-- Days from 1970-01-01 to the given date. The year is counted from March, so that the leap
day ends it, and in eras of 400 years, which repeat exactly. -/
def daysFromCivil (y : Int) (m d : Nat) : Int :=
  let y := if m ≤ 2 then y - 1 else y
  let era := y / 400
  let yoe := y - era * 400
  let mp : Int := if m > 2 then (m : Int) - 3 else (m : Int) + 9
  let doy := (153 * mp + 2) / 5 + d - 1
  let doe := yoe * 365 + yoe / 4 - yoe / 100 + doy
  era * 146097 + doe - 719468

/-- The date that lies the given number of days after 1970-01-01; inverse of `daysFromCivil`. -/
def civilFromDays (z : Int) : CivilDate :=
  let z := z + 719468
  let era := z / 146097
  let doe := z - era * 146097
  let yoe := (doe - doe / 1460 + doe / 36524 - doe / 146096) / 365
  let y := yoe + era * 400
  let doy := doe - (365 * yoe + yoe / 4 - yoe / 100)
  let mp := (5 * doy + 2) / 153
  let d := doy - (153 * mp + 2) / 5 + 1
  let m := if mp < 10 then mp + 3 else mp - 9
  ⟨if m ≤ 2 then y + 1 else y, m.toNat, d.toNat⟩

def nanosPerSecond : Int := 1000000000
def nanosPerDay : Int := 86400 * nanosPerSecond

/-- The first representable instant, -262143-01-01T00:00:00Z. -/
def minNanos : Int := daysFromCivil (-262143) 1 1 * nanosPerDay

/-- The last representable instant, +262142-12-31T23:59:59.999999999Z. -/
def maxNanos : Int := (daysFromCivil 262142 12 31 + 1) * nanosPerDay - 1

/-- A representable instant, in nanoseconds since the epoch. -/
structure Instant where
  nanos : Int
  lower : minNanos ≤ nanos
  upper : nanos ≤ maxNanos

namespace Instant

instance : DecidableEq Instant := fun a b =>
  if h : a.nanos = b.nanos then isTrue (by cases a; cases b; simp_all) else isFalse (by
    intro hab; exact h (by rw [hab]))

/-- The instant at a nanosecond count, if representable. -/
def ofNanos? (n : Int) : Option Instant :=
  if h : minNanos ≤ n ∧ n ≤ maxNanos then some ⟨n, h.1, h.2⟩ else none

/-- The epoch, 1970-01-01T00:00:00Z. -/
def epoch : Instant := ⟨0, by decide, by decide⟩

instance : Inhabited Instant := ⟨epoch⟩

/-- Move by a signed number of nanoseconds; `none` when the result leaves the span. -/
def addNanos? (t : Instant) (d : Int) : Option Instant := ofNanos? (t.nanos + d)

/-- Whole milliseconds since the epoch, rounded toward the past. -/
def toMillis (t : Instant) : Int := t.nanos / 1000000

/-- The instant of a stored millisecond count; counts beyond the span give its nearest end. -/
def ofMillisSaturating (ms : Int) : Instant :=
  match ofNanos? (ms * 1000000) with
  | some t => t
  | none => if ms < 0 then ⟨minNanos, by decide, by decide⟩ else ⟨maxNanos, by decide, by decide⟩

/-- The calendar date of the instant. -/
def date (t : Instant) : CivilDate := civilFromDays (t.nanos / nanosPerDay)

/-- Nanoseconds since the start of the instant's day. -/
def nanosOfDay (t : Instant) : Nat := (t.nanos % nanosPerDay).toNat

end Instant

end AuditTrail
