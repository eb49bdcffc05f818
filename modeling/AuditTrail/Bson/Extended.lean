import AuditTrail.Bson.Value
import AuditTrail.Time.Instant

/-!
# Type markers in stored maps

When the document library stores a map, it first asks whether the map spells one of the
extended-JSON type markers; if so, the map is stored as the value the marker describes:

* `{"$oid": s}`, with `s` twenty-four hexadecimal digits of either case, is that object id;
* `{"$numberInt": s}` and `{"$numberLong": s}`, with `s` a decimal integer within a signed
  32- or 64-bit word, are that integer;
* `{"$numberDouble": s}` is `"Infinity"`, `"-Infinity"`, `"NaN"`, or any text that reads as a
  double;
* `{"$date": n}` with `n` a 64-bit integer is the date-time `n` milliseconds after the epoch,
  and `{"$date": s}` with `s` a strict RFC 3339 time stamp is that instant in milliseconds,
  rounded toward zero.

A marker whose value does not fit stays a map. The library knows further markers (`$symbol`,
`$numberDecimal`, `$binary`, `$code`, `$timestamp`, `$regularExpression`, `$dbPointer`,
`$minKey`, `$maxKey`, `$undefined`) for kinds of value that the documents of this log do not
hold; maps that spell them are kept as maps here.

Maps are read bottom-up, so the values inside a map have been read before the map is.

## Main definitions

* `readSignedDecimal?`, `readDouble?`, `readStrictRfc3339?` — the texts the markers carry
* `Value.ofExtended` — a stored map, or the value its marker describes
-/

namespace AuditTrail

namespace Extended

/-- The number spelled by decimal digits. -/
def digitsValue (ds : List Char) : Nat := ds.foldl (fun n c => n * 10 + (c.toNat - '0'.toNat)) 0

/-- A non-empty run of decimal digits, as a number. -/
def decimal? (ds : List Char) : Option Nat :=
  if ds ≠ [] ∧ ds.all Char.isDigit then some (digitsValue ds) else none

/-- Exactly `n` decimal digits at the head of the text, as a number, and the rest. -/
def fixedDigits (n : Nat) (cs : List Char) : Option (Nat × List Char) :=
  (decimal? (cs.take n)).bind fun v => if (cs.take n).length = n then some (v, cs.drop n) else none

/-- The given character at the head of the text, and the rest. -/
def literal (c : Char) : List Char → Option (List Char)
  | d :: rest => if d = c then some rest else none
  | [] => none

/-- The given letter, in either case, at the head of the text, and the rest. -/
def letter (c : Char) : List Char → Option (List Char)
  | d :: rest => if d.toLower = c.toLower then some rest else none
  | [] => none

/-- `m * 10^k` rounded to the nearest double, ties to even. Values past the largest finite
double by more than a power of ten are infinite, and values below a tenth of the smallest
subnormal are zero, without computing the power. -/
def decimalDouble (negative : Bool) (m : Nat) (k : Int) : Binary64 :=
  let width : Int := (Nat.toDigits 10 m).length
  if m = 0 then Binary64.zero negative
  else if k + width > 310 then Binary64.infinity negative
  else if k + width < -330 then Binary64.zero negative
  else if 0 ≤ k then Binary64.round negative (m * Nat.pow 10 k.toNat) 1 0
  else Binary64.round negative m (Nat.pow 10 (-k).toNat) 0

/-- An optional exponent: nothing, or `e` or `E`, an optional sign and digits. -/
def exponent? : List Char → Option Int
  | [] => some 0
  | e :: rest =>
    if e = 'e' ∨ e = 'E' then
      match rest with
      | '-' :: ds => (decimal? ds).map fun n => -(n : Int)
      | '+' :: ds => (decimal? ds).map fun n => (n : Int)
      | ds => (decimal? ds).map fun n => (n : Int)
    else none

end Extended

open Extended

/-- A decimal integer with an optional `+` or `-`, as the standard library reads one. -/
def readSignedDecimal? (s : String) : Option Int :=
  match s.toList with
  | '-' :: ds => (decimal? ds).map fun n => -(n : Int)
  | '+' :: ds => (decimal? ds).map fun n => (n : Int)
  | ds => (decimal? ds).map fun n => (n : Int)

/-- A decimal integer within a signed 32-bit word. -/
def readInt32? (s : String) : Option Int32 :=
  (readSignedDecimal? s).bind fun n =>
    if -(Nat.pow 2 31 : Int) ≤ n ∧ n < Nat.pow 2 31 then some (Int32.ofInt n) else none

/-- A decimal integer within a signed 64-bit word. -/
def readInt64? (s : String) : Option Int64 :=
  (readSignedDecimal? s).bind fun n =>
    if -(Nat.pow 2 63 : Int) ≤ n ∧ n < Nat.pow 2 63 then some (Int64.ofInt n) else none

/-- A double as the standard library reads one: an optional sign, then `inf`, `infinity` or
`nan` in any case, or digits with an optional point (digits on at least one side of it) and an
optional exponent. The value is rounded to nearest, ties to even. -/
def readDouble? (s : String) : Option Binary64 :=
  let (negative, cs) := match s.toList with
    | '-' :: cs => (true, cs)
    | '+' :: cs => (false, cs)
    | cs => (false, cs)
  let word := String.ofList (cs.map Char.toLower)
  if word = "inf" ∨ word = "infinity" then some (Binary64.infinity negative)
  else if word = "nan" then some (if negative then Binary64.nan.neg else Binary64.nan)
  else
    let whole := cs.takeWhile Char.isDigit
    let (frac, rest) := match cs.drop whole.length with
      | '.' :: r => (r.takeWhile Char.isDigit, r.dropWhile Char.isDigit)
      | r => ([], r)
    if whole.isEmpty ∧ frac.isEmpty then none
    else (exponent? rest).map fun e =>
      decimalDouble negative (digitsValue (whole ++ frac)) (e - frac.length)

/-- The milliseconds of a strict RFC 3339 time stamp,
`YYYY-MM-DD "T" HH:MM:SS ["." digits] ("Z" | sign HH:MM)` with `T` and `Z` in either case,
divided toward zero. The fraction keeps nine digits. A second of 60 is a leap second: it
reads as the last nanosecond of its minute, which in UTC must be the last nanosecond of the
last day of a month. -/
def readStrictRfc3339? (s : String) : Option Int := do
  let (year, cs) ← fixedDigits 4 s.toList
  let cs ← literal '-' cs
  let (month, cs) ← fixedDigits 2 cs
  let cs ← literal '-' cs
  let (day, cs) ← fixedDigits 2 cs
  let cs ← letter 'T' cs
  let (hour, cs) ← fixedDigits 2 cs
  let cs ← literal ':' cs
  let (minute, cs) ← fixedDigits 2 cs
  let cs ← literal ':' cs
  let (second, cs) ← fixedDigits 2 cs
  let (nano, cs) ← match cs with
    | '.' :: rest =>
      let ds := rest.takeWhile Char.isDigit
      if ds.isEmpty then none
      else some (digitsValue (ds.take 9 ++ List.replicate (9 - ds.length) '0'),
        rest.dropWhile Char.isDigit)
    | cs => some (0, cs)
  let offset : Int ← match cs with
    | [z] => if z.toLower = 'z' then some 0 else none
    | sign :: rest =>
      let direction : Option Int := if sign = '+' then some 1 else if sign = '-' then some (-1) else none
      match direction, fixedDigits 2 rest with
      | some direction, some (h, rest) =>
        match literal ':' rest with
        | some rest =>
          match fixedDigits 2 rest with
          | some (m, []) => if h ≤ 23 ∧ m ≤ 59 then some (direction * (h * 3600 + m * 60)) else none
          | _ => none
        | none => none
      | _, _ => none
    | [] => none
  let leap := second = 60
  let (second, nano) := if leap then (59, 999999999) else (second, nano)
  if ¬(1 ≤ month ∧ month ≤ 12 ∧ 1 ≤ day ∧ day ≤ daysInMonth year month ∧ hour ≤ 23 ∧
      minute ≤ 59 ∧ second ≤ 59) then none
  let seconds : Int := daysFromCivil year month day * 86400 + hour * 3600 + minute * 60 + second - offset
  let nanos := seconds * nanosPerSecond + nano
  if leap then
    let date := civilFromDays (nanos / nanosPerDay)
    if ¬(nanos % nanosPerDay = nanosPerDay - 1 ∧ date.day = daysInMonth date.year date.month) then none
  pure (nanos.tdiv 1000000)

/-- The double of a `$numberDouble` marker. -/
def markedDouble? (s : String) : Option Binary64 :=
  if s = "Infinity" then some (Binary64.infinity false)
  else if s = "-Infinity" then some (Binary64.infinity true)
  else if s = "NaN" then some Binary64.nan
  else readDouble? s

namespace Value

/-- A stored map, or the value that its type marker describes. -/
def ofExtended (d : Document) : Value :=
  match d with
  | [("$oid", .str s)] => ((ObjectId.parse? s).map oid).getD (doc d)
  | [("$numberInt", .str s)] => ((readInt32? s).map int32).getD (doc d)
  | [("$numberLong", .str s)] => ((readInt64? s).map int64).getD (doc d)
  | [("$numberDouble", .str s)] => ((markedDouble? s).map double).getD (doc d)
  | [("$date", .int64 n)] => date n
  | [("$date", .str s)] => ((readStrictRfc3339? s).map fun ms => date (Int64.ofInt ms)).getD (doc d)
  | _ => doc d

end Value

end AuditTrail
