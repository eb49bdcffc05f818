import AuditTrail.Time.Instant
import AuditTrail.Text.Blank

/-!
# Time stamps as text

**Reading.** A time stamp is an RFC 3339 date-time, read leniently:

```
[blank] year "-" month "-" day ("T" | "t" | " ") hour ":" minute ":" second ["." digits]
[blank] ("Z" | "z" | sign hh [":" | blank]* mm) [blank]
```

A year without sign has one to four digits, a signed year any number; month, day, hour, minute
and second have one or two digits, and blanks may precede each of these numbers and each
separator after the year. The fraction keeps its first nine digits as nanoseconds and ignores
the rest. The offset sign is `+`, `-` or the minus sign `U+2212`; offset hours may reach 23,
minutes 59. The date must exist, the time must lie within its day (a leap second is refused),
and the instant, moved to UTC, must be representable.

**Writing.** `Instant.rfc3339` writes UTC with `Z`. Years `0..9999` have four digits, others a
sign and at least four. The fraction is left out when zero, and otherwise has three, six or nine
digits: the fewest of these that hold it exactly. `Instant.display` is the plain form
`2024-01-01 00:00:00 UTC`, and `Instant.rfc3339Trimmed` the interchange form whose fraction
drops trailing zeros.

## Main definitions

* `Instant.parse?` — read a time stamp
* `Instant.rfc3339`, `Instant.rfc3339Trimmed`, `Instant.display` — write one
-/

namespace AuditTrail

namespace Rfc3339

/-! ### Reading -/

/-- Digits at the head of the text, between `lo` and `hi` of them, as a number. -/
def readDigits (lo hi : Nat) : List Char → Option (Nat × List Char)
  | cs =>
    let ds := (cs.take hi).takeWhile Char.isDigit
    if ds.length < lo then none
    else some (ds.foldl (fun n c => n * 10 + (c.toNat - '0'.toNat)) 0, cs.drop ds.length)

/-- A year: optionally signed with any number of digits, otherwise one to four digits. -/
def readYear (cs : List Char) : Option (Int × List Char) :=
  match dropBlank cs with
  | '-' :: rest => (readDigits 1 rest.length rest).map fun (n, r) => (-(n : Int), r)
  | '+' :: rest => (readDigits 1 rest.length rest).map fun (n, r) => ((n : Int), r)
  | rest => (readDigits 1 4 rest).map fun (n, r) => ((n : Int), r)

/-- A one- or two-digit field after optional blanks. -/
def readField (cs : List Char) : Option (Nat × List Char) := readDigits 1 2 (dropBlank cs)

/-- A separator after optional blanks. -/
def expect (c : Char) (cs : List Char) : Option (List Char) :=
  match dropBlank cs with
  | d :: rest => if d = c then some rest else none
  | [] => none

/-- An optional fraction of a second: a point and at least one digit; nine digits count. -/
def readFraction : List Char → Option (Nat × List Char)
  | '.' :: rest =>
    let ds := rest.takeWhile Char.isDigit
    if ds.isEmpty then none
    else
      let kept := (ds.take 9 ++ List.replicate (9 - ds.length) '0')
      some (kept.foldl (fun n c => n * 10 + (c.toNat - '0'.toNat)) 0, rest.drop ds.length)
  | cs => some (0, cs)

/-- The offset from UTC in seconds. -/
def readOffset (cs : List Char) : Option (Int × List Char) :=
  match dropBlank cs with
  | 'Z' :: rest => some (0, rest)
  | 'z' :: rest => some (0, rest)
  | c :: rest =>
    let sign : Option Int :=
      if c = '+' then some 1 else if c = '-' ∨ c = '−' then some (-1) else none
    match sign, rest with
    | some sign, h1 :: h2 :: rest =>
      if h1.isDigit ∧ h2.isDigit then
        let hours := (h1.toNat - '0'.toNat) * 10 + (h2.toNat - '0'.toNat)
        let rest := rest.dropWhile fun c => c = ':' || isBlankChar c
        match rest with
        | m1 :: m2 :: rest =>
          if '0' ≤ m1 ∧ m1 ≤ '5' ∧ m2.isDigit then
            let minutes := (m1.toNat - '0'.toNat) * 10 + (m2.toNat - '0'.toNat)
            if hours < 24 then some (sign * ((hours * 60 + minutes) * 60 : Nat), rest) else none
          else none
        | _ => none
      else none
    | _, _ => none
  | [] => none

/-- The parts of a time stamp, before any range check. -/
structure Parts where
  year : Int
  month : Nat
  day : Nat
  hour : Nat
  minute : Nat
  second : Nat
  nano : Nat
  offset : Int

/-- Read the parts of a time stamp; the whole text must be consumed, up to trailing blanks. -/
def readParts (cs : List Char) : Option Parts := do
  let (year, cs) ← readYear cs
  let cs ← expect '-' cs
  let (month, cs) ← readField cs
  let cs ← expect '-' cs
  let (day, cs) ← readField cs
  let cs ← match cs with
    | c :: rest => if c = 'T' ∨ c = 't' ∨ c = ' ' then some rest else none
    | [] => none
  let (hour, cs) ← readField cs
  let cs ← expect ':' cs
  let (minute, cs) ← readField cs
  let cs ← expect ':' cs
  let (second, cs) ← readField cs
  let (nano, cs) ← readFraction cs
  let (offset, cs) ← readOffset cs
  if (dropBlank cs).isEmpty then
    some ⟨year, month, day, hour, minute, second, nano, offset⟩
  else none

/-- The UTC nanosecond count of valid parts. -/
def Parts.nanos? (p : Parts) : Option Int :=
  if 1 ≤ p.month ∧ p.month ≤ 12 ∧ 1 ≤ p.day ∧ p.day ≤ daysInMonth p.year p.month ∧
      -262143 ≤ p.year ∧ p.year ≤ 262142 ∧ p.hour ≤ 23 ∧ p.minute ≤ 59 ∧ p.second ≤ 59 then
    let days := daysFromCivil p.year p.month p.day
    let seconds := days * 86400 + p.hour * 3600 + p.minute * 60 + p.second - p.offset
    some (seconds * nanosPerSecond + p.nano)
  else none

/-! ### Writing -/

/-- A number with at least `width` digits, zero-padded. -/
def padded (width n : Nat) : String :=
  let ds := Nat.toDigits 10 n
  String.ofList (List.replicate (width - ds.length) '0' ++ ds)

/-- A year: four digits within `0..9999`, otherwise a sign and at least four digits. -/
def year (y : Int) : String :=
  if 0 ≤ y ∧ y ≤ 9999 then padded 4 y.toNat
  else (if y < 0 then "-" else "+") ++ padded 4 y.natAbs

/-- Date, a separator, and the time of day to the second. -/
def dateTime (t : Instant) (sep : String) : String :=
  let d := t.date
  let secs := t.nanosOfDay / 1000000000
  year d.year ++ "-" ++ padded 2 d.month ++ "-" ++ padded 2 d.day ++ sep ++
    padded 2 (secs / 3600) ++ ":" ++ padded 2 (secs / 60 % 60) ++ ":" ++ padded 2 (secs % 60)

/-- The fraction of a second in three, six or nine digits, or nothing when it is zero. -/
def fraction (nano : Nat) : String :=
  if nano = 0 then ""
  else if nano % 1000000 = 0 then "." ++ padded 3 (nano / 1000000)
  else if nano % 1000 = 0 then "." ++ padded 6 (nano / 1000)
  else "." ++ padded 9 nano

/-- The fraction of a second with trailing zeros dropped, or nothing when it is zero. -/
def trimmedFraction (nano : Nat) : String :=
  if nano = 0 then ""
  else
    let ds := (padded 9 nano).toList.reverse.dropWhile (· = '0')
    "." ++ String.ofList ds.reverse

end Rfc3339

namespace Instant

/-- Read a time stamp. -/
def parse? (s : String) : Option Instant :=
  (Rfc3339.readParts s.toList) >>= Rfc3339.Parts.nanos? >>= ofNanos?

/-- Nanoseconds within the second. -/
def subsecond (t : Instant) : Nat := t.nanosOfDay % 1000000000

/-- The UTC time stamp with `Z` and a three-, six- or nine-digit fraction. -/
def rfc3339 (t : Instant) : String :=
  Rfc3339.dateTime t "T" ++ Rfc3339.fraction t.subsecond ++ "Z"

/-- The UTC time stamp with `Z` and a fraction without trailing zeros. -/
def rfc3339Trimmed (t : Instant) : String :=
  Rfc3339.dateTime t "T" ++ Rfc3339.trimmedFraction t.subsecond ++ "Z"

/-- The plain form `YYYY-MM-DD HH:MM:SS[.fraction] UTC`. -/
def display (t : Instant) : String :=
  Rfc3339.dateTime t " " ++ Rfc3339.fraction t.subsecond ++ " UTC"

end Instant

end AuditTrail
