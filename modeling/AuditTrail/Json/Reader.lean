import AuditTrail.Json.Basic

/-!
# Reading JSON text

The grammar is RFC 8259: no trailing commas, no leading zeros, no comments, strings without raw
control characters, and `\u` escapes that pair surrogates correctly.

Numbers follow the usual rules of JSON readers that keep integers exact. A numeral without
fraction or exponent is an integer while it fits: an unsigned 64-bit word, or when negative a
signed one; `-0` is the double negative zero. Otherwise it becomes a double by a fixed recipe:
the leading digits that fit a 64-bit word form a significand (later digits are dropped, and
only shift the exponent while they stand before the point), which is rounded to a double and
then multiplied or divided once by the double nearest to the power of ten. Exponents beyond
`±308` divide by `1e308` repeatedly. A result that overflows to infinity is refused. This is
not always the double nearest to the numeral, but it is what such readers produce.

## Main definitions

* `Json.parse?` — read a whole text as one JSON value
* `Binary64.ofDecimal` — the double for a significand and a power of ten
-/

namespace AuditTrail

namespace Binary64

/-- The double nearest to `10^k`. -/
def powTen (k : Nat) : Binary64 := round false (Nat.pow 10 k) 1 0

/-- Scale down by `1e308` until the remaining power of ten is within the table, stopping early
at zero. -/
def shrinkByTen (f : Binary64) : Nat → Nat → Binary64
  | 0, _ => f
  | fuel + 1, k =>
    if k ≤ 308 then f.div (powTen k)
    else if f.isZero then f
    else shrinkByTen (f.div (powTen 308)) fuel (k - 308)

/-- The double read for `significand * 10^exponent`: the significand rounded to a double, then
multiplied or divided once by the nearest double to the power of ten. `none` when the result
overflows. -/
def ofDecimal (significand : Nat) (exponent : Int) : Option Binary64 :=
  let f := ofNat significand
  if exponent ≥ 0 then
    if exponent ≤ 308 then
      let g := f.mul (powTen exponent.toNat)
      if g.isFinite then some g else none
    else if f.isZero then some f else none
  else some (shrinkByTen f (exponent.natAbs / 308 + 1) exponent.natAbs)

end Binary64

namespace Json

/-! ### Lexical pieces -/

def isSpace (c : Char) : Bool := c == ' ' || c == '\t' || c == '\n' || c == '\r'

/-- Drop leading insignificant whitespace. -/
def skipSpace (cs : List Char) : List Char := cs.dropWhile isSpace

def digitValue? (c : Char) : Option Nat :=
  if c.isDigit then some (c.toNat - '0'.toNat) else none

def hexValue? (c : Char) : Option Nat :=
  if c.isDigit then some (c.toNat - '0'.toNat)
  else if 'a' ≤ c ∧ c ≤ 'f' then some (c.toNat - 'a'.toNat + 10)
  else if 'A' ≤ c ∧ c ≤ 'F' then some (c.toNat - 'A'.toNat + 10)
  else none

/-- The value of four hexadecimal digits. -/
def hex4? (a b c d : Char) : Option Nat := do
  let a ← hexValue? a
  let b ← hexValue? b
  let c ← hexValue? c
  let d ← hexValue? d
  some (((a * 16 + b) * 16 + c) * 16 + d)

/-- The character of a `\u` escape that is not a surrogate. -/
def plainEscape? (u : Nat) : Option Char :=
  if 0xD800 ≤ u ∧ u ≤ 0xDFFF then none else some (Char.ofNat u)

/-- The character that a high and a low surrogate encode together. -/
def pairEscape? (hi lo : Nat) : Option Char :=
  if 0xD800 ≤ hi ∧ hi ≤ 0xDBFF ∧ 0xDC00 ≤ lo ∧ lo ≤ 0xDFFF then
    some (Char.ofNat (0x10000 + (hi - 0xD800) * 0x400 + (lo - 0xDC00)))
  else none

/-- The character of a one-letter escape. -/
def shortEscape? : Char → Option Char
  | '"' => some '"'
  | '\\' => some '\\'
  | '/' => some '/'
  | 'b' => some '\x08'
  | 'f' => some '\x0c'
  | 'n' => some '\n'
  | 'r' => some '\r'
  | 't' => some '\t'
  | _ => none

/-- The body of a string after its opening quote, up to and including the closing quote;
`acc` holds the characters read so far, last first. -/
def readStringBody : List Char → List Char → Option (String × List Char)
  | [], _ => none
  | '"' :: rest, acc => some (String.ofList acc.reverse, rest)
  | '\\' :: 'u' :: a :: b :: c :: d :: '\\' :: 'u' :: e :: f :: g :: h :: rest, acc =>
    match hex4? a b c d, hex4? e f g h with
    | some u, some l =>
      if 0xD800 ≤ u ∧ u ≤ 0xDBFF then
        match pairEscape? u l with
        | some ch => readStringBody rest (ch :: acc)
        | none => none
      else
        match plainEscape? u, plainEscape? l with
        | some x, some y => readStringBody rest (y :: x :: acc)
        | _, _ => none
    | _, _ => none
  | '\\' :: 'u' :: a :: b :: c :: d :: rest, acc =>
    match hex4? a b c d >>= plainEscape? with
    | some ch => readStringBody rest (ch :: acc)
    | none => none
  | '\\' :: c :: rest, acc =>
    match shortEscape? c with
    | some ch => readStringBody rest (ch :: acc)
    | none => none
  | c :: rest, acc => if c.toNat < 0x20 then none else readStringBody rest (c :: acc)

/-! ### Numbers -/

/-- Largest value of an unsigned 64-bit word. -/
def wordMax : Nat := Nat.pow 2 64 - 1

/-- Digits of a numeral while they still fit the significand; `none` marks the digit that
would overflow it. -/
def fitsNext (significand d : Nat) : Bool := significand * 10 + d ≤ wordMax

/-- Skip the remaining digits. -/
def dropDigits (cs : List Char) : List Char := cs.dropWhile Char.isDigit

/-- The digits of an exponent, with overflow reported as `none`. -/
def readExponentDigits : List Char → Nat → Option (Nat × List Char)
  | c :: rest, acc =>
    match digitValue? c with
    | some d => if acc * 10 + d > 2147483647 then none else readExponentDigits rest (acc * 10 + d)
    | none => some (acc, c :: rest)
  | [], acc => some (acc, [])

/-- The double of a numeral with a fraction or exponent, from its significand and decimal
exponent so far, with the text after the significand. -/
def finishFloat (negative : Bool) (significand : Nat) (exponent : Int) :
    List Char → Option (Json × List Char)
  | e :: rest =>
    if e = 'e' ∨ e = 'E' then
      let (expNegative, rest) := match rest with
        | '+' :: r => (false, r)
        | '-' :: r => (true, r)
        | r => (false, r)
      match rest with
      | c :: _ =>
        if c.isDigit then
          match readExponentDigits rest 0 with
          | some (k, rest') =>
            let total := if expNegative then exponent - k else exponent + k
            (Binary64.ofDecimal significand total).map fun x =>
              (.float (if negative then x.neg else x), rest')
          | none =>
            -- an exponent too large to hold: zero, or refused when it grows the value
            if significand ≠ 0 ∧ ¬expNegative then none
            else some (.float (Binary64.zero negative), dropDigits rest)
        else none
      | [] => none
    else
      (Binary64.ofDecimal significand exponent).map fun x =>
        (.float (if negative then x.neg else x), e :: rest)
  | [] =>
    (Binary64.ofDecimal significand exponent).map fun x =>
      (.float (if negative then x.neg else x), [])

/-- Digits after the point: each one that fits joins the significand and lowers the exponent;
from the first that does not, the rest are dropped. At least one digit is required. -/
def readFraction (negative : Bool) : List Char → Nat → Int → Nat → Option (Json × List Char)
  | c :: rest, significand, exponent, count =>
    match digitValue? c with
    | some d =>
      if fitsNext significand d then readFraction negative rest (significand * 10 + d) (exponent - 1) (count + 1)
      else finishFloat negative significand exponent (dropDigits (c :: rest))
    | none => if count = 0 then none else finishFloat negative significand exponent (c :: rest)
  | [], significand, exponent, count =>
    if count = 0 then none else finishFloat negative significand exponent []

/-- After the whole digits: a point, an exponent, or the end of an integer. -/
def afterWhole (negative : Bool) (significand : Nat) (exponent : Int) (overflowed : Bool) :
    List Char → Option (Json × List Char)
  | '.' :: rest => readFraction negative rest significand exponent 0
  | cs =>
    match cs with
    | e :: _ =>
      if e = 'e' ∨ e = 'E' then finishFloat negative significand exponent cs
      else if overflowed then finishFloat negative significand exponent cs
      else some (integerOf negative significand, cs)
    | [] => if overflowed then finishFloat negative significand exponent []
      else some (integerOf negative significand, [])
where
  /-- A whole numeral that fits: an unsigned word, a negative signed word, or negative zero and
  anything below the signed range as a double. -/
  integerOf (negative : Bool) (n : Nat) : Json :=
    if !negative then .int n
    else if n = 0 then .float (Binary64.zero true)
    else if n ≤ Nat.pow 2 63 then .int (-(n : Int))
    else .float (Binary64.ofNat n).neg

/-- Whole digits after the first. Once the significand is full, further digits only raise the
exponent. -/
def readWhole (negative : Bool) : List Char → Nat → Int → Bool → Option (Json × List Char)
  | c :: rest, significand, exponent, overflowed =>
    match digitValue? c with
    | some d =>
      if overflowed then readWhole negative rest significand (exponent + 1) true
      else if fitsNext significand d then readWhole negative rest (significand * 10 + d) exponent false
      else readWhole negative rest significand (exponent + 1) true
    | none => afterWhole negative significand exponent overflowed (c :: rest)
  | [], significand, exponent, overflowed => afterWhole negative significand exponent overflowed []

/-- A numeral: an optional minus, then `0` or a digit string without leading zero. -/
def readNumber (cs : List Char) : Option (Json × List Char) :=
  let (negative, cs) := match cs with
    | '-' :: r => (true, r)
    | r => (false, r)
  match cs with
  | '0' :: rest =>
    match rest with
    | c :: _ => if c.isDigit then none else afterWhole negative 0 0 false rest
    | [] => afterWhole negative 0 0 false []
  | c :: rest =>
    match digitValue? c with
    | some d => if d = 0 then none else readWhole negative rest d 0 false
    | none => none
  | [] => none

/-! ### Values -/

mutual

/-- One value at the head of the text, after any leading whitespace has been skipped. The fuel
bounds the nesting and is never smaller than the text. -/
def readValue : Nat → List Char → Option (Json × List Char)
  | 0, _ => none
  | fuel + 1, cs =>
    match cs with
    | 'n' :: 'u' :: 'l' :: 'l' :: rest => some (.null, rest)
    | 't' :: 'r' :: 'u' :: 'e' :: rest => some (.bool true, rest)
    | 'f' :: 'a' :: 'l' :: 's' :: 'e' :: rest => some (.bool false, rest)
    | '"' :: rest => (readStringBody rest []).map fun (s, r) => (.str s, r)
    | '[' :: rest =>
      match skipSpace rest with
      | ']' :: rest' => some (.arr [], rest')
      | rest' => readItems fuel rest' []
    | '{' :: rest =>
      match skipSpace rest with
      | '}' :: rest' => some (.obj [], rest')
      | rest' => readFields fuel rest' []
    | _ => readNumber cs

/-- Array elements after the opening bracket, separated by commas. -/
def readItems : Nat → List Char → List Json → Option (Json × List Char)
  | 0, _, _ => none
  | fuel + 1, cs, acc =>
    match readValue fuel cs with
    | some (v, rest) =>
      match skipSpace rest with
      | ',' :: rest' => readItems fuel (skipSpace rest') (v :: acc)
      | ']' :: rest' => some (.arr (v :: acc).reverse, rest')
      | _ => none
    | none => none

/-- Object members after the opening brace: a string key, a colon and a value, separated by
commas. -/
def readFields : Nat → List Char → List (String × Json) → Option (Json × List Char)
  | 0, _, _ => none
  | fuel + 1, cs, acc =>
    match cs with
    | '"' :: rest =>
      match readStringBody rest [] with
      | some (key, rest) =>
        match skipSpace rest with
        | ':' :: rest =>
          match readValue fuel (skipSpace rest) with
          | some (v, rest) =>
            match skipSpace rest with
            | ',' :: rest' => readFields fuel (skipSpace rest') ((key, v) :: acc)
            | '}' :: rest' => some (.obj ((key, v) :: acc).reverse, rest')
            | _ => none
          | none => none
        | _ => none
      | none => none
    | _ => none

end

/-- Read a whole text as one JSON value, with whitespace allowed around it. -/
def parse? (text : String) : Option Json :=
  let cs := text.toList
  match readValue (cs.length + 1) (skipSpace cs) with
  | some (v, rest) => if (skipSpace rest).isEmpty then some v else none
  | none => none

end Json

end AuditTrail
