/-!
# Doubles by their encoding

A `Binary64` is the 64-bit IEEE 754 interchange encoding of a double-precision number. Nothing
here goes through the machine's floating-point unit: every operation computes its exact result
as a fraction of natural numbers and rounds it once, to nearest with ties to even, which is what
IEEE 754 prescribes for the basic operations. The results therefore agree bit for bit with
hardware doubles, and every step is open to proof.

## Main definitions

* `Binary64.classify` — NaN, an infinity, or a finite `(-1)^s * m * 2^e`
* `Binary64.round` — the double nearest to `num / den * 2^e`
* `Binary64.ofNat`, `ofInt`, `neg`, `mul`, `div` — conversions and correctly rounded arithmetic
* `Binary64.ieeeEq`, `Binary64.compare?` — equality and order of the denoted values, where NaN
  equals nothing and `-0.0` equals `0.0`
-/

namespace AuditTrail

/-- A double-precision number, held as its IEEE 754 bit pattern. -/
structure Binary64 where
  bits : UInt64
  deriving DecidableEq, Inhabited, Repr

namespace Binary64

/-- The sign bit. -/
def sign (x : Binary64) : Bool := decide (x.bits.toNat ≥ Nat.pow 2 63)

/-- The eleven exponent bits, as stored. -/
def biased (x : Binary64) : Nat := x.bits.toNat / Nat.pow 2 52 % Nat.pow 2 11

/-- The 52 fraction bits. -/
def fraction (x : Binary64) : Nat := x.bits.toNat % Nat.pow 2 52

/-- What a double denotes. A finite value is `(-1)^negative * mantissa * 2^exponent`. -/
inductive Class where
  | nan
  | infinite (negative : Bool)
  | finite (negative : Bool) (mantissa : Nat) (exponent : Int)
  deriving DecidableEq, Repr

/-- Decode the bit pattern: exponent bits all ones are NaN or an infinity, all zeros a subnormal
with exponent `-1074`, anything else a normal number with the hidden leading bit. -/
def classify (x : Binary64) : Class :=
  if x.biased = 2047 then
    if x.fraction = 0 then .infinite x.sign else .nan
  else if x.biased = 0 then .finite x.sign x.fraction (-1074)
  else .finite x.sign (x.fraction + Nat.pow 2 52) ((x.biased : Int) - 1075)

/-- Assemble a bit pattern from sign, stored exponent and fraction. -/
def encode (negative : Bool) (biased fraction : Nat) : Binary64 :=
  ⟨UInt64.ofNat ((if negative then Nat.pow 2 63 else 0) + biased * Nat.pow 2 52 + fraction)⟩

/-- Zero of the given sign. -/
def zero (negative : Bool) : Binary64 := encode negative 0 0

/-- Infinity of the given sign. -/
def infinity (negative : Bool) : Binary64 := encode negative 2047 0

/-- The quiet NaN that arithmetic produces. -/
def nan : Binary64 := encode false 2047 (Nat.pow 2 51)

def isNaN (x : Binary64) : Bool := x.classify == .nan

def isFinite (x : Binary64) : Bool :=
  match x.classify with
  | .finite .. => true
  | _ => false

/-- True of `0.0` and `-0.0`. -/
def isZero (x : Binary64) : Bool := x.biased == 0 && x.fraction == 0

/-- The same value with the opposite sign; NaN stays NaN. -/
def neg (x : Binary64) : Binary64 := ⟨x.bits ^^^ 0x8000000000000000⟩

/-! ### Rounding -/

/-- `⌊log₂ (num / den)⌋` for positive `num` and `den`. The difference of the two binary
logarithms is either the answer or one more than it; one comparison decides. -/
def floorLog2 (num den : Nat) : Int :=
  let a := Nat.log2 num
  let b := Nat.log2 den
  if num * Nat.pow 2 (b - a) ≥ den * Nat.pow 2 (a - b) then (a : Int) - b else (a : Int) - b - 1

/-- Encode `m * 2^q`, where `q ≥ -1074`, `m ≤ 2^53`, and `m ≥ 2^52` unless `q = -1074`. A
carry out of the mantissa moves to the exponent, and an exponent past the largest finite
binade becomes infinity. -/
def pack (negative : Bool) (m : Nat) (q : Int) : Binary64 :=
  let (m, q) := if m = Nat.pow 2 53 then (Nat.pow 2 52, q + 1) else (m, q)
  if m < Nat.pow 2 52 then encode negative 0 m
  else if q + 1075 ≥ 2047 then infinity negative
  else encode negative (q + 1075).toNat (m - Nat.pow 2 52)

/-- The double nearest to `num / den * 2^e`, ties to the even mantissa. The last place is
`2^q` with `q` the larger of `-1074` and the value's binade less 52, so the quotient
`num * 2^(e-q) / den` has at most 53 bits; its remainder decides the rounding. A zero
numerator or denominator gives zero of the given sign. -/
def round (negative : Bool) (num den : Nat) (e : Int) : Binary64 :=
  if num = 0 ∨ den = 0 then zero negative
  else
    let q := max (-1074) (e + floorLog2 num den - 52)
    let s := e - q
    let n := num * Nat.pow 2 s.toNat
    let d := den * Nat.pow 2 (-s).toNat
    let m := n / d
    let r := n % d
    let m := if 2 * r > d ∨ (2 * r = d ∧ m % 2 = 1) then m + 1 else m
    pack negative m q

/-- The double nearest to a natural number. -/
def ofNat (n : Nat) : Binary64 := round false n 1 0

/-- The double nearest to an integer. -/
def ofInt (n : Int) : Binary64 := round (decide (n < 0)) n.natAbs 1 0

/-- Correctly rounded product. -/
def mul (x y : Binary64) : Binary64 :=
  match x.classify, y.classify with
  | .nan, _ => nan
  | _, .nan => nan
  | .infinite a, .infinite b => infinity (a != b)
  | .infinite a, .finite b m _ => if m = 0 then nan else infinity (a != b)
  | .finite a m _, .infinite b => if m = 0 then nan else infinity (a != b)
  | .finite a m e, .finite b n f => round (a != b) (m * n) 1 (e + f)

/-- Correctly rounded quotient. -/
def div (x y : Binary64) : Binary64 :=
  match x.classify, y.classify with
  | .nan, _ => nan
  | _, .nan => nan
  | .infinite _, .infinite _ => nan
  | .infinite a, .finite b _ _ => infinity (a != b)
  | .finite a _ _, .infinite b => zero (a != b)
  | .finite a m e, .finite b n f =>
    if n = 0 then (if m = 0 then nan else infinity (a != b)) else round (a != b) m n (e - f)

/-! ### Equality and order of values -/

/-- Equality of the denoted values: NaN equals nothing, the two zeros are equal, and otherwise
equal values have equal encodings. -/
def ieeeEq (x y : Binary64) : Bool :=
  match x.classify, y.classify with
  | .nan, _ => false
  | _, .nan => false
  | .finite _ 0 _, .finite _ 0 _ => true
  | _, _ => x.bits == y.bits

/-- Compare `m * 2^e` with `n * 2^f` exactly. -/
def compareMagnitude (m : Nat) (e : Int) (n : Nat) (f : Int) : Ordering :=
  compare (m * Nat.pow 2 (e - f).toNat) (n * Nat.pow 2 (f - e).toNat)

/-- A rank that orders the non-NaN values coarsely: negative infinity, negative finite, zero,
positive finite, positive infinity. -/
def rank : Class → Nat
  | .infinite true => 0
  | .finite true m _ => if m = 0 then 2 else 1
  | .finite false m _ => if m = 0 then 2 else 3
  | .infinite false => 4
  | .nan => 2

/-- Order of the denoted values, `none` when either is NaN. -/
def compare? (x y : Binary64) : Option Ordering :=
  match x.classify, y.classify with
  | .nan, _ => none
  | _, .nan => none
  | .finite true m e, .finite true n f =>
    if m = 0 ∨ n = 0 then some (compare (rank x.classify) (rank y.classify))
    else some (compareMagnitude n f m e)
  | .finite false m e, .finite false n f =>
    if m = 0 ∨ n = 0 then some (compare (rank x.classify) (rank y.classify))
    else some (compareMagnitude m e n f)
  | a, b => some (compare (rank a) (rank b))

end Binary64

end AuditTrail
