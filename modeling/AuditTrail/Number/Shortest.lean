import AuditTrail.Number.Binary64

/-!
# The shortest decimal that reads back

A finite double stands for every real in its rounding interval: the reals closer to it than to
either neighbour, with the ends included when its mantissa is even (ties go to even). Among
the decimals in that interval we want one with the fewest significant digits, and of two such
the nearer to the double.

For `n = 1, 2, …, 17` the decimal grid with `n` significant digits at the double's magnitude
has two points next to the double: the one below and the one above. If a point of that grid
lies in the interval, so does one of these two, so testing them decides whether `n` digits
suffice. Seventeen digits always do. All comparisons are exact, in natural numbers.

## Main definitions

* `Decimal` — `digits * 10^exponent`
* `Binary64.shortest` — the shortest decimal in the rounding interval of a positive double
* `Decimal.render` — the text of a decimal: positional between `1e-5` and `1e16`, otherwise
  with an exponent, and with `.0` after a whole number so that it still reads as a fraction
-/

namespace AuditTrail

/-- The decimal `digits * 10 ^ exponent`. -/
structure Decimal where
  digits : Nat
  exponent : Int
  deriving DecidableEq, Repr

/-- Compare `a * 2^p * 10^q` with `b * 2^r * 10^s` exactly, by scaling both sides to natural
numbers with the smaller powers divided out. -/
def compareScaled (a : Nat) (p q : Int) (b : Nat) (r s : Int) : Ordering :=
  let p0 := min p r
  let q0 := min q s
  compare (a * Nat.pow 2 (p - p0).toNat * Nat.pow 10 (q - q0).toNat)
    (b * Nat.pow 2 (r - p0).toNat * Nat.pow 10 (s - q0).toNat)

/-- `⌊m * 2^e / 10^k⌋`. -/
def floorScaled (m : Nat) (e k : Int) : Nat :=
  m * Nat.pow 2 e.toNat * Nat.pow 10 (-k).toNat / (Nat.pow 2 (-e).toNat * Nat.pow 10 k.toNat)

/-- Move an estimate `k` of `⌊log₁₀ (m * 2^e)⌋` to the exact value, one step at a time. -/
def settleLog10 (m : Nat) (e : Int) : Nat → Int → Int
  | 0, k => k
  | fuel + 1, k =>
    if compareScaled 1 0 k m e 0 == .gt then settleLog10 m e fuel (k - 1)
    else if compareScaled 1 0 (k + 1) m e 0 != .gt then settleLog10 m e fuel (k + 1)
    else k

/-- `⌊log₁₀ (m * 2^e)⌋` for `m > 0`. The estimate multiplies the binary exponent by an
approximation of `log₁₀ 2` and is within two of the answer. -/
def floorLog10 (m : Nat) (e : Int) : Int :=
  let bin : Int := (Nat.log2 m : Int) + e
  settleLog10 m e 4 (bin * 78913 / 262144)

/-- Drop trailing zero digits into the exponent. -/
def Decimal.normalize : Nat → Decimal → Decimal
  | 0, d => d
  | fuel + 1, d =>
    if d.digits ≠ 0 ∧ d.digits % 10 = 0 then
      Decimal.normalize fuel ⟨d.digits / 10, d.exponent + 1⟩
    else d

namespace Binary64

/-- The shortest decimal in the rounding interval of the positive value `m * 2^e`; `halfBelow`
says that the gap to the next smaller double is half the gap above, which happens at the bottom
of a binade. -/
def shortestOf (m : Nat) (e : Int) (halfBelow : Bool) : Decimal :=
  let lower := 4 * m - (if halfBelow then 1 else 2)
  let upper := 4 * m + 2
  let inclusive := m % 2 == 0
  let inside (d : Nat) (k : Int) : Bool :=
    let lo := compareScaled lower (e - 2) 0 d 0 k
    let hi := compareScaled d 0 k upper (e - 2) 0
    if inclusive then lo != .gt && hi != .gt else lo == .lt && hi == .lt
  let top := floorLog10 m e
  let rec search : Nat → Nat → Decimal
    | 0, _ => ⟨floorScaled m e (top - 16), top - 16⟩
    | fuel + 1, n =>
      let k := top + 1 - n
      let below := floorScaled m e k
      let above := below + 1
      match inside below k, inside above k with
      | true, true =>
        -- the nearer of the two; an exact tie goes to the even digit string
        match compareScaled m (e + 1) 0 (2 * below + 1) 0 k with
        | .lt => ⟨below, k⟩
        | .gt => ⟨above, k⟩
        | .eq => if below % 2 = 0 then ⟨below, k⟩ else ⟨above, k⟩
      | true, false => ⟨below, k⟩
      | false, true => ⟨above, k⟩
      | false, false => search fuel (n + 1)
  Decimal.normalize 20 (search 17 1)

/-- The shortest decimal that reads back as this double's magnitude; `none` for NaN and the
infinities. -/
def shortest (x : Binary64) : Option Decimal :=
  match x.classify with
  | .finite _ 0 _ => some ⟨0, 0⟩
  | .finite _ m e => some (shortestOf m e (m == Nat.pow 2 52 && x.biased > 1))
  | _ => none

end Binary64

/-- Decimal digits of a natural number. -/
def decimalDigits (n : Nat) : List Char := Nat.toDigits 10 n

namespace Decimal

/-- The text of `(-1)^negative * d` as a fraction: the digits are placed around the point when
the point falls within sixteen places to the right of the first digit or five to its left, and
otherwise written with one digit before the point and an exponent after `e`. -/
def render (negative : Bool) (d : Decimal) : String :=
  let ds := decimalDigits d.digits
  let len : Int := ds.length
  let point := len + d.exponent
  let body : List Char :=
    if d.digits = 0 then "0.0".toList
    else if 0 ≤ d.exponent ∧ point ≤ 16 then
      ds ++ List.replicate d.exponent.toNat '0' ++ ".0".toList
    else if 0 < point ∧ point ≤ 16 then
      ds.take point.toNat ++ '.' :: ds.drop point.toNat
    else if -5 < point ∧ point ≤ 0 then
      "0.".toList ++ List.replicate (-point).toNat '0' ++ ds
    else
      let mant := match ds with
        | [c] => [c]
        | c :: rest => c :: '.' :: rest
        | [] => []
      mant ++ 'e' :: (toString (point - 1)).toList
  String.ofList (if negative then '-' :: body else body)

end Decimal

end AuditTrail
