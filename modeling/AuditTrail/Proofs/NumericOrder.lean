import Mathlib.Algebra.Order.Field.Rat
import Mathlib.Order.WithBot
import Mathlib.Tactic.Order
import Mathlib.Tactic.Ring
import AuditTrail.Proofs.Evaluation

/-!
# Numbers in bounds

A bound compares a number with a number through doubles: a 32-bit integer and a double as they
are, a 64-bit integer rounded to the nearest double. This module says what that order is.

A double denotes a number among the rationals extended by both infinities (`Binary64.value?`),
and NaN denotes none. Two doubles compare as the numbers they denote (`Binary64.compare?_eq_some`),
and every integer of magnitude at most `2^53` is a double exactly (`Binary64.value?_ofInt`). So a
bound orders two numbers by their exact values as long as no 64-bit integer among them lies
beyond `2^53` in magnitude (`Value.FitsDouble`), and a range with numbers as bounds then holds
exactly where the path finds a number within them (`Filter.accepts_range_numbers`).

Past `2^53` neighbouring integers share a double: `2^53 + 1` lies halfway between `2^53` and
`2^53 + 2` and rounds to `2^53`, whose mantissa is even. The two 64-bit integers `2^53` and
`2^53 + 1` therefore compare equal, and a lower bound of `2^53 + 1` admits `2^53`
(`longBeyondDouble_meets_higher_bound`). The document store orders 64-bit integers exactly.

## Main definitions

* `Binary64.toExtended`, `Binary64.dyadic` — the numbers doubles denote
* `Binary64.value?` — the number a double denotes
* `Value.numberValue?` — the number a stored value holds
* `Value.FitsDouble` — the value is compared without rounding
* `Value.WithinBounds` — a value's number lies within the bounds

## Main results

* `Binary64.classify_encode_normal`, `Binary64.pack_normal` — encoding a normal number
* `Binary64.value?_ofInt` — integers up to `2^53` are exact
* `Binary64.compare?_eq_some` — doubles compare by value
* `Value.compareBound_number`, `Filter.accepts_range_numbers`
* `bounds_compare_numbers_by_value`
-/

namespace AuditTrail

namespace Binary64

/-! ### The numbers doubles denote -/

/-- A rational number among the rationals extended by both infinities. -/
def toExtended (q : ℚ) : WithBot (WithTop ℚ) := ((q : WithTop ℚ) : WithBot (WithTop ℚ))

@[simp] theorem toExtended_lt_toExtended {p q : ℚ} : toExtended p < toExtended q ↔ p < q := by
  simp [toExtended]

@[simp] theorem toExtended_inj {p q : ℚ} : toExtended p = toExtended q ↔ p = q := by
  simp [toExtended]

@[simp] theorem bot_lt_toExtended (q : ℚ) : ⊥ < toExtended q := WithBot.bot_lt_coe _

@[simp] theorem toExtended_lt_top (q : ℚ) : toExtended q < ⊤ :=
  WithBot.coe_lt_coe.mpr (WithTop.coe_lt_top q)

theorem toExtended_strictMono : StrictMono toExtended := fun _ _ h => toExtended_lt_toExtended.mpr h

theorem compare_toExtended (p q : ℚ) : compare (toExtended p) (toExtended q) = compare p q := by
  rw [← cmp_eq_compare, ← cmp_eq_compare, toExtended_strictMono.cmp_map_eq]

/-- `(-1)^negative * m * 2^e`, as a rational. -/
def dyadic (negative : Bool) (m : Nat) (e : Int) : ℚ := (if negative then -(m : ℚ) else m) * 2 ^ e

/-- The number a decoded double denotes; NaN denotes none. -/
def Class.value? : Class → Option (WithBot (WithTop ℚ))
  | .nan => none
  | .infinite negative => some (if negative then ⊥ else ⊤)
  | .finite negative m e => some (toExtended (dyadic negative m e))

/-- The number a double denotes. -/
def value? (x : Binary64) : Option (WithBot (WithTop ℚ)) := x.classify.value?

theorem dyadic_zero (negative : Bool) (e : Int) : dyadic negative 0 e = 0 := by
  cases negative <;> simp [dyadic]

theorem dyadic_true_neg {m : Nat} (hm : m ≠ 0) (e : Int) : dyadic true m e < 0 := by
  rw [dyadic, if_pos rfl, neg_mul, neg_lt_zero]
  exact mul_pos (by exact_mod_cast Nat.pos_of_ne_zero hm) (zpow_pos two_pos e)

theorem dyadic_false_pos {m : Nat} (hm : m ≠ 0) (e : Int) : 0 < dyadic false m e := by
  rw [dyadic, if_neg Bool.false_ne_true]
  exact mul_pos (by exact_mod_cast Nat.pos_of_ne_zero hm) (zpow_pos two_pos e)

/-- Shifting the mantissa up is lowering the exponent. -/
theorem dyadic_mul_pow (negative : Bool) (m k : Nat) (e : Int) :
    dyadic negative (m * Nat.pow 2 k) e = dyadic negative m (e + k) := by
  rw [dyadic, dyadic, zpow_add₀ two_ne_zero, zpow_natCast, Nat.pow_eq]
  cases negative <;> simp <;> ring

theorem dyadic_natAbs (n : Int) : dyadic (decide (n < 0)) n.natAbs 0 = n := by
  rw [dyadic, zpow_zero, mul_one, ← Int.cast_natCast]
  rcases Int.lt_or_le n 0 with h | h
  · rw [decide_eq_true h, if_pos rfl, show (n.natAbs : ℤ) = -n by omega, Int.cast_neg, neg_neg]
  · rw [decide_eq_false (not_lt.mpr h), if_neg Bool.false_ne_true, show (n.natAbs : ℤ) = n by omega]

/-! ### Encoding a number -/

theorem two_pow_11 : Nat.pow 2 11 = 2048 := by decide
theorem two_pow_52 : Nat.pow 2 52 = 4503599627370496 := by decide
theorem two_pow_53 : Nat.pow 2 53 = 9007199254740992 := by decide
theorem two_pow_63 : Nat.pow 2 63 = 9223372036854775808 := by decide

/-- The bit pattern of an encoding is its three fields side by side, when each fits its width. -/
theorem toNat_encode {negative : Bool} {b f : Nat} (hb : b < 2048) (hf : f < Nat.pow 2 52) :
    (encode negative b f).bits.toNat = (if negative then Nat.pow 2 63 else 0) + b * Nat.pow 2 52 + f := by
  simp only [encode, UInt64.toNat_ofNat', two_pow_52, two_pow_63] at hf ⊢
  apply Nat.mod_eq_of_lt
  split <;> omega

theorem sign_encode {negative : Bool} {b f : Nat} (hb : b < 2048) (hf : f < Nat.pow 2 52) :
    (encode negative b f).sign = negative := by
  rw [sign, toNat_encode hb hf, two_pow_52, two_pow_63]
  rw [two_pow_52] at hf
  cases negative <;> simp <;> omega

theorem biased_encode {negative : Bool} {b f : Nat} (hb : b < 2048) (hf : f < Nat.pow 2 52) :
    (encode negative b f).biased = b := by
  rw [biased, toNat_encode hb hf, two_pow_52, two_pow_63, two_pow_11]
  rw [two_pow_52] at hf
  cases negative <;> simp <;> omega

theorem fraction_encode {negative : Bool} {b f : Nat} (hb : b < 2048) (hf : f < Nat.pow 2 52) :
    (encode negative b f).fraction = f := by
  rw [fraction, toNat_encode hb hf, two_pow_52, two_pow_63]
  rw [two_pow_52] at hf
  cases negative <;> simp <;> omega

/-- A normal number decodes to its mantissa with the hidden bit restored. -/
theorem classify_encode_normal {negative : Bool} {b f : Nat} (hb0 : b ≠ 0) (hb : b < 2047)
    (hf : f < Nat.pow 2 52) :
    (encode negative b f).classify = .finite negative (f + Nat.pow 2 52) ((b : Int) - 1075) := by
  have hb' : b < 2048 := by omega
  simp [classify, biased_encode hb' hf, fraction_encode hb' hf, sign_encode hb' hf, hb0,
    Nat.ne_of_lt hb]

theorem classify_zero (negative : Bool) : (zero negative).classify = .finite negative 0 (-1074) := by
  cases negative <;> decide

/-- A mantissa of 53 bits packs as a normal number, when its exponent is in range. -/
theorem pack_normal {negative : Bool} {m : Nat} {q : Int} (hlo : Nat.pow 2 52 ≤ m)
    (hhi : m < Nat.pow 2 53) (hq : -1074 ≤ q) (hq' : q + 1075 < 2047) :
    pack negative m q = encode negative (q + 1075).toNat (m - Nat.pow 2 52) := by
  rw [two_pow_52, two_pow_53] at *
  simp only [pack, two_pow_52, two_pow_53, if_neg (show m ≠ 9007199254740992 by omega)]
  rw [if_neg (by omega), if_neg (by omega)]

/-! ### Integers that are doubles -/

theorem floorLog2_one {n : Nat} (hn : n ≠ 0) : floorLog2 n 1 = Nat.log2 n := by
  have hle := Nat.log2_self_le hn
  have h1 : Nat.log2 1 = 0 := by rw [Nat.log2_eq_iff (by decide)]; decide
  simp only [floorLog2, h1, Nat.zero_sub, Nat.sub_zero, Nat.one_mul]
  rw [if_pos (by simpa [Nat.pow_eq] using hle)]
  simp

/-- Below `2^53`, a positive integer is rounded without remainder: its binade less 52 is an
exponent of at most 0, and shifting the integer up that far leaves nothing to round. -/
theorem round_int_of_lt (negative : Bool) {a : Nat} (ha : a ≠ 0) (h : a < Nat.pow 2 53) :
    round negative a 1 0 =
      pack negative (a * Nat.pow 2 (52 - Nat.log2 a)) ((Nat.log2 a : Int) - 52) := by
  have hA : Nat.log2 a < 53 := (Nat.log2_lt ha).2 (by simpa [Nat.pow_eq] using h)
  unfold round
  rw [if_neg (by omega), floorLog2_one ha]
  have hq : max (-1074 : Int) (0 + (Nat.log2 a : Int) - 52) = (Nat.log2 a : Int) - 52 := by omega
  have hs : ((0 : Int) - ((Nat.log2 a : Int) - 52)).toNat = 52 - Nat.log2 a := by omega
  have hs' : (-((0 : Int) - ((Nat.log2 a : Int) - 52))).toNat = 0 := by omega
  have h0 : Nat.pow 2 0 = 1 := rfl
  simp only [hq, hs, hs', h0, Nat.mul_one, Nat.mod_one, Nat.div_one, Nat.mul_zero]
  rw [if_neg (by omega)]

/-- A positive integer below `2^53` is a normal double exactly. -/
theorem classify_round_int_of_lt (negative : Bool) {a : Nat} (ha : a ≠ 0) (h : a < Nat.pow 2 53) :
    ∃ m e, (round negative a 1 0).classify = .finite negative m e ∧
      dyadic negative m e = dyadic negative a 0 := by
  have hA : Nat.log2 a < 53 := (Nat.log2_lt ha).2 (by simpa [Nat.pow_eq] using h)
  -- the mantissa is `a` shifted up to 53 bits
  have hlo : Nat.pow 2 52 ≤ a * Nat.pow 2 (52 - Nat.log2 a) := by
    have hle := Nat.log2_self_le ha
    calc Nat.pow 2 52 = Nat.pow 2 (Nat.log2 a) * Nat.pow 2 (52 - Nat.log2 a) := by
          rw [Nat.pow_eq, Nat.pow_eq, Nat.pow_eq, ← Nat.pow_add]; congr 1; omega
      _ ≤ a * Nat.pow 2 (52 - Nat.log2 a) :=
          Nat.mul_le_mul_right _ (by simpa [Nat.pow_eq] using hle)
  have hhi : a * Nat.pow 2 (52 - Nat.log2 a) < Nat.pow 2 53 := by
    have hlt := Nat.lt_log2_self (n := a)
    calc a * Nat.pow 2 (52 - Nat.log2 a) < Nat.pow 2 (Nat.log2 a + 1) * Nat.pow 2 (52 - Nat.log2 a) :=
          Nat.mul_lt_mul_of_pos_right (by simpa [Nat.pow_eq] using hlt) (by simp [Nat.pow_eq])
      _ = Nat.pow 2 53 := by rw [Nat.pow_eq, Nat.pow_eq, Nat.pow_eq, ← Nat.pow_add]; congr 1; omega
  refine ⟨a * Nat.pow 2 (52 - Nat.log2 a), (Nat.log2 a : Int) - 52, ?_, ?_⟩
  · rw [round_int_of_lt negative ha h, pack_normal hlo hhi (by omega) (by omega),
      classify_encode_normal (by omega) (by omega) (by rw [two_pow_52, two_pow_53] at *; omega)]
    congr 1
    · omega
    · omega
  · rw [dyadic_mul_pow]
    congr 1
    omega

theorem classify_round_two_pow_53 (negative : Bool) :
    (round negative (Nat.pow 2 53) 1 0).classify = .finite negative (Nat.pow 2 52) 1 := by
  cases negative <;> decide +kernel

/-- Every natural number up to `2^53` rounds to a double that denotes it. -/
theorem classify_round_int (negative : Bool) {a : Nat} (h : a ≤ Nat.pow 2 53) :
    ∃ m e, (round negative a 1 0).classify = .finite negative m e ∧
      dyadic negative m e = dyadic negative a 0 := by
  rcases Nat.lt_or_ge a (Nat.pow 2 53) with hlt | hge
  · by_cases ha : a = 0
    · subst ha
      exact ⟨0, -1074, classify_zero negative, by simp [dyadic]⟩
    · exact classify_round_int_of_lt negative ha hlt
  · -- `2^53` itself carries into the next binade
    obtain rfl : a = Nat.pow 2 53 := by omega
    refine ⟨Nat.pow 2 52, 1, classify_round_two_pow_53 negative, ?_⟩
    rw [show Nat.pow 2 53 = Nat.pow 2 52 * Nat.pow 2 1 from rfl, dyadic_mul_pow]
    rfl

/-- Every integer of magnitude at most `2^53` is a double exactly. -/
theorem value?_ofInt {n : Int} (h : n.natAbs ≤ Nat.pow 2 53) : (ofInt n).value? = some (toExtended n) := by
  obtain ⟨m, e, hc, hv⟩ := classify_round_int (decide (n < 0)) h
  rw [value?, ofInt, hc, Class.value?, hv, dyadic_natAbs]

/-! ### The order of doubles -/

/-- Where an extended rational lies: at `-∞` (0), below zero (1), at zero (2), above zero (3),
or at `+∞` (4). -/
def bucket (v : WithBot (WithTop ℚ)) : Nat :=
  if v = ⊥ then 0 else if v < toExtended 0 then 1 else if v = toExtended 0 then 2
  else if v = ⊤ then 4 else 3

theorem bucket_mono {v w : WithBot (WithTop ℚ)} (h : v ≤ w) : bucket v ≤ bucket w := by
  by_contra hlt
  -- every way for `w` to lie in a lower bucket than `v` contradicts `v ≤ w`
  unfold bucket at hlt
  split_ifs at hlt <;> simp at hlt <;> order

/-- The buckets `-∞`, zero and `+∞` hold one value each. -/
theorem eq_of_bucket_eq {v w : WithBot (WithTop ℚ)} (h : bucket v = bucket w) (h1 : bucket v ≠ 1)
    (h3 : bucket v ≠ 3) : v = w := by
  unfold bucket at h h1 h3
  split_ifs at h h1 h3 <;> simp_all

theorem bucket_toExtended (q : ℚ) :
    bucket (toExtended q) = if q < 0 then 1 else if q = 0 then 2 else 3 := by
  have hbot : toExtended q ≠ ⊥ := (bot_lt_toExtended q).ne'
  have htop : toExtended q ≠ ⊤ := (toExtended_lt_top q).ne
  simp [bucket, hbot, htop]

/-- The coarse rank that the order of doubles starts from is the bucket of the value. -/
theorem rank_eq_bucket {c : Class} {v : WithBot (WithTop ℚ)} (h : c.value? = some v) :
    rank c = bucket v := by
  cases c with
  | nan => cases h
  | infinite negative =>
    cases negative <;> simp only [Class.value?, Option.some.injEq] at h <;> subst h
    · simp [rank, bucket, (toExtended_lt_top 0).ne']
    · simp [rank, bucket]
  | finite negative m e =>
    simp only [Class.value?, Option.some.injEq] at h
    subst h
    rw [bucket_toExtended]
    by_cases hm : m = 0
    · cases negative <;> simp [rank, hm, dyadic_zero]
    · cases negative
      · simp [rank, hm, (dyadic_false_pos hm e).not_gt, (dyadic_false_pos hm e).ne']
      · simp [rank, hm, dyadic_true_neg hm e]

/-- Ranks decide the order of two values unless both are finite and non-zero of one sign. -/
theorem compare_rank {a b : Class} {va vb : WithBot (WithTop ℚ)} (ha : a.value? = some va)
    (hb : b.value? = some vb) (h : rank a ≠ rank b ∨ (rank a ≠ 1 ∧ rank a ≠ 3)) :
    compare (rank a) (rank b) = compare va vb := by
  rw [rank_eq_bucket ha, rank_eq_bucket hb] at h ⊢
  rcases lt_trichotomy (bucket va) (bucket vb) with hlt | heq | hgt
  · rw [compare_lt_iff_lt.mpr hlt,
      compare_lt_iff_lt.mpr (lt_of_not_ge fun hle => absurd (bucket_mono hle) (by omega))]
  · rw [compare_eq_iff_eq.mpr heq, compare_eq_iff_eq.mpr (eq_of_bucket_eq heq (by omega) (by omega))]
  · rw [compare_gt_iff_gt.mpr hgt,
      compare_gt_iff_gt.mpr (lt_of_not_ge fun hle => absurd (bucket_mono hle) (by omega))]

/-- Magnitudes compare as the numbers they denote: both are scaled by the smaller power of two. -/
theorem compareMagnitude_eq (m : Nat) (e : Int) (n : Nat) (f : Int) :
    compareMagnitude m e n f = compare (dyadic false m e) (dyadic false n f) := by
  have hscale : ∀ (k : Nat) (g h : Int), (h - g).toNat + min g h = h →
      dyadic false k h = ((k * Nat.pow 2 (h - g).toNat : Nat) : ℚ) * 2 ^ min g h := by
    intro k g h hgh
    rw [dyadic, if_neg Bool.false_ne_true, Nat.cast_mul, Nat.pow_eq, Nat.cast_pow, Nat.cast_ofNat,
      mul_assoc, ← zpow_natCast, ← zpow_add₀ two_ne_zero, hgh]
  have hmono : StrictMono fun k : Nat => (k : ℚ) * 2 ^ min f e := fun _ _ hlt =>
    mul_lt_mul_of_pos_right (Nat.cast_lt.mpr hlt) (zpow_pos two_pos _)
  rw [compareMagnitude, hscale m f e (by omega), hscale n e f (by omega), min_comm e f,
    ← cmp_eq_compare, ← cmp_eq_compare, hmono.cmp_map_eq]

/-- Two non-positive numbers compare as their magnitudes the other way round. -/
theorem compare_dyadic_true (m : Nat) (e : Int) (n : Nat) (f : Int) :
    compare (dyadic true m e) (dyadic true n f) = compare (dyadic false n f) (dyadic false m e) := by
  have hneg : ∀ k g, dyadic true k g = -dyadic false k g := fun k g => by simp [dyadic]
  have hanti : StrictAnti fun q : ℚ => -q := fun _ _ hlt => neg_lt_neg hlt
  rw [hneg, hneg, ← cmp_eq_compare, ← cmp_eq_compare, hanti.cmp_map_eq]

/-- Doubles compare as the numbers they denote, whenever neither is NaN. -/
theorem compare?_eq_some {x y : Binary64} {vx vy : WithBot (WithTop ℚ)} (hx : x.value? = some vx)
    (hy : y.value? = some vy) : x.compare? y = some (compare vx vy) := by
  unfold value? at hx hy
  unfold compare?
  generalize x.classify = a at hx ⊢
  generalize y.classify = b at hy ⊢
  -- infinities, zeros and opposite signs are told apart by rank, the rest by magnitude
  cases a with
  | nan => cases hx
  | infinite s =>
    cases b with
    | nan => cases hy
    | infinite t => exact congrArg some (compare_rank hx hy (by cases s <;> cases t <;> decide))
    | finite t n f => exact congrArg some (compare_rank hx hy (.inr (by cases s <;> decide)))
  | finite s m e =>
    cases b with
    | nan => cases hy
    | infinite t =>
      refine congrArg some (compare_rank hx hy (.inl ?_))
      cases s <;> cases t <;> simp only [rank] <;> split_ifs <;> decide
    | finite t n f =>
      have hrank := fun h => congrArg some (compare_rank hx hy h)
      simp only [Class.value?, Option.some.injEq] at hx hy
      cases s <;> cases t <;> dsimp only
      · split_ifs with h0
        · exact hrank (by simp only [rank]; split_ifs <;> simp_all)
        · rw [← hx, ← hy, compare_toExtended, compareMagnitude_eq]
      · exact hrank (by simp only [rank]; split_ifs <;> decide)
      · exact hrank (by simp only [rank]; split_ifs <;> decide)
      · split_ifs with h0
        · exact hrank (by simp only [rank]; split_ifs <;> simp_all)
        · rw [← hx, ← hy, compare_toExtended, compare_dyadic_true, compareMagnitude_eq]

/-- A NaN compares with nothing. -/
theorem compare?_eq_none {x : Binary64} (hx : x.value? = none) (y : Binary64) : x.compare? y = none := by
  unfold value? at hx
  unfold compare?
  generalize x.classify = a at hx ⊢
  cases a with
  | nan => rfl
  | infinite s => cases hx
  | finite s m e => cases hx

end Binary64

namespace Value

/-! ### Numbers as bounds -/

/-- The number a value holds: an integer of either width exactly, a double as what it denotes.
A NaN, and a value of any other kind, holds none. -/
def numberValue? : Value → Option (WithBot (WithTop ℚ))
  | .int32 n => some (Binary64.toExtended n.toInt)
  | .int64 n => some (Binary64.toExtended n.toInt)
  | .double x => x.value?
  | _ => none

/-- The value is compared without rounding: anything but a 64-bit integer beyond `2^53` in
magnitude. -/
def FitsDouble : Value → Prop
  | .int64 n => n.toInt.natAbs ≤ Nat.pow 2 53
  | _ => True

instance (v : Value) : Decidable v.FitsDouble :=
  match v with
  | .int64 n => inferInstanceAs (Decidable (n.toInt.natAbs ≤ Nat.pow 2 53))
  | .null | .bool _ | .int32 _ | .double _ | .str _ | .oid _ | .date _ | .arr _ | .doc _ =>
    isTrue trivial

/-- The number a value holds lies within the bounds that are present: at least the lower one,
at most the upper one. -/
def WithinBounds (v : Value) (lo hi : Option Value) : Prop :=
  (∀ b ∈ lo, ∃ x y, v.numberValue? = some x ∧ b.numberValue? = some y ∧ y ≤ x) ∧
    (∀ b ∈ hi, ∃ x y, v.numberValue? = some x ∧ b.numberValue? = some y ∧ x ≤ y)

theorem compareBound_of_asDouble? {a b : Value} {y : Binary64} (hb : b.asDouble? = some y) :
    compareBound a b = a.asDouble?.bind (·.compare? y) := by
  cases b <;> simp only [asDouble?, reduceCtorEq, Option.some.injEq] at hb <;> subst hb <;>
    cases a <;> rfl

theorem asDouble?_of_numberValue? {v : Value} {x : WithBot (WithTop ℚ)}
    (h : v.numberValue? = some x) : ∃ y, v.asDouble? = some y := by
  cases v <;> simp only [numberValue?, reduceCtorEq] at h <;> exact ⟨_, rfl⟩

/-- A value that fits reaches the comparison as a double that denotes its number. -/
theorem value?_of_asDouble? {v : Value} {x : Binary64} (hv : v.FitsDouble)
    (h : v.asDouble? = some x) : x.value? = v.numberValue? := by
  cases v <;> simp only [asDouble?, reduceCtorEq, Option.some.injEq] at h <;> subst h
  case int32 n =>
    have hlo := n.le_toInt
    have hhi := n.toInt_lt
    rw [Binary64.value?_ofInt (by rw [Binary64.two_pow_53]; omega)]
    rfl
  case int64 n =>
    rw [Binary64.value?_ofInt hv]
    rfl
  case double x => rfl

/-- Against a number, a value compares as the number it holds, and one that holds no number does
not compare, provided neither is a 64-bit integer beyond `2^53` in magnitude. -/
theorem compareBound_number {v b : Value} {y : WithBot (WithTop ℚ)} (hb : b.numberValue? = some y)
    (hfv : v.FitsDouble) (hfb : b.FitsDouble) :
    compareBound v b = v.numberValue?.map (compare · y) := by
  obtain ⟨yb, hyb⟩ := asDouble?_of_numberValue? hb
  have hy : yb.value? = some y := (value?_of_asDouble? hfb hyb).trans hb
  rw [compareBound_of_asDouble? hyb]
  cases hv : v.asDouble? with
  | none =>
    -- a value that holds a number reaches the comparison as a double
    cases hx : v.numberValue? with
    | none => rfl
    | some x => obtain ⟨_, h⟩ := asDouble?_of_numberValue? hx; simp [hv] at h
  | some xv =>
    rw [← value?_of_asDouble? hfv hv, Option.bind_some]
    cases hx : xv.value? with
    | none => exact Binary64.compare?_eq_none hx yb
    | some x => exact Binary64.compare?_eq_some hx hy

theorem atLeast_number {v b : Value} {y : WithBot (WithTop ℚ)} (hb : b.numberValue? = some y)
    (hfv : v.FitsDouble) (hfb : b.FitsDouble) : v.atLeast b = v.numberValue?.any (y ≤ ·) := by
  rw [atLeast, compareBound_number hb hfv hfb]
  cases v.numberValue? with
  | none => rfl
  | some x =>
    rcases lt_trichotomy x y with h | rfl | h
    · simp [compare_lt_iff_lt.mpr h, not_le.mpr h]
    · simp
    · simp [compare_gt_iff_gt.mpr h, h.le]

theorem atMost_number {v b : Value} {y : WithBot (WithTop ℚ)} (hb : b.numberValue? = some y)
    (hfv : v.FitsDouble) (hfb : b.FitsDouble) : v.atMost b = v.numberValue?.any (· ≤ y) := by
  rw [atMost, compareBound_number hb hfv hfb]
  cases v.numberValue? with
  | none => rfl
  | some x =>
    rcases lt_trichotomy x y with h | rfl | h
    · simp [compare_lt_iff_lt.mpr h, h.le]
    · simp
    · simp [compare_gt_iff_gt.mpr h, not_le.mpr h]

theorem all_atLeast_iff {v : Value} {lo : Option Value} (hfv : v.FitsDouble)
    (hlo : ∀ b ∈ lo, b.FitsDouble ∧ b.numberValue?.isSome) :
    lo.all v.atLeast = true ↔
      ∀ b ∈ lo, ∃ x y, v.numberValue? = some x ∧ b.numberValue? = some y ∧ y ≤ x := by
  cases lo with
  | none => simp
  | some b =>
    obtain ⟨hfb, y, hy⟩ := (hlo b rfl).imp_right Option.isSome_iff_exists.mp
    cases hx : v.numberValue? <;> simp [atLeast_number hy hfv hfb, hx, hy]

theorem all_atMost_iff {v : Value} {hi : Option Value} (hfv : v.FitsDouble)
    (hhi : ∀ b ∈ hi, b.FitsDouble ∧ b.numberValue?.isSome) :
    hi.all v.atMost = true ↔
      ∀ b ∈ hi, ∃ x y, v.numberValue? = some x ∧ b.numberValue? = some y ∧ x ≤ y := by
  cases hi with
  | none => simp
  | some b =>
    obtain ⟨hfb, y, hy⟩ := (hhi b rfl).imp_right Option.isSome_iff_exists.mp
    cases hx : v.numberValue? <;> simp [atMost_number hy hfv hfb, hx, hy]

end Value

namespace Filter

/-- With numbers as bounds, a range holds exactly where the path finds a value whose number lies
within them, as long as no 64-bit integer on either side lies beyond `2^53` in magnitude. -/
theorem accepts_range_numbers {d : Document} {p : String} {lo hi : Option Value}
    (hlo : ∀ b ∈ lo, b.FitsDouble ∧ b.numberValue?.isSome)
    (hhi : ∀ b ∈ hi, b.FitsDouble ∧ b.numberValue?.isSome)
    (hv : ∀ v ∈ d.lookupPath p, v.FitsDouble) :
    (range p lo hi).accepts d = true ↔ ∃ v, d.lookupPath p = some v ∧ v.WithinBounds lo hi := by
  rw [accepts_range]
  cases hl : d.lookupPath p with
  | none => simp
  | some v =>
    have hfv : v.FitsDouble := hv v hl
    simp only [rangeTest, Bool.and_eq_true, Option.some.injEq, exists_eq_left', Value.WithinBounds,
      Value.all_atLeast_iff hfv hlo, Value.all_atMost_iff hfv hhi]

end Filter

/-! ### The order of bounds -/

/-- Numbers compare in bounds by their exact values, integers of either width and doubles alike,
as long as no 64-bit integer among them lies beyond `2^53` in magnitude; a range with such numbers
as bounds holds exactly where the path finds a number within them. -/
theorem bounds_compare_numbers_by_value (a b : Value) {va vb : WithBot (WithTop ℚ)}
    (ha : a.numberValue? = some va) (hb : b.numberValue? = some vb) (hfa : a.FitsDouble)
    (hfb : b.FitsDouble) :
    Value.compareBound a b = some (compare va vb) ∧
      ∀ (d : Document) (p : String) (lo hi : Option Value),
        (∀ b ∈ lo, b.FitsDouble ∧ b.numberValue?.isSome) →
        (∀ b ∈ hi, b.FitsDouble ∧ b.numberValue?.isSome) →
        (∀ v ∈ d.lookupPath p, v.FitsDouble) →
        ((Filter.range p lo hi).accepts d = true ↔
          ∃ v, d.lookupPath p = some v ∧ v.WithinBounds lo hi) := by
  refine ⟨?_, fun d p lo hi hlo hhi hv => Filter.accepts_range_numbers hlo hhi hv⟩
  rw [Value.compareBound_number hb hfa hfb, ha]
  rfl

/-- `2^53` as a 64-bit integer still compares exactly: above the 32-bit integer 1. -/
theorem longAtDoublePrecision_above_one :
    ((Value.int64 9007199254740992).numberValue? = some (Binary64.toExtended 9007199254740992) ∧
      (Value.int32 1).numberValue? = some (Binary64.toExtended 1) ∧
      (Value.int64 9007199254740992).FitsDouble ∧ (Value.int32 1).FitsDouble) ∧
    Value.compareBound (.int64 9007199254740992) (.int32 1) =
      some (compare (Binary64.toExtended 9007199254740992) (Binary64.toExtended 1)) := by
  have ha : (Value.int64 9007199254740992).numberValue? =
      some (Binary64.toExtended 9007199254740992) := by
    simp [Value.numberValue?]
  have hb : (Value.int32 1).numberValue? = some (Binary64.toExtended 1) := by
    simp [Value.numberValue?]
  have hfa : (Value.int64 9007199254740992).FitsDouble := by decide
  exact ⟨⟨ha, hb, hfa, trivial⟩, (bounds_compare_numbers_by_value _ _ ha hb hfa trivial).1⟩

/-- The 64-bit integers `2^53` and `2^53 + 1` reach the comparison as one double, so they compare
equal, and a lower bound of `2^53 + 1` admits `2^53`. -/
theorem longBeyondDouble_meets_higher_bound :
    (9007199254740992 : Int64).toInt < (9007199254740993 : Int64).toInt ∧
    Value.compareBound (.int64 9007199254740992) (.int64 9007199254740993) = some .eq ∧
    (Filter.range "n" (some (.int64 9007199254740993)) none).accepts
      [("n", .int64 9007199254740992)] = true :=
  ⟨by decide, by decide +kernel, by decide +kernel⟩

end AuditTrail
