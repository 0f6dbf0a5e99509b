/-
**Rounding depends on values only.** Rounding starts from a numerator and a denominator, but what
comes of it is decided by their ratio.

* `BinaryFormat.exponentFor_eq`: the exponent is that of the ratio's leading bit, so it is the same
  for all ways to write the ratio; `BinaryFormat.nearest_congr` and `ofRatio_congr` follow.
* `magnitude_ofRatio`: a ratio that is a significand of full length times a power of two within the
  range is held exactly; `magnitude_ofInt` says so of the integers up to `2 ^ 53`.
* `mul_eq`: a product of finite numbers is their exact product, rounded once.
-/

import Mathlib.Algebra.Order.Field.Power
import Mathlib.Data.Int.Log
import Mathlib.Data.Rat.Floor
import Mathlib.Tactic.GCongr
import Mathlib.Tactic.NormNum
import Mathlib.Tactic.Positivity
import Mathlib.Tactic.Ring
import TwinStore.Binary64.Rounding

namespace TwinStore

namespace BinaryFormat

theorem two_ne_zero : (2 : ℚ) ≠ 0 := by norm_num

/-! ### The exponent -/

/-- A ratio divided by a power of two is that quotient. -/
theorem divideByPower_ratio (numerator denominator : Nat) (exponent : Int) :
    ((divideByPower numerator denominator exponent).1 : ℚ) /
        (divideByPower numerator denominator exponent).2 =
      numerator / denominator / 2 ^ exponent := by
  unfold divideByPower
  split
  · next up =>
    have power : (2 : ℚ) ^ exponent = 2 ^ exponent.toNat := by
      rw [← zpow_natCast, Int.toNat_of_nonneg up]
    rw [power, Nat.cast_mul, Nat.cast_pow, Nat.cast_ofNat, div_div]
  · next down =>
    have power : (2 : ℚ) ^ exponent = (2 ^ (-exponent).toNat)⁻¹ := by
      rw [← zpow_natCast, Int.toNat_of_nonneg (by omega), zpow_neg, inv_inv]
    rw [power, Nat.cast_mul, Nat.cast_pow, Nat.cast_ofNat, div_inv_eq_mul, div_mul_eq_mul_div]

theorem divideByPower_pos (numerator : Nat) {denominator : Nat} (positive : 0 < denominator)
    (exponent : Int) : 0 < (divideByPower numerator denominator exponent).2 := by
  unfold divideByPower
  split
  · exact Nat.mul_pos positive (Nat.two_pow_pos _)
  · exact positive

section Ratios

variable {numerator denominator dividend divisor : Nat}

/-- The lengths of numerator and denominator enclose the ratio. -/
theorem ratio_bounds (some_ : 0 < numerator) (positive : 0 < denominator) :
    (2 : ℚ) ^ ((numerator.log2 : Int) - denominator.log2 - 1) ≤ numerator / denominator ∧
      (numerator / denominator : ℚ) < 2 ^ ((numerator.log2 : Int) - denominator.log2 + 1) := by
  have below : ((2 : ℚ) ^ numerator.log2) ≤ numerator := by
    exact_mod_cast Nat.log2_self_le some_.ne'
  have above : (numerator : ℚ) < 2 ^ (numerator.log2 + 1) := by
    exact_mod_cast Nat.lt_log2_self
  have low : ((2 : ℚ) ^ denominator.log2) ≤ denominator := by
    exact_mod_cast Nat.log2_self_le positive.ne'
  have high : (denominator : ℚ) < 2 ^ (denominator.log2 + 1) := by
    exact_mod_cast Nat.lt_log2_self
  have unit : (0 : ℚ) < denominator := Nat.cast_pos.mpr positive
  constructor
  · rw [le_div_iff₀ unit]
    calc (2 : ℚ) ^ ((numerator.log2 : Int) - denominator.log2 - 1) * denominator
        ≤ 2 ^ ((numerator.log2 : Int) - denominator.log2 - 1) * 2 ^ (denominator.log2 + 1) := by
          gcongr
      _ = 2 ^ numerator.log2 := by
          rw [← zpow_natCast, ← zpow_add₀ two_ne_zero, ← zpow_natCast]
          congr 1
          push_cast
          ring
      _ ≤ numerator := below
  · rw [div_lt_iff₀ unit]
    calc (numerator : ℚ) < 2 ^ (numerator.log2 + 1) := above
      _ = 2 ^ ((numerator.log2 : Int) - denominator.log2 + 1) * 2 ^ denominator.log2 := by
          rw [← zpow_natCast, ← zpow_natCast, ← zpow_add₀ two_ne_zero]
          congr 1
          push_cast
          ring
      _ ≤ 2 ^ ((numerator.log2 : Int) - denominator.log2 + 1) * denominator := by
          gcongr

/-- A ratio between two successive powers of two. -/
theorem log_eq {ratio : ℚ} {exponent : Int} (low : 2 ^ exponent ≤ ratio)
    (high : ratio < 2 ^ (exponent + 1)) : Int.log 2 ratio = exponent := by
  have positive : 0 < ratio := lt_of_lt_of_le (zpow_pos (by norm_num) _) low
  have atLeast :=
    (Int.zpow_le_iff_le_log (b := 2) (by norm_num) positive).mp (by rwa [Nat.cast_ofNat])
  have atMost :=
    (Int.lt_zpow_iff_log_lt (b := 2) (by norm_num) positive).mp (by rwa [Nat.cast_ofNat])
  omega

/-- **The exponent is that of the leading bit.** The lengths of numerator and denominator leave two
candidates; a test division tells which one it is. -/
theorem exponentFor_eq (format : BinaryFormat) (some_ : 0 < numerator)
    (positive : 0 < denominator) :
    format.exponentFor numerator denominator =
      max format.leastExponent
        (Int.log 2 (numerator / denominator : ℚ) + 1 - format.precision) := by
  obtain ⟨low, high⟩ := ratio_bounds some_ positive
  unfold exponentFor
  simp only
  generalize guessed : (numerator.log2 : Int) - denominator.log2 - format.precision = guess
  have scaled := divideByPower_ratio numerator denominator guess
  have unit := divideByPower_pos numerator positive guess
  generalize divideByPower numerator denominator guess = parts at scaled unit
  have fits : parts.1 / parts.2 < 2 ^ format.precision ↔
      (numerator / denominator : ℚ) < 2 ^ ((numerator.log2 : Int) - denominator.log2) := by
    have sum : (numerator.log2 : Int) - denominator.log2 = format.precision + guess := by omega
    rw [Nat.div_lt_iff_lt_mul unit, ← Nat.cast_lt (α := ℚ), Nat.cast_mul,
      ← div_lt_iff₀ (Nat.cast_pos.mpr unit), scaled, div_lt_iff₀ (zpow_pos (by norm_num) _),
      Nat.cast_pow, ← zpow_natCast, Nat.cast_ofNat, ← zpow_add₀ two_ne_zero, sum]
  congr 1
  split
  · next short =>
    rw [log_eq low (by rw [sub_add_cancel]; exact fits.mp short)]
    omega
  · next long =>
    rw [log_eq (not_lt.mp (mt fits.mpr long)) high]
    omega

/-! ### Rounding -/

theorem roundRatio_scale (numerator denominator : Nat) {factor : Nat} (positive : 0 < factor) :
    roundRatio (numerator * factor) (denominator * factor) = roundRatio numerator denominator := by
  have less (left right : Nat) : left * factor < 2 * (right * factor) ↔ left < 2 * right := by
    rw [← mul_assoc, Nat.mul_lt_mul_right positive]
  have same (left right : Nat) : 2 * (left * factor) = right * factor ↔ 2 * left = right := by
    rw [← mul_assoc, Nat.mul_left_inj positive.ne']
  unfold roundRatio
  simp only [Nat.mul_div_mul_right _ _ positive, Nat.mul_mod_mul_right, less, same]

theorem mul_eq_mul_of_ratio (positive : 0 < denominator) (unit : 0 < divisor)
    (same : (numerator / denominator : ℚ) = dividend / divisor) :
    numerator * divisor = dividend * denominator := by
  have nonzero : (denominator : ℚ) ≠ 0 := Nat.cast_ne_zero.mpr positive.ne'
  have unit_ : (divisor : ℚ) ≠ 0 := Nat.cast_ne_zero.mpr unit.ne'
  rw [div_eq_div_iff nonzero unit_] at same
  exact_mod_cast same

theorem roundRatio_congr (positive : 0 < denominator) (unit : 0 < divisor)
    (same : (numerator / denominator : ℚ) = dividend / divisor) :
    roundRatio numerator denominator = roundRatio dividend divisor := by
  rw [← roundRatio_scale numerator denominator unit, mul_eq_mul_of_ratio positive unit same,
    mul_comm denominator, roundRatio_scale dividend divisor positive]

/-- **Equal ratios are rounded alike.** -/
theorem nearest_congr (format : BinaryFormat) (some_ : 0 < numerator) (positive : 0 < denominator)
    (others : 0 < dividend) (unit : 0 < divisor)
    (same : (numerator / denominator : ℚ) = dividend / divisor) :
    format.nearest numerator denominator = format.nearest dividend divisor := by
  have exponents : format.exponentFor numerator denominator =
      format.exponentFor dividend divisor := by
    rw [exponentFor_eq format some_ positive, exponentFor_eq format others unit, same]
  unfold nearest
  simp only [exponents]
  congr 1
  refine roundRatio_congr (divideByPower_pos _ positive _) (divideByPower_pos _ unit _) ?_
  rw [divideByPower_ratio, divideByPower_ratio, same]

end Ratios

end BinaryFormat

namespace Binary64

open BinaryFormat (two_ne_zero)

variable {numerator denominator dividend divisor : Nat}

/-- **The number nearest to a ratio** depends on the value of the ratio only. -/
theorem ofRatio_congr (negative : Bool) (positive : 0 < denominator) (unit : 0 < divisor)
    (same : (numerator / denominator : ℚ) = dividend / divisor) :
    ofRatio negative numerator denominator = ofRatio negative dividend divisor := by
  have crossed := BinaryFormat.mul_eq_mul_of_ratio positive unit same
  unfold ofRatio
  rcases Nat.eq_zero_or_pos numerator with rfl | some_
  · have zero : dividend = 0 := by
      rw [Nat.zero_mul] at crossed
      exact (Nat.mul_eq_zero.mp crossed.symm).resolve_right positive.ne'
    rw [if_pos rfl, if_pos zero]
  · have others : 0 < dividend := Nat.pos_of_mul_pos_right (crossed ▸ Nat.mul_pos some_ unit)
    rw [if_neg some_.ne', if_neg others.ne',
      BinaryFormat.double.nearest_congr some_ positive others unit same]

/-! ### Numbers that are held exactly -/

/-- The absolute value of a finite number. -/
def magnitude (number : Binary64) : ℚ := number.significand * 2 ^ number.exponent

/-- A sign and the bits below it are found again. -/
theorem ofMagnitude_bits (negative : Bool) {bits : Nat} (small : bits < 2 ^ 63) :
    (ofMagnitude negative bits).isNegative = negative ∧
      (ofMagnitude negative bits).magnitudeBits = bits := by
  have held : (ofMagnitude negative bits).bits.toNat = (if negative then 2 ^ 63 else 0) + bits := by
    refine UInt64.toNat_ofNat_of_lt' ?_
    cases negative <;> simp [UInt64.size] <;> omega
  unfold isNegative magnitudeBits
  rw [held]
  cases negative
  · simp only [Bool.false_eq_true, if_false, decide_eq_false_iff_not]
    omega
  · simp only [if_true, decide_eq_true_eq]
    omega

/-- So are a significand of full length and an exponent within the range. -/
theorem parts_ofMagnitude (negative : Bool) {significand lifted : Nat}
    (full : 2 ^ 52 ≤ significand) (short : significand < 2 ^ 53) (inRange : lifted < 2046) :
    (ofMagnitude negative (lifted * 2 ^ 52 + significand)).isNegative = negative ∧
    (ofMagnitude negative (lifted * 2 ^ 52 + significand)).isFinite = true ∧
    (ofMagnitude negative (lifted * 2 ^ 52 + significand)).significand = significand ∧
    (ofMagnitude negative (lifted * 2 ^ 52 + significand)).exponent = lifted - 1074 := by
  have small : lifted * 2 ^ 52 + significand < 2 ^ 63 := by omega
  obtain ⟨sign, bits⟩ := ofMagnitude_bits negative small
  refine ⟨sign, ?_, ?_, ?_⟩
  · rw [isFinite, bits, infinityBits, decide_eq_true_eq]
    omega
  · rw [Binary64.significand, exponentBits, fractionBits, bits]
    split <;> omega
  · rw [Binary64.exponent, exponentBits, bits]
    omega

/-- **A ratio that is held exactly**: a significand of full length at an exponent within the
range. -/
theorem magnitude_ofRatio (negative : Bool) {significand lifted : Nat}
    (positive : 0 < denominator) (full : 2 ^ 52 ≤ significand) (short : significand < 2 ^ 53)
    (inRange : lifted < 2046)
    (same : (numerator / denominator : ℚ) = significand * 2 ^ ((lifted : Int) - 1074)) :
    (ofRatio negative numerator denominator).isNegative = negative ∧
      (ofRatio negative numerator denominator).isFinite = true ∧
      (ofRatio negative numerator denominator).magnitude = numerator / denominator := by
  have unit : (0 : ℚ) < 2 ^ ((lifted : Int) - 1074) := zpow_pos (by norm_num) _
  have some_ : 0 < numerator := by
    rcases Nat.eq_zero_or_pos numerator with rfl | some_
    · rw [Nat.cast_zero, zero_div, eq_comm, mul_eq_zero, Nat.cast_eq_zero] at same
      rcases same with none_ | none_
      · omega
      · exact absurd none_ unit.ne'
    · exact some_
  have leading : Int.log 2 (numerator / denominator : ℚ) = 52 + (lifted - 1074) := by
    refine BinaryFormat.log_eq ?_ ?_
    · rw [same, zpow_add₀ two_ne_zero, mul_le_mul_iff_left₀ unit]
      exact_mod_cast full
    · rw [same, show (52 + (lifted - 1074) + 1 : Int) = 53 + (lifted - 1074) by ring,
        zpow_add₀ two_ne_zero, mul_lt_mul_iff_left₀ unit]
      exact_mod_cast short
  have exponent : BinaryFormat.double.exponentFor numerator denominator = lifted - 1074 := by
    rw [BinaryFormat.exponentFor_eq _ some_ positive, leading, BinaryFormat.double]
    simp only
    omega
  have rounded : BinaryFormat.double.nearest numerator denominator =
      (significand, (lifted : Int) - 1074) := by
    unfold BinaryFormat.nearest
    simp only [exponent]
    congr 1
    have scaled := BinaryFormat.divideByPower_ratio numerator denominator ((lifted : Int) - 1074)
    rw [same, mul_div_cancel_right₀ _ unit.ne', ← div_one (significand : ℚ), ← Nat.cast_one]
      at scaled
    rw [BinaryFormat.roundRatio_congr (BinaryFormat.divideByPower_pos _ positive _) one_pos scaled]
    simp [BinaryFormat.roundRatio, Nat.mod_one]
  have numbers : ofRatio negative numerator denominator =
      ofMagnitude negative (lifted * 2 ^ 52 + significand) := by
    unfold ofRatio
    rw [if_neg some_.ne', rounded]
    simp only [sub_add_cancel, Int.toNat_natCast]
    rw [if_pos]
    unfold infinityBits
    omega
  obtain ⟨sign, finite, digits, power⟩ := parts_ofMagnitude negative full short inRange
  rw [numbers]
  exact ⟨sign, finite, by rw [magnitude, digits, power, same]⟩

/-- A natural number with at most fifty-three bits in front of its zeros is held exactly. -/
theorem magnitude_ofRatio_of_short (negative : Bool) {short power : Nat} (some_ : 0 < short)
    (few : short ≤ 2 ^ 53) (inRange : power ≤ 900) :
    (ofRatio negative (short * 2 ^ power) 1).isNegative = negative ∧
      (ofRatio negative (short * 2 ^ power) 1).isFinite = true ∧
      (ofRatio negative (short * 2 ^ power) 1).magnitude = short * 2 ^ power := by
  obtain ⟨significand, lifted, full, fits, bound, same⟩ : ∃ significand lifted : Nat,
      2 ^ 52 ≤ significand ∧ significand < 2 ^ 53 ∧ lifted < 2046 ∧
        ((short * 2 ^ power : Nat) / (1 : Nat) : ℚ) =
          significand * 2 ^ ((lifted : Int) - 1074) := by
    rcases few.eq_or_lt with rfl | less
    · refine ⟨2 ^ 52, 1075 + power, le_rfl, by norm_num, by omega, ?_⟩
      push_cast
      rw [div_one, show (1075 + power - 1074 : Int) = 1 + power by ring, zpow_add₀ two_ne_zero,
        zpow_natCast]
      ring
    · -- The significand is filled up with zeros, which the exponent takes back.
      have digits : short.log2 < 53 := (Nat.log2_lt some_.ne').mpr less
      have below := Nat.log2_self_le some_.ne'
      have above : short < 2 ^ (short.log2 + 1) := Nat.lt_log2_self
      refine ⟨short * 2 ^ (52 - short.log2), 1022 + short.log2 + power, ?_, ?_, by omega, ?_⟩
      · calc 2 ^ 52 = 2 ^ short.log2 * 2 ^ (52 - short.log2) := by
              rw [← pow_add]
              congr 1
              omega
          _ ≤ short * 2 ^ (52 - short.log2) := Nat.mul_le_mul_right _ below
      · calc short * 2 ^ (52 - short.log2) < 2 ^ (short.log2 + 1) * 2 ^ (52 - short.log2) :=
              Nat.mul_lt_mul_of_pos_right above (Nat.two_pow_pos _)
          _ = 2 ^ 53 := by
              rw [← pow_add]
              congr 1
              omega
      · push_cast
        rw [div_one, mul_assoc, ← zpow_natCast, ← zpow_natCast, ← zpow_add₀ two_ne_zero]
        congr 2
        omega
  obtain ⟨sign, finite, held⟩ := magnitude_ofRatio negative one_pos full fits bound same
  exact ⟨sign, finite, held.trans (by push_cast; rw [div_one])⟩

/-- **Integers up to `2 ^ 53` are held exactly.** -/
theorem magnitude_ofInt {value : Int} (nonzero : value ≠ 0) (short : value.natAbs ≤ 2 ^ 53) :
    (ofInt value).isNegative = decide (value < 0) ∧ (ofInt value).isFinite = true ∧
      (ofInt value).magnitude = value.natAbs := by
  have held := magnitude_ofRatio_of_short (decide (value < 0)) (Int.natAbs_pos.mpr nonzero) short
    (Nat.zero_le 900)
  rwa [pow_zero, pow_zero, Nat.mul_one, mul_one] at held

/-! ### Products -/

theorem ofDyadic_eq (negative : Bool) {significand : Nat} {exponent : Int}
    (positive : 0 < denominator)
    (same : (significand * 2 ^ exponent : ℚ) = numerator / denominator) :
    ofDyadic negative significand exponent = ofRatio negative numerator denominator := by
  unfold ofDyadic
  split
  · next up =>
    refine ofRatio_congr negative one_pos positive ?_
    rw [← same, Nat.cast_mul, Nat.cast_one, div_one, Nat.cast_pow, Nat.cast_ofNat, ← zpow_natCast,
      Int.toNat_of_nonneg up]
  · next down =>
    refine ofRatio_congr negative (Nat.two_pow_pos _) positive ?_
    rw [← same, Nat.cast_pow, Nat.cast_ofNat, ← zpow_natCast, Int.toNat_of_nonneg (by omega),
      zpow_neg, div_inv_eq_mul]

/-- **A product is rounded once.** -/
theorem mul_eq {left right : Binary64} (leftFinite : left.isFinite = true)
    (rightFinite : right.isFinite = true) (positive : 0 < denominator)
    (same : left.magnitude * right.magnitude = numerator / denominator) :
    left.mul right =
      ofRatio (left.isNegative != right.isNegative) numerator denominator := by
  have defined : ∀ {number : Binary64}, number.isFinite = true →
      number.isNaN = false ∧ number.isInfinite = false := by
    intro number finite
    simp only [isFinite, decide_eq_true_eq] at finite
    simp only [isNaN, isInfinite, decide_eq_false_iff_not, beq_eq_false_iff_ne]
    omega
  unfold mul
  simp only [defined leftFinite, defined rightFinite, Bool.or_self, Bool.false_eq_true, if_false]
  refine ofDyadic_eq _ positive ?_
  rw [← same, magnitude, magnitude, Nat.cast_mul, zpow_add₀ two_ne_zero]
  ring

end Binary64

end TwinStore
