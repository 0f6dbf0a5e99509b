/-
**The number that a decimal denotes.** A decimal is a coefficient and a number of places; the number
behind it is rational.

* `toRat_eq_coefficientAt`: more places leave the number as it is.
* `sameValue_iff`: two decimals have the same value exactly if they denote the same number.
* `compare_eq_compare_toRat`: decimals compare like the numbers they denote.
* `toRat_add` and `toRat_mul`: sums and products denote sums and products.
* `toInt?_eq_some_iff`: a decimal that denotes an integer is found to do so.
-/

import TwinStore.Decimal.Basic
import Mathlib.Algebra.Order.Field.Rat
import Mathlib.Tactic.NormNum
import Mathlib.Tactic.Positivity

namespace TwinStore.Decimal

/-- The number that a decimal denotes. -/
def toRat (number : Decimal) : ℚ := number.coefficient * 10 ^ (-number.scale)

theorem ten_ne_zero : (10 : ℚ) ≠ 0 := by norm_num

theorem toRat_zero (scale : Int) : toRat ⟨0, scale⟩ = 0 := by
  rw [toRat, Int.cast_zero, zero_mul]

@[simp] theorem toRat_ofInt (number : Int) : (ofInt number).toRat = number := by
  rw [toRat, ofInt, neg_zero, zpow_zero, mul_one]

/-- Zeros behind the coefficient are places less. -/
theorem toRat_zeros (coefficient : Int) (count : Nat) (scale : Int) :
    toRat ⟨coefficient * 10 ^ count, scale⟩ = toRat ⟨coefficient, scale - count⟩ := by
  simp only [toRat]
  rw [Int.cast_mul, Int.cast_pow, mul_assoc, show ((10 : Int) : ℚ) = 10 from rfl,
    ← zpow_natCast (10 : ℚ), ← zpow_add₀ ten_ne_zero]
  congr 2
  omega

/-- **More places leave the number as it is.** -/
theorem toRat_eq_coefficientAt (number : Decimal) {scale : Int} (more : number.scale ≤ scale) :
    number.toRat = toRat ⟨number.coefficientAt scale, scale⟩ := by
  rw [coefficientAt, toRat_zeros, Int.toNat_of_nonneg (by omega), sub_sub_cancel]

theorem toRat_inj_coefficient {left right scale : Int} :
    toRat ⟨left, scale⟩ = toRat ⟨right, scale⟩ ↔ left = right := by
  have nonzero : (10 : ℚ) ^ (-scale) ≠ 0 := zpow_ne_zero _ ten_ne_zero
  simp only [toRat]
  rw [mul_left_inj' nonzero, Int.cast_inj]

/-- **Two decimals have the same value exactly if they denote the same number.** -/
theorem sameValue_iff (left right : Decimal) :
    left.sameValue right = true ↔ left.toRat = right.toRat := by
  rw [toRat_eq_coefficientAt left (le_max_left left.scale right.scale),
    toRat_eq_coefficientAt right (le_max_right left.scale right.scale), toRat_inj_coefficient,
    sameValue, compare, beq_iff_eq, Std.LawfulEqCmp.compare_eq_iff_eq]

theorem toRat_lt_coefficient {left right scale : Int} :
    toRat ⟨left, scale⟩ < toRat ⟨right, scale⟩ ↔ left < right := by
  have unit : (0 : ℚ) < 10 ^ (-scale) := zpow_pos (by norm_num) _
  simp only [toRat]
  rw [mul_lt_mul_iff_left₀ unit, Int.cast_lt]

/-- **Decimals compare like the numbers they denote.** -/
theorem compare_eq_compare_toRat (left right : Decimal) :
    left.compare right = Ord.compare left.toRat right.toRat := by
  rw [toRat_eq_coefficientAt left (le_max_left left.scale right.scale),
    toRat_eq_coefficientAt right (le_max_right left.scale right.scale), compare]
  rcases lt_trichotomy (left.coefficientAt (max left.scale right.scale))
      (right.coefficientAt (max left.scale right.scale)) with less | same | more
  · rw [compare_lt_iff_lt.mpr less, compare_lt_iff_lt.mpr (toRat_lt_coefficient.mpr less)]
  · rw [same, compare_eq_iff_eq.mpr rfl, compare_eq_iff_eq.mpr rfl]
  · rw [compare_gt_iff_gt.mpr more, compare_gt_iff_gt.mpr (toRat_lt_coefficient.mpr more)]

/-! ### Sums and products -/

/-- **The sum of decimals denotes the sum.** -/
theorem toRat_add (left right : Decimal) : (left.add right).toRat = left.toRat + right.toRat := by
  rw [toRat_eq_coefficientAt left (le_max_left left.scale right.scale),
    toRat_eq_coefficientAt right (le_max_right left.scale right.scale), add]
  simp only [toRat]
  rw [Int.cast_add, add_mul]

/-- What is plainly one denotes one. -/
theorem toRat_of_isPlainOne {number : Decimal} (plain : number.isPlainOne = true) :
    number.toRat = 1 := by
  simp only [isPlainOne, Bool.and_eq_true, decide_eq_true_eq, beq_iff_eq] at plain
  obtain ⟨⟨places, -⟩, coefficient⟩ := plain
  have written : number = ⟨1 * 10 ^ number.scale.toNat, number.scale⟩ := by
    rw [one_mul, ← coefficient]
  rw [written, toRat_zeros, Int.toNat_of_nonneg places, sub_self]
  exact (toRat_ofInt 1).trans Int.cast_one

/-- **The product of decimals denotes the product**, also where a factor is passed over. -/
theorem toRat_mul (left right : Decimal) : (left.mul right).toRat = left.toRat * right.toRat := by
  unfold mul
  split
  · next plain => rw [toRat_of_isPlainOne plain, one_mul]
  · split
    · next plain => rw [toRat_of_isPlainOne plain, mul_one]
    · simp only [toRat]
      rw [Int.cast_mul, neg_add, zpow_add₀ ten_ne_zero, mul_mul_mul_comm]

/-! ### Integers -/

/-- **A decimal denotes an integer exactly if it is found to be one.** -/
theorem toInt?_eq_some_iff {number : Decimal} {value : Int} :
    number.toInt? = some value ↔ number.toRat = value := by
  unfold toInt?
  split
  · next zeros =>
    rw [toRat_eq_coefficientAt number zeros, Option.some.injEq, ← Int.cast_inj (α := ℚ),
      ← toRat_ofInt (number.coefficientAt 0)]
    rfl
  · next places =>
    have unit : (10 : Int) ^ number.scale.toNat ≠ 0 := pow_ne_zero _ (by decide)
    have denoted : number.toRat = value ↔ number.coefficient = value * 10 ^ number.scale.toNat := by
      have nonzero : (10 : ℚ) ^ number.scale.toNat ≠ 0 := pow_ne_zero _ ten_ne_zero
      have scale : -number.scale = -(number.scale.toNat : Int) := by omega
      rw [toRat, scale, zpow_neg, zpow_natCast, ← div_eq_mul_inv, div_eq_iff nonzero]
      exact_mod_cast Iff.rfl
    simp only [denoted]
    split
    · next whole =>
      rw [Option.some.injEq]
      constructor
      · rintro rfl
        exact (Int.ediv_mul_cancel (Int.dvd_of_emod_eq_zero whole)).symm
      · intro same
        rw [same, Int.mul_ediv_cancel _ unit]
    · next broken =>
      refine ⟨fun found => (nomatch found), fun same => absurd ?_ broken⟩
      rw [same, Int.mul_emod_left]

end TwinStore.Decimal
