/-
**Decimals that denote the same number, in double precision.** A decimal stands as the number
nearest to it as long as it is rounded once. Then only what it denotes matters, and not how many
places it is written with.

* `Binary64.ofDecimal_coefficientAt`: more places leave the nearest number as it is.
* `RoundsOnce`: no zeros are left out, or coefficient and power of ten are both held exactly.
* `toFloat_of_roundsOnce`: such a decimal stands as the nearest number, so `toFloat_congr`: those
  that denote the same number stand as the same.
-/

import TwinStore.Decimal.Approximation
import TwinStore.Proofs.Binary64.Rounding
import TwinStore.Proofs.Decimal.Value
import TwinStore.Proofs.Text.Numeral

namespace TwinStore

namespace Binary64

/-! ### The nearest number -/

/-- What is rounded of a decimal within the range. -/
theorem ofRatio_places (negative : Bool) (magnitude : Nat) (scale : Int)
    {numerator denominator : Nat} (positive : 0 < denominator)
    (same : (magnitude * 10 ^ (-scale) : ℚ) = numerator / denominator) :
    (if 0 ≤ scale then ofRatio negative magnitude (10 ^ scale.toNat)
      else ofRatio negative (magnitude * 10 ^ (-scale).toNat) 1) =
      ofRatio negative numerator denominator := by
  split
  · next places =>
    refine ofRatio_congr negative (Nat.pow_pos (by decide)) positive ?_
    rw [← same, Nat.cast_pow, Nat.cast_ofNat, ← zpow_natCast, Int.toNat_of_nonneg places, zpow_neg,
      div_eq_mul_inv]
  · next zeros =>
    refine ofRatio_congr negative one_pos positive ?_
    rw [← same, Nat.cast_mul, Nat.cast_one, div_one, Nat.cast_pow, Nat.cast_ofNat, ← zpow_natCast,
      Int.toNat_of_nonneg (by omega)]

/-- **More places leave the nearest number as it is.** The first digit stays at its position, and so
does the ratio that is rounded. -/
theorem ofDecimal_coefficientAt (number : Decimal) {scale : Int} (more : number.scale ≤ scale) :
    ofDecimal ⟨number.coefficientAt scale, scale⟩ = ofDecimal number := by
  obtain ⟨coefficient, places⟩ := number
  obtain ⟨count, rfl⟩ := Int.le.dest more
  have lifted : (places + count - places).toNat = count := by omega
  have unit : (0 : Int) < 10 ^ count := Int.pow_pos (by decide)
  have sign : coefficient * 10 ^ count < 0 ↔ coefficient < 0 := by
    rw [← not_le, ← not_le, mul_nonneg_iff_of_pos_right unit]
  have digits : (coefficient * 10 ^ count).natAbs = coefficient.natAbs * 10 ^ count := by
    rw [Int.natAbs_mul, Int.natAbs_pow]
    rfl
  unfold ofDecimal
  simp only [Decimal.coefficientAt, lifted, sign, digits]
  rcases Nat.eq_zero_or_pos coefficient.natAbs with zero | some_
  · rw [if_pos zero, if_pos (by rw [zero, Nat.zero_mul])]
  · have position : ((Digits.ofNat (coefficient.natAbs * 10 ^ count)).length : Int) -
        (places + count) = (Digits.ofNat coefficient.natAbs).length - places := by
      rw [Digits.ofNat_mul_pow some_, List.length_append, List.length_replicate]
      omega
    have ratio : (coefficient.natAbs * 10 ^ (-places) : ℚ) =
        (coefficient.natAbs * 10 ^ (-places).toNat : Nat) / (10 ^ places.toNat : Nat) := by
      have parts : -places = ((-places).toNat : Int) - (places.toNat : Int) := by omega
      rw [parts, zpow_sub₀ Decimal.ten_ne_zero, zpow_natCast, zpow_natCast]
      push_cast
      rw [← parts, mul_div_assoc]
    have moved : ((coefficient.natAbs * 10 ^ count : Nat) * 10 ^ (-(places + count)) : ℚ) =
        coefficient.natAbs * 10 ^ (-places) := by
      rw [Nat.cast_mul, Nat.cast_pow, Nat.cast_ofNat, mul_assoc, ← zpow_natCast,
        ← zpow_add₀ Decimal.ten_ne_zero]
      congr 2
      ring
    have divisor : 0 < 10 ^ places.toNat := Nat.pow_pos (by decide)
    have factor : 0 < 10 ^ count := Nat.pow_pos (by decide)
    rw [if_neg some_.ne', if_neg (Nat.mul_pos some_ factor).ne', position,
      ofRatio_places _ _ places divisor ratio,
      ofRatio_places _ _ (places + count) divisor (moved.trans ratio)]

/-! ### Powers of ten -/

/-- Powers of ten up to the twenty-second are found without rounding. -/
theorem power_ten : ∀ count < 23, power (ofInt 10) count = ofInt (10 ^ count) := by
  decide +kernel

/-- They are held exactly: their odd parts are powers of five. -/
theorem magnitude_ten_pow {count : Nat} (few : count < 23) :
    (ofInt (10 ^ count)).isNegative = false ∧ (ofInt (10 ^ count)).isFinite = true ∧
      (ofInt (10 ^ count)).magnitude = 10 ^ count := by
  have digits : ((10 : Int) ^ count).natAbs = 5 ^ count * 2 ^ count := by
    rw [Int.natAbs_pow, ← Nat.mul_pow]
    rfl
  have sign : decide ((10 : Int) ^ count < 0) = false := by
    rw [decide_eq_false_iff_not, not_lt]
    positivity
  have short : 5 ^ count ≤ 2 ^ 53 :=
    (Nat.pow_le_pow_right (by decide) (by omega : count ≤ 22)).trans (by norm_num)
  obtain ⟨plus, finite, held⟩ := magnitude_ofRatio_of_short false
    (Nat.pow_pos (by decide) : 0 < 5 ^ count) short (by omega : count ≤ 900)
  rw [ofInt, digits, sign]
  refine ⟨plus, finite, held.trans ?_⟩
  push_cast
  rw [← mul_pow]
  norm_num

end Binary64

namespace Decimal

/-! ### What stands for a decimal -/

/-- On its way to double precision the number is rounded once: no zeros are left out, or both the
coefficient and the power of ten behind it are held exactly. -/
def RoundsOnce (number : Decimal) : Prop :=
  0 ≤ number.scale ∨ -22 ≤ number.scale ∧ number.coefficient.natAbs ≤ 2 ^ 53

instance (number : Decimal) : Decidable number.RoundsOnce := inferInstanceAs (Decidable (_ ∨ _))

/-- **A decimal that is rounded once stands as the number nearest to it.** -/
theorem toFloat_of_roundsOnce {number : Decimal} (once : number.RoundsOnce) :
    number.toFloat = .ofDecimal number := by
  unfold toFloat
  split
  · rfl
  · next zeros =>
    rw [not_or] at zeros
    obtain ⟨negative, nonzero⟩ := zeros
    obtain ⟨few, short⟩ := once.resolve_left negative
    obtain ⟨sign, finite, held⟩ := Binary64.magnitude_ofInt nonzero short
    obtain ⟨plus, tenFinite, tenHeld⟩ :=
      Binary64.magnitude_ten_pow (by omega : number.scale.natAbs < 23)
    have product : (Binary64.ofInt number.coefficient).magnitude *
        (Binary64.ofInt (10 ^ number.scale.natAbs)).magnitude =
          (number.coefficient.natAbs * 10 ^ number.scale.natAbs : Nat) / (1 : Nat) := by
      rw [held, tenHeld]
      push_cast
      rw [div_one]
    have some_ : number.coefficient.natAbs ≠ 0 := Int.natAbs_ne_zero.mpr nonzero
    have digits : (Digits.ofNat number.coefficient.natAbs).length ≤ 16 :=
      Digits.length_ofNat_le (by decide) (by omega)
    rw [Binary64.power_ten _ (by omega), Binary64.mul_eq finite tenFinite one_pos product, sign,
      plus, Binary64.ofDecimal]
    simp only [some_, negative, if_false]
    rw [if_neg (by omega), if_neg (by omega), Bool.bne_false]
    congr 3
    omega

/-- **Decimals that denote the same number** and are rounded once stand as the same. -/
theorem toFloat_congr {left right : Decimal} (one : left.RoundsOnce) (two : right.RoundsOnce)
    (same : left.toRat = right.toRat) : left.toFloat = right.toFloat := by
  have low := le_max_left left.scale right.scale
  have high := le_max_right left.scale right.scale
  rw [toRat_eq_coefficientAt left low, toRat_eq_coefficientAt right high,
    toRat_inj_coefficient] at same
  rw [toFloat_of_roundsOnce one, toFloat_of_roundsOnce two,
    ← Binary64.ofDecimal_coefficientAt left low, ← Binary64.ofDecimal_coefficientAt right high,
    same]

end Decimal

end TwinStore
