/-
**Decimal128 keeps the number.** Fitting a number into thirty-four digits only moves zeros between
coefficient and exponent.

* `fit?_denotes`: what is fitted denotes the same number. The three steps of fitting (digits too
  many, exponent too low, exponent too high) each trade a power of ten, and `toRat_zeros` undoes the
  trade.
* `fit?_zeros`: a coefficient of thirty-four digits with zeros written behind it always fits.
* `ofDecimal?_denotes` and `ofDecimal?_of_range` say the same of exact decimals.
-/

import TwinStore.Decimal.Decimal128
import TwinStore.Proofs.Decimal.Text

namespace TwinStore.Decimal128

open Decimal (withSign toRat)

/-! ### What is fitted -/

theorem dropZeros?_eq {coefficient count cut : Nat}
    (dropped : dropZeros? coefficient count = some cut) :
    coefficient = cut * 10 ^ count := by
  unfold dropZeros? at dropped
  split at dropped
  · next divides =>
    cases dropped
    exact (Nat.div_mul_cancel (Nat.dvd_of_mod_eq_zero divides)).symm
  · cases dropped

theorem dropZeros?_mul (cut count : Nat) : dropZeros? (cut * 10 ^ count) count = some cut := by
  have positive : 0 < 10 ^ count := Nat.pow_pos (by decide)
  rw [dropZeros?, if_pos (Nat.mul_mod_left _ _), Nat.mul_div_cancel _ positive]

/-- Parts in range are kept. -/
theorem ofParts?_denotes {negative : Bool} {coefficient : Nat} {exponent : Int}
    {fitted : Decimal128}
    (found : ofParts? negative coefficient exponent = some fitted) :
    fitted.toDecimal? = some ⟨withSign negative coefficient, -exponent⟩ := by
  unfold ofParts? at found
  split at found
  · cases found
    rfl
  · cases found

/-- **What is fitted denotes the number.** -/
theorem fit?_denotes {negative : Bool} {coefficient : Nat} {exponent : Int} {fitted : Decimal128}
    (found : fit? negative coefficient exponent = some fitted) :
    ∃ decimal, fitted.toDecimal? = some decimal ∧
      decimal.toRat = toRat ⟨withSign negative coefficient, -exponent⟩ := by
  unfold fit? at found
  split at found
  · cases found
  · split at found
    · next zero_ =>
      cases found
      refine ⟨_, rfl, ?_⟩
      subst zero_
      cases negative <;> exact (Decimal.toRat_zero _).trans (Decimal.toRat_zero _).symm
    · generalize (Digits.ofNat coefficient).length - 34 = excess at found
      simp only [Option.bind_eq_bind, Option.bind_eq_some_iff] at found
      obtain ⟨cut, cutFound, raised, raisedFound, parts⟩ := found
      refine ⟨_, ofParts?_denotes parts, ?_⟩
      rw [dropZeros?_eq cutFound, dropZeros?_eq raisedFound]
      simp only [Decimal.withSign_mul, Nat.cast_pow, Nat.cast_ofNat, Decimal.toRat_zeros]
      congr 2
      omega

/-! ### What fits -/

/-- A coefficient short enough, with zeros behind it, fits: its digits beyond thirty-four are among
those zeros, and its exponent stays in range. -/
theorem fit?_zeros (negative : Bool) {magnitude zeros : Nat} {exponent : Int}
    (nonzero : magnitude ≠ 0) (short : magnitude < 10 ^ 34) (low : -6176 ≤ exponent)
    (high : exponent + zeros ≤ 6111) :
    fit? negative (magnitude * 10 ^ zeros) exponent ≠ none := by
  have written : magnitude * 10 ^ zeros ≠ 0 :=
    Nat.mul_ne_zero nonzero (Nat.pow_pos (by decide)).ne'
  have few : (Digits.ofNat (magnitude * 10 ^ zeros)).length ≤ 34 + zeros := by
    apply Digits.length_ofNat_le (by omega)
    rw [Nat.pow_add]
    exact Nat.mul_lt_mul_of_pos_right short (Nat.pow_pos (by decide))
  have small : magnitude * 10 ^ zeros < 10 ^ (Digits.ofNat (magnitude * 10 ^ zeros)).length :=
    (Nat.length_toDigits_le_iff (by decide) Nat.length_toDigits_pos).mp le_rfl
  unfold fit?
  rw [if_neg (by omega), if_neg written]
  generalize (Digits.ofNat (magnitude * 10 ^ zeros)).length = length at few small ⊢
  obtain ⟨kept, whole⟩ : ∃ kept, zeros = kept + (length - 34) := ⟨zeros - (length - 34), by omega⟩
  have digits : magnitude * 10 ^ zeros = magnitude * 10 ^ kept * 10 ^ (length - 34) := by
    rw [Nat.mul_assoc, ← Nat.pow_add, ← whole]
  have fits : magnitude * 10 ^ kept < 10 ^ 34 := by
    rw [digits] at small
    by_cases long : 34 ≤ length
    · rw [show length = 34 + (length - 34) by omega, Nat.pow_add,
        show 34 + (length - 34) - 34 = length - 34 by omega] at small
      exact Nat.lt_of_mul_lt_mul_right small
    · rw [show length - 34 = 0 by omega, Nat.pow_zero, Nat.mul_one] at small
      exact small.trans (Nat.pow_lt_pow_right (by decide) (by omega))
  have notLow : (-6176 - (exponent + (length - 34 : Nat))).toNat = 0 := by omega
  have notHigh : (exponent + (length - 34 : Nat) + (0 : Nat) - 6111).toNat = 0 := by omega
  have unchanged : dropZeros? (magnitude * 10 ^ kept) 0 = some (magnitude * 10 ^ kept) := by
    have dropped := dropZeros?_mul (magnitude * 10 ^ kept) 0
    rwa [Nat.pow_zero, Nat.mul_one] at dropped
  simp only [Option.bind_eq_bind, digits, dropZeros?_mul, Option.bind_some, notLow, unchanged,
    notHigh, Nat.pow_zero, Nat.mul_one]
  rw [ofParts?, dif_pos ⟨fits, by omega, by omega⟩]
  exact Option.some_ne_none _

/-- **A decimal of thirty-four digits at places in range fits.** -/
theorem ofDecimal?_of_range {number : Decimal} (short : number.coefficient.natAbs < 10 ^ 34)
    (low : -6111 ≤ number.scale) (high : number.scale ≤ 6176) : ofDecimal? number ≠ none := by
  unfold ofDecimal?
  simp only
  split
  · exact Option.some_ne_none _
  · next nonzero =>
    split
    · exact fit?_zeros _ nonzero short (by omega) (by omega)
    · have least : -6176 ≤ -number.scale := by omega
      have greatest : -number.scale + (0 : Nat) ≤ 6111 := by omega
      have fitted := fit?_zeros (decide (number.coefficient < 0)) nonzero short least greatest
      rwa [Nat.pow_zero, Nat.mul_one] at fitted

/-- **What a decimal is stored as denotes the same number.** -/
theorem ofDecimal?_denotes {number : Decimal} {stored : Decimal128}
    (found : ofDecimal? number = some stored) :
    ∃ decimal, stored.toDecimal? = some decimal ∧ decimal.toRat = number.toRat := by
  unfold ofDecimal? at found
  simp only at found
  split at found
  · next zero_ =>
    cases found
    refine ⟨_, rfl, (Decimal.toRat_zero _).trans ?_⟩
    rw [Decimal.toRat, Int.natAbs_eq_zero.mp zero_, Int.cast_zero, zero_mul]
  · split at found
    · next zeros =>
      obtain ⟨decimal, read, same⟩ := fit?_denotes found
      refine ⟨decimal, read, same.trans ?_⟩
      rw [Decimal.withSign_mul, Decimal.withSign_natAbs, Nat.cast_pow, Nat.cast_ofNat,
        Decimal.toRat_zeros]
      congr 2
      omega
    · obtain ⟨decimal, read, same⟩ := fit?_denotes found
      refine ⟨decimal, read, same.trans ?_⟩
      rw [Decimal.withSign_natAbs, neg_neg]

end TwinStore.Decimal128
