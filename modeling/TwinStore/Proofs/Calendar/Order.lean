/-
**The order of calendar texts.** The texts of times are in chronological order, and so are those of
dates whose years have equally many digits and no minus sign.

* `fractionText_lt_iff`: fractions of a second, though they are written with different numbers of
  digits.
* `TimeOfDay.chars_lt_iff`: times, the leap second of a minute after its fifty-ninth.
* `Date.Aligned.chars_lt_iff`: dates.
-/

import TwinStore.Proofs.Calendar.Text
import TwinStore.Proofs.Text.Order

namespace TwinStore

open Digits

/-! ### Times -/

/-- A fraction of a second is written by no digits if it is zero, else by a point and digits that
denote it. -/
theorem fractionText_eq {nanosecond : Nat} (small : nanosecond < 10 ^ 9) :
    nanosecond = 0 ∧ fractionText nanosecond = [] ∨
      0 < nanosecond ∧ ∃ digits, fractionText nanosecond = '.' :: digits ∧ IsDigits digits ∧
        value digits * 10 ^ 9 = nanosecond * 10 ^ digits.length := by
  unfold fractionText
  split
  · next zero => exact .inl ⟨zero, rfl⟩
  · next some_ =>
    refine .inr ⟨by omega, ?_⟩
    split
    · exact ⟨_, rfl, isDigits_padded _ _, by
        rw [value_padded, length_padded (by decide) (by omega)]; omega⟩
    · split
      · exact ⟨_, rfl, isDigits_padded _ _, by
          rw [value_padded, length_padded (by decide) (by omega)]; omega⟩
      · exact ⟨_, rfl, isDigits_padded _ _, by
          rw [value_padded, length_padded (by decide) (by omega)]⟩

/-- **Fractions of a second are ordered like their texts.** -/
theorem fractionText_lt_iff {left right : Nat} (small : left < 10 ^ 9) (smaller : right < 10 ^ 9) :
    fractionText left < fractionText right ↔ left < right := by
  rcases fractionText_eq small with ⟨rfl, none_⟩ | ⟨positive, first, text, all, denoted⟩
  · rw [none_]
    rcases fractionText_eq smaller with ⟨rfl, none_⟩ | ⟨more, second, other, -, -⟩
    · simp [none_]
    · simp [other, more]
  · rcases fractionText_eq smaller with ⟨rfl, none_⟩ | ⟨more, second, other, others, denotes⟩
    · simp [none_]
    · -- Both fractions brought to nine places: the numbers of digits cancel.
      have unit : 0 < 10 ^ first.length * 10 ^ second.length :=
        Nat.mul_pos (Nat.pow_pos (by decide)) (Nat.pow_pos (by decide))
      have scaled : value first * 10 ^ second.length * 10 ^ 9 =
          left * (10 ^ first.length * 10 ^ second.length) := by
        rw [Nat.mul_right_comm, denoted, Nat.mul_assoc]
      have scales : value second * 10 ^ first.length * 10 ^ 9 =
          right * (10 ^ first.length * 10 ^ second.length) := by
        rw [Nat.mul_right_comm, denotes, Nat.mul_assoc, Nat.mul_comm (10 ^ second.length)]
      have tie : left = right → first.length = second.length := by
        rintro rfl
        rw [text] at other
        rw [(List.cons.inj other).2]
      rw [text, other, cons_lt_cons_same, lt_iff_fraction all others,
        ← Nat.mul_lt_mul_right (a := 10 ^ 9) (by decide), scaled, scales,
        Nat.mul_lt_mul_right unit]
      constructor
      · rintro (less | ⟨same, shorter⟩)
        · exact less
        · rw [← Nat.mul_left_inj (a := 10 ^ 9) (by decide), scaled, scales,
            Nat.mul_left_inj unit.ne'] at same
          have := tie same
          omega
      · exact .inl

/-- **Times are ordered like their texts**: by hour, minute, second and fraction. The leap second of
a minute is its second sixty, so it comes after the others. -/
theorem TimeOfDay.chars_lt_iff (left right : TimeOfDay) :
    left.chars < right.chars ↔ left.compare right = .lt := by
  obtain ⟨hour, minute, second, nanosecond, fewHours, fewMinutes, fewSeconds, small, leap⟩ := left
  obtain ⟨hours, minutes, seconds, nanoseconds, moreHours, moreMinutes, moreSeconds, smaller,
    leaps⟩ := right
  unfold chars clockText compare
  simp only [List.append_assoc, List.cons_append]
  rw [padded_append_lt_iff (by decide) (by omega) (by omega), cons_lt_cons_same,
    padded_append_lt_iff (by decide) (by omega) (by omega), cons_lt_cons_same,
    padded_append_lt_iff (by decide) (by omega) (by omega),
    fractionText_lt_iff (by omega) (by omega)]
  simp only [Ordering.then_eq_lt, Nat.compare_eq_lt, Nat.compare_eq_eq]
  omega

/-! ### Dates -/

theorem yearText_inj {left right : Int} : yearText left = yearText right ↔ left = right := by
  refine ⟨fun same => ?_, congrArg yearText⟩
  have read := scanYear?_yearText left [] noDigit_nil
  rw [same, scanYear?_yearText right [] noDigit_nil] at read
  exact (Prod.mk.inj (Option.some.inj read)).1.symm

/-- A year after the year zero is four digits, or a plus sign and more digits. -/
theorem yearText_eq {year : Int} (after : 0 ≤ year) :
    ∃ digits, IsDigits digits ∧ value digits = year.natAbs ∧
      (yearText year = digits ∧ digits.length = 4 ∨
        yearText year = '+' :: digits ∧ 4 < digits.length) := by
  refine ⟨padded 4 year.natAbs, isDigits_padded _ _, value_padded _ _, ?_⟩
  unfold yearText
  split
  · exact .inl ⟨rfl, length_padded (by decide) (by omega)⟩
  · rw [if_neg (by omega)]
    refine .inr ⟨rfl, ?_⟩
    have many : ¬(ofNat year.natAbs).length ≤ 4 := by
      rw [ofNat, Nat.length_toDigits_le_iff (by decide) (by decide)]
      omega
    rw [padded, List.length_append]
    omega

/-- Years after the year zero that are written with equally many digits are ordered like their
texts. -/
theorem yearText_lt_iff {left right : Int} (after : 0 ≤ left) (behind : 0 ≤ right)
    (long : (yearText left).length = (yearText right).length) :
    yearText left < yearText right ↔ left < right := by
  obtain ⟨digits, all, number, layout⟩ := yearText_eq after
  obtain ⟨others, rest, other, layouts⟩ := yearText_eq behind
  have order : digits.length = others.length → (digits < others ↔ left < right) := by
    intro same
    rw [lt_iff_value all rest same, number, other]
    omega
  rcases layout with ⟨first, few⟩ | ⟨first, many⟩
  · rcases layouts with ⟨second, fewer⟩ | ⟨second, more⟩
    · rw [first, second, order (few.trans fewer.symm)]
    · rw [first, second, List.length_cons] at long
      omega
  · rcases layouts with ⟨second, fewer⟩ | ⟨second, more⟩
    · rw [first, second, List.length_cons] at long
      omega
    · rw [first, second, List.length_cons, List.length_cons] at long
      rw [first, second, cons_lt_cons_same, order (Nat.succ.inj long)]

/-- The years of two dates are not before the year zero, and they are written with equally many
digits. -/
def Date.Aligned (left right : Date) : Prop :=
  0 ≤ left.year ∧ 0 ≤ right.year ∧ (yearText left.year).length = (yearText right.year).length

instance (left right : Date) : Decidable (left.Aligned right) :=
  inferInstanceAs (Decidable (_ ∧ _ ∧ _))

/-- **Dates of such years are ordered like their texts.** -/
theorem Date.Aligned.chars_lt_iff {left right : Date} (aligned : left.Aligned right) :
    left.chars < right.chars ↔ left.compare right = .lt := by
  obtain ⟨after, behind, long⟩ := aligned
  obtain ⟨fewMonths, fewDays⟩ := left.bounds
  obtain ⟨moreMonths, moreDays⟩ := right.bounds
  unfold chars dateText compare
  have last : padded 2 left.day < padded 2 right.day ↔ left.day < right.day := by
    have few : (padded 2 left.day).length = 2 := length_padded (by decide) (by omega)
    have more : (padded 2 right.day).length = 2 := length_padded (by decide) (by omega)
    rw [lt_iff_value (isDigits_padded _ _) (isDigits_padded _ _) (few.trans more.symm),
      value_padded, value_padded]
  rw [append_lt_append_iff long, yearText_lt_iff after behind long, yearText_inj, cons_lt_cons_same,
    padded_append_lt_iff (by decide) (by omega) (by omega), cons_lt_cons_same, last]
  simp only [Ordering.then_eq_lt, Nat.compare_eq_lt, Nat.compare_eq_eq, Int.compare_eq_lt,
    Int.compare_eq_eq]

end TwinStore
