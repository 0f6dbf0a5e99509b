/-
**The order of decimal texts.** Positive decimals with equally many digits before the point are
ordered like their texts, whatever their places. Of two equal numbers the one with fewer places has
the lesser text.

* `pointed_eq`: where the point stands.
* `pointed_lt_iff`: with points at the same place, texts are ordered like the digits without them.
* `chars_lt_iff`: what this means for the numbers; `Aligned.chars_lt_iff` counts signs in.
-/

import TwinStore.Proofs.Decimal.Text
import TwinStore.Proofs.Text.Order

namespace TwinStore.Decimal

open Digits

/-- Places behind their point, if there are any. -/
def behindPoint : List Char → List Char
  | [] => []
  | places => '.' :: places

theorem behindPoint_lt_iff (left right : List Char) :
    behindPoint left < behindPoint right ↔ left < right := by
  match left, right with
  | [], [] => rfl
  | [], _ :: _ => simp [behindPoint]
  | _ :: _, [] => simp [behindPoint]
  | _ :: _, _ :: _ => exact cons_lt_cons_same _ _ _

/-- Digits with a point are the digits before it, one zero at least, and the places behind it. -/
theorem pointed_eq {digits : List Char} (all : IsDigits digits) (some_ : digits ≠ [])
    (count : Nat) :
    ∃ whole places, pointed digits count = whole ++ behindPoint places ∧ IsDigits whole ∧
      IsDigits places ∧ value (whole ++ places) = value digits ∧ places.length = count ∧
        whole.length = max 1 (digits.length - count) := by
  have long : 0 < digits.length := List.length_pos_iff.mpr some_
  unfold pointed
  split
  · next none_ =>
    subst none_
    refine ⟨digits, [], (List.append_nil _).symm, all, fun _ => nofun, ?_, rfl, by omega⟩
    rw [List.append_nil]
  · next several =>
    split
    · next inside =>
      have behind : digits.drop (digits.length - count) ≠ [] := by
        rw [← List.length_pos_iff, List.length_drop]
        omega
      refine ⟨_, _, ?_, all.take (digits.length - count), all.drop (digits.length - count), ?_, ?_,
        ?_⟩
      · rw [behindPoint.eq_2 _ behind]
      · rw [List.take_append_drop]
      · rw [List.length_drop]
        omega
      · rw [List.length_take]
        omega
    · next outside =>
      refine ⟨['0'], List.replicate (count - digits.length) '0' ++ digits, ?_, isDigits_zeros 1,
        (isDigits_zeros _).append all, ?_, ?_, ?_⟩
      · rw [behindPoint.eq_2 _ (List.append_ne_nil_of_right_ne_nil _ some_)]
        rfl
      · rw [← List.append_assoc, show ['0'] ++ List.replicate (count - digits.length) '0' =
          List.replicate (count - digits.length + 1) '0' from rfl, value_zeros_append]
      · rw [List.length_append, List.length_replicate]
        omega
      · rw [List.length_singleton]
        omega

/-- **With points at the same place, texts are ordered like the digits without them.** -/
theorem pointed_lt_iff {left right : List Char} {places count : Nat} (all : IsDigits left)
    (some_ : left ≠ []) (others : IsDigits right) (nonempty : right ≠ [])
    (aligned : max 1 (left.length - places) = max 1 (right.length - count)) :
    pointed left places < pointed right count ↔
      value left * 10 ^ count < value right * 10 ^ places ∨
        value left * 10 ^ count = value right * 10 ^ places ∧ places < count := by
  obtain ⟨whole, behind, text, digits, rest, number, few, before⟩ := pointed_eq all some_ places
  obtain ⟨wholes, behinds, texts, digits', rests, numbers, fewer, befores⟩ :=
    pointed_eq others nonempty count
  have long : whole.length = wholes.length := by rw [before, befores, aligned]
  have unit : 0 < 10 ^ wholes.length := Nat.pow_pos (by decide)
  have scaled : ∀ number more,
      number * 10 ^ (wholes.length + more) = number * 10 ^ more * 10 ^ wholes.length := by
    intro number more
    rw [Nat.pow_add]
    ring
  rw [text, texts, append_lt_append_iff long, behindPoint_lt_iff, ← append_lt_append_iff long,
    lt_iff_fraction (digits.append rest) (digits'.append rests), number, numbers,
    List.length_append, List.length_append, long, few, fewer, scaled, scaled,
    Nat.mul_lt_mul_right unit, Nat.mul_left_inj unit.ne', Nat.add_lt_add_iff_left]

/-! ### Numbers -/

/-- The decimal is not negative, and its text has no exponent. -/
def IsPlain (number : Decimal) : Prop :=
  0 ≤ number.coefficient ∧ 0 ≤ number.shown.scale ∧
    number.shown.scale ≤ (ofNat number.shown.coefficient.natAbs).length + leadingZeroLimit

/-- How many digits the text has before its point. -/
def wholeDigits (number : Decimal) : Nat :=
  max 1 ((ofNat number.shown.coefficient.natAbs).length - number.shown.scale.toNat)

theorem shown_nonneg {number : Decimal} (positive : 0 ≤ number.coefficient) :
    0 ≤ number.shown.coefficient := by
  unfold shown
  split
  · exact le_rfl
  · split
    · exact Int.mul_nonneg positive (by positivity)
    · exact positive

theorem IsPlain.chars_eq {number : Decimal} (plain : number.IsPlain) :
    number.chars =
      pointed (ofNat number.shown.coefficient.natAbs) number.shown.scale.toNat := by
  obtain ⟨positive, some_, few⟩ := plain
  have sign := shown_nonneg positive
  rw [← chars_shown]
  by_cases zero : number.coefficient = 0
  · rw [shown, if_pos zero]
    decide
  · have nonzero : number.shown.coefficient ≠ 0 := by
      unfold shown
      rw [if_neg zero]
      split
      · exact mul_ne_zero zero (by positivity)
      · exact zero
    rw [Decimal.chars_eq nonzero, decide_eq_false (by omega), magnitudeText, if_neg (by omega),
      if_neg (by rw [trailingZeroLimit]; omega), if_neg (by omega)]
    rfl

/-- A decimal that is not negative, shown with more places. -/
theorem IsPlain.toRat_eq {number : Decimal} (plain : number.IsPlain) {scale : Int}
    (positive : 0 ≤ scale) :
    number.toRat = toRat
      ⟨(number.shown.coefficient.natAbs * 10 ^ scale.toNat : Nat), number.shown.scale + scale⟩ := by
  have sign : (number.shown.coefficient.natAbs : Int) = number.shown.coefficient :=
    Int.natAbs_of_nonneg (shown_nonneg plain.1)
  rw [Nat.cast_mul, Nat.cast_pow, Nat.cast_ofNat, sign, toRat_zeros, Int.toNat_of_nonneg positive,
    add_sub_cancel_right, toRat_shown]

/-- **Plain decimals with equally many digits before the point are ordered like their texts**, but
of two equal numbers the one with fewer places has the lesser text. -/
theorem chars_lt_iff {left right : Decimal} (first : left.IsPlain) (second : right.IsPlain)
    (aligned : left.wholeDigits = right.wholeDigits) :
    left.chars < right.chars ↔
      left.toRat < right.toRat ∨
        left.toRat = right.toRat ∧ left.shown.scale < right.shown.scale := by
  have places : left.shown.scale < right.shown.scale ↔
      left.shown.scale.toNat < right.shown.scale.toNat := by
    have := first.2.1
    omega
  rw [first.chars_eq, second.chars_eq,
    pointed_lt_iff (isDigits_ofNat _) (ofNat_ne_nil _) (isDigits_ofNat _) (ofNat_ne_nil _) aligned,
    value_ofNat, value_ofNat, places, first.toRat_eq second.2.1, second.toRat_eq first.2.1,
    add_comm right.shown.scale, toRat_lt_coefficient, toRat_inj_coefficient, Nat.cast_lt,
    Nat.cast_inj]

/-! ### Signs -/

theorem magnitudeText_eq_cons (magnitude : Nat) (scale : Int) :
    ∃ first rest, magnitudeText magnitude scale = first :: rest ∧ first.isDigit = true := by
  obtain ⟨mantissa, tail, _, _, _, text, parts, -⟩ := magnitudeText_eq magnitude scale
  obtain ⟨first, rest, rfl, digit⟩ := parts.eq_cons
  exact ⟨first, rest ++ tail, text, digit⟩

/-- The text of a negative decimal comes before that of any other. -/
theorem negative_chars_lt {left right : Decimal} (negative : left.coefficient < 0)
    (positive : 0 ≤ right.coefficient) :
    left.chars < right.chars ∧ ¬right.chars < left.chars := by
  have digits : ∃ first rest, right.chars = first :: rest ∧ first.isDigit = true := by
    by_cases zero : right.coefficient = 0
    · exact ⟨'0', [], by rw [chars, if_pos zero], rfl⟩
    · obtain ⟨first, rest, text, digit⟩ :=
        magnitudeText_eq_cons right.coefficient.natAbs right.scale
      refine ⟨first, rest, ?_, digit⟩
      rw [Decimal.chars_eq zero, decide_eq_false (by omega), text]
      rfl
  obtain ⟨first, rest, text, digit⟩ := digits
  rw [text, Decimal.chars_eq (by omega : left.coefficient ≠ 0), decide_eq_true negative]
  exact minus_lt_digit digit _ rest

theorem toRat_lt_of_signs {left right : Decimal} (negative : left.coefficient < 0)
    (positive : 0 ≤ right.coefficient) : left.toRat < right.toRat := by
  have unit : ∀ scale : Int, (0 : ℚ) < 10 ^ (-scale) := fun scale => zpow_pos (by norm_num) _
  have below : left.toRat < 0 :=
    mul_neg_of_neg_of_pos (Int.cast_lt_zero.mpr negative) (unit left.scale)
  have above : 0 ≤ right.toRat :=
    mul_nonneg (Int.cast_nonneg positive) (unit right.scale).le
  exact below.trans_le above

/-- Decimals whose signs differ, or plain ones with equally many digits before the point that show
the same places if they are equal. -/
def Aligned (left right : Decimal) : Prop :=
  (left.coefficient < 0 ∧ 0 ≤ right.coefficient) ∨ (0 ≤ left.coefficient ∧ right.coefficient < 0) ∨
    (left.IsPlain ∧ right.IsPlain ∧ left.wholeDigits = right.wholeDigits ∧
      (left.sameValue right = true → left.shown.scale = right.shown.scale))

instance (number : Decimal) : Decidable number.IsPlain := inferInstanceAs (Decidable (_ ∧ _ ∧ _))

instance (left right : Decimal) : Decidable (left.Aligned right) :=
  inferInstanceAs (Decidable (_ ∨ _ ∨ _))

/-- **Such decimals are ordered like their texts.** -/
theorem Aligned.chars_lt_iff {left right : Decimal} (aligned : left.Aligned right) :
    left.chars < right.chars ↔ left.toRat < right.toRat := by
  rcases aligned with ⟨first, second⟩ | ⟨first, second⟩ | ⟨first, second, long, places⟩
  · simp [negative_chars_lt first second, toRat_lt_of_signs first second]
  · simp [negative_chars_lt second first, (toRat_lt_of_signs second first).le]
  · rw [sameValue_iff] at places
    rw [Decimal.chars_lt_iff first second long, or_iff_left_iff_imp]
    rintro ⟨same, fewer⟩
    exact absurd (places same) fewer.ne

end TwinStore.Decimal
