/-
**A decimal's text is read back.** Reading what a decimal is written as gives a decimal that denotes
the same number, if its places fit a signed word.

The text has one of four layouts: digits with a point, digits with zeros behind them, and the two
scientific ones. Each is a mantissa (`Mantissa`) with or without an exponent, and reading a mantissa
is one lemma (`spelled?_mantissa`), so the layouts differ only in the mantissa they produce. Only
the zeros written behind the digits change the coefficient and the places; they keep the number.

* `Decimal.shown` is the decimal that the text spells, and `chars_eq_iff`: two decimals have the
  same text exactly if they denote the same number and show the same places.
* `ofText?_chars`: the text is read back.
-/

import TwinStore.Decimal.Text
import TwinStore.Proofs.Decimal.Value
import TwinStore.Proofs.Text.Numeral

namespace TwinStore.Decimal

open Digits

/-- The places fit a signed word, as those of every decimal that is read do. -/
def FitsWord (number : Decimal) : Prop := -2 ^ 63 ≤ number.scale ∧ number.scale < 2 ^ 63

instance (number : Decimal) : Decidable number.FitsWord := inferInstanceAs (Decidable (_ ∧ _))

/-! ### Mantissas -/

/-- The text is digits, with a point before the last of them or without; the digits denote the
coefficient, and those behind the point are the places. -/
inductive Mantissa : List Char → Nat → Nat → Prop where
  | plain {digits : List Char} (all : IsDigits digits) (some_ : digits ≠ []) :
      Mantissa digits (value digits) 0
  | pointed {whole places : List Char} (first : IsDigits whole) (some_ : whole ≠ [])
      (last : IsDigits places) :
      Mantissa (whole ++ '.' :: places) (value (whole ++ places)) places.length

/-- Digits with a point before the last `places` of them are a mantissa. -/
theorem mantissa_pointed {digits : List Char} (all : IsDigits digits) (some_ : digits ≠ [])
    (places : Nat) : Mantissa (pointed digits places) (value digits) places := by
  unfold pointed
  split
  · next none_ =>
    subst none_
    exact .plain all some_
  · next several =>
    split
    · next inside =>
      have parts := Mantissa.pointed (all.take (digits.length - places))
        (by rw [← List.length_pos_iff, List.length_take]; omega) (all.drop (digits.length - places))
      rw [List.take_append_drop, List.length_drop] at parts
      rwa [show digits.length - (digits.length - places) = places by omega] at parts
    · next outside =>
      have zero : IsDigits ['0'] := isDigits_zeros 1
      have parts := Mantissa.pointed zero (List.cons_ne_nil _ _)
        ((isDigits_zeros (places - digits.length)).append all)
      rw [← List.append_assoc, show ['0'] ++ List.replicate (places - digits.length) '0' =
        List.replicate (places - digits.length + 1) '0' from rfl, value_zeros_append,
        List.length_append, List.length_replicate] at parts
      rwa [show places - digits.length + digits.length = places by omega] at parts

/-- A mantissa begins with a digit. -/
theorem Mantissa.eq_cons {text : List Char} {coefficient places : Nat}
    (mantissa : Mantissa text coefficient places) :
    ∃ first rest, text = first :: rest ∧ first.isDigit = true := by
  cases mantissa with
  | plain all some_ =>
    obtain ⟨first, rest, rfl⟩ := List.exists_cons_of_ne_nil some_
    exact ⟨first, rest, rfl, all first List.mem_cons_self⟩
  | pointed all some_ _ =>
    obtain ⟨first, rest, rfl⟩ := List.exists_cons_of_ne_nil some_
    exact ⟨first, _, rfl, all first List.mem_cons_self⟩

theorem mantissa_pointedAtFirst {digits : List Char} (all : IsDigits digits) (some_ : digits ≠ []) :
    Mantissa (pointedAtFirst digits) (value digits) (digits.length - 1) := by
  match digits with
  | [] => exact absurd rfl some_
  | [first] => exact .plain all some_
  | first :: second :: rest =>
    have whole : IsDigits [first] := all.take 1
    exact .pointed whole (List.cons_ne_nil _ _) (all.drop 1)

/-! ### Reading a mantissa -/

/-- A minus sign, or nothing. -/
def signChars (negative : Bool) : List Char := if negative then ['-'] else []

/-- A magnitude with its sign. -/
def withSign (negative : Bool) (magnitude : Nat) : Int :=
  if negative then -(magnitude : Int) else magnitude

theorem integer?_signChars (negative : Bool) {digits : List Char} (all : IsDigits digits)
    (some_ : digits ≠ []) :
    integer? (signChars negative ++ digits) = some (withSign negative (value digits)) := by
  cases negative
  · exact integer?_of_isDigits all some_
  · exact integer?_minus all some_

/-- Digits behind a sign hold no mark that is neither a digit nor the minus sign. -/
theorem ne_mark_of_signed (negative : Bool) {digits : List Char} (all : IsDigits digits)
    {mark : Char} (noDigit : mark.isDigit = false) (noMinus : '-' ≠ mark) :
    ∀ char ∈ signChars negative ++ digits, char ≠ mark := by
  intro char member
  rcases List.mem_append.mp member with sign | inside
  · cases negative
    · cases sign
    · rw [List.mem_singleton.mp sign]
      exact noMinus
  · exact ne_of_isDigit (all char inside) noDigit

/-- A signed mantissa holds no mark but its point. -/
theorem Mantissa.ne_mark {text : List Char} {coefficient places : Nat}
    (mantissa : Mantissa text coefficient places) (negative : Bool) {mark : Char}
    (noDigit : mark.isDigit = false) (noMinus : '-' ≠ mark) (noPoint : '.' ≠ mark) :
    ∀ char ∈ signChars negative ++ text, char ≠ mark := by
  cases mantissa with
  | plain all => exact ne_mark_of_signed negative all noDigit noMinus
  | pointed first _ last =>
    intro char member
    rw [← List.append_assoc] at member
    rcases List.mem_append.mp member with whole | behind
    · exact ne_mark_of_signed negative first noDigit noMinus char whole
    · rcases List.mem_cons.mp behind with rfl | later
      · exact noPoint
      · exact ne_of_isDigit (last char later) noDigit

/-- The digits of a mantissa, its point taken out, and the places behind it. -/
theorem Mantissa.digits {text : List Char} {coefficient places : Nat}
    (mantissa : Mantissa text coefficient places) :
    let behind := (text.dropWhile (· != '.')).drop 1
    let digits := text.takeWhile (· != '.') ++ behind
    IsDigits digits ∧ digits ≠ [] ∧ value digits = coefficient ∧ behind.length = places := by
  cases mantissa with
  | plain all some_ =>
    have noPoint : ∀ char ∈ text, (char != '.') = true :=
      fun char member => bne_iff_ne.mpr (ne_of_isDigit (all char member) rfl)
    have stop : ∀ char ∈ List.head? [], (char != '.') = false := by simp
    have cut := takeWhile_of_stop noPoint stop
    have rest := dropWhile_of_stop noPoint stop
    rw [List.append_nil] at cut rest
    rw [cut, rest, List.drop_nil]
    intro behind digits
    have whole : digits = text := List.append_nil text
    rw [whole]
    exact ⟨all, some_, rfl, rfl⟩
  | @pointed whole places first some_ last =>
    have noPoint : ∀ char ∈ whole, (char != '.') = true :=
      fun char member => bne_iff_ne.mpr (ne_of_isDigit (first char member) rfl)
    have stop : ∀ char ∈ ('.' :: places).head?, (char != '.') = false := by simp
    rw [takeWhile_of_stop noPoint stop, dropWhile_of_stop noPoint stop]
    exact ⟨first.append last, List.append_ne_nil_of_left_ne_nil some_ _, rfl, rfl⟩

/-- The coefficient and the places of a signed mantissa, as they are read. -/
theorem Mantissa.parts {text : List Char} {coefficient places : Nat}
    (mantissa : Mantissa text coefficient places) (negative : Bool) :
    let base := signChars negative ++ text
    let behind := (base.dropWhile (· != '.')).drop 1
    integer? (base.takeWhile (· != '.') ++ behind) = some (withSign negative coefficient) ∧
      behind.length = places := by
  have noPoint : ∀ char ∈ signChars negative, (char != '.') = true := by
    cases negative <;> simp [signChars]
  obtain ⟨all, some_, written, length⟩ := mantissa.digits
  intro base behind
  have found : behind = (text.dropWhile (· != '.')).drop 1 := by
    rw [show behind = List.drop 1 _ from rfl, List.dropWhile_append_of_pos noPoint]
  rw [List.takeWhile_append_of_pos noPoint, List.append_assoc, found,
    integer?_signChars negative all some_, written]
  exact ⟨rfl, length⟩

/-- **Reading a signed mantissa with its exponent.** -/
theorem spelled?_mantissa (negative : Bool) {text tail : List Char} {coefficient places : Nat}
    {exponent : Int} (mantissa : Mantissa text coefficient places)
    (marked : ∀ char ∈ tail.head?, isExponentMark char = true)
    (read : readExponent? tail = some exponent) :
    spelled? (signChars negative ++ text ++ tail) =
      some ⟨withSign negative coefficient, places - exponent⟩ := by
  have accepted : ∀ char ∈ signChars negative ++ text, (!isExponentMark char) = true := by
    intro char member
    have lower : char ≠ 'e' := mantissa.ne_mark negative rfl (by decide) (by decide) char member
    have upper : char ≠ 'E' := mantissa.ne_mark negative rfl (by decide) (by decide) char member
    simp [isExponentMark, lower, upper]
  have stop : ∀ char ∈ tail.head?, (!isExponentMark char) = false := by
    intro char first
    rw [marked char first]
    rfl
  obtain ⟨digits, length⟩ := mantissa.parts negative
  unfold spelled?
  rw [takeWhile_of_stop accepted stop, dropWhile_of_stop accepted stop, read]
  simp only [Option.bind_eq_bind, Option.bind_some, digits, length]
  rfl

/-! ### The layouts -/

/-- The places are written as zeros before the point. -/
def WritesZeros (scale : Int) : Prop := -trailingZeroLimit ≤ scale ∧ scale < 0

instance (scale : Int) : Decidable (WritesZeros scale) := inferInstanceAs (Decidable (_ ∧ _))

/-- A magnitude's text is a mantissa and an exponent, a positive one behind an integer only, and
what they spell denotes the magnitude at its places, or at none if these are written as zeros. -/
theorem magnitudeText_eq (magnitude : Nat) (scale : Int) :
    ∃ mantissa tail coefficient places exponent,
      magnitudeText magnitude scale = mantissa ++ tail ∧ Mantissa mantissa coefficient places ∧
        (∀ char ∈ tail.head?, isExponentMark char = true) ∧
        readExponent? tail = some exponent ∧ (0 < exponent → places = 0) ∧
        ((places - exponent = scale ∧ ¬WritesZeros scale ∧ coefficient = magnitude) ∨
          (places - exponent = 0 ∧ WritesZeros scale ∧
            coefficient = magnitude * 10 ^ scale.natAbs)) := by
  have all := isDigits_ofNat magnitude
  have some_ := ofNat_ne_nil magnitude
  have written := value_ofNat magnitude
  have long : 0 < (Digits.ofNat magnitude).length := List.length_pos_iff.mpr some_
  unfold magnitudeText
  simp only [WritesZeros]
  have lead : leadingZeroLimit = 5 := rfl
  have trail : trailingZeroLimit = 15 := rfl
  split
  · next small =>
    refine ⟨_, _, _, _, _, rfl, mantissa_pointedAtFirst all some_, ?_, integer?_ofInt _, ?_,
      .inl ?_⟩
    · rintro char ⟨⟩
      rfl
    · omega
    · exact ⟨by omega, by omega, written⟩
  · split
    · next large =>
      refine ⟨_, _, _, _, _, rfl, .plain all some_, ?_, integer?_withSign _, fun _ => rfl, .inl ?_⟩
      · rintro char ⟨⟩
        rfl
      · exact ⟨by omega, by omega, written⟩
    · split
      · next zeros =>
        refine ⟨_, [], _, _, 0, (List.append_nil _).symm,
          .plain (all.append (isDigits_zeros _)) (List.append_ne_nil_of_left_ne_nil some_ _), ?_,
          rfl, fun _ => rfl, .inr ⟨rfl, by omega, ?_⟩⟩
        · rintro char ⟨⟩
        · rw [value_append_zeros, written]
      · next plain =>
        refine ⟨_, [], _, _, 0, (List.append_nil _).symm,
          mantissa_pointed all some_ scale.toNat, ?_,
          rfl, by omega, .inl ⟨by omega, by omega, written⟩⟩
        rintro char ⟨⟩

theorem chars_eq {number : Decimal} (nonzero : number.coefficient ≠ 0) :
    number.chars = signChars (decide (number.coefficient < 0)) ++
      magnitudeText number.coefficient.natAbs number.scale := by
  rw [chars, if_neg nonzero]
  by_cases negative : number.coefficient < 0 <;> simp [negative, signChars]

theorem withSign_natAbs (coefficient : Int) :
    withSign (decide (coefficient < 0)) coefficient.natAbs = coefficient := by
  unfold withSign
  split
  · next negative =>
    have := of_decide_eq_true negative
    omega
  · next positive =>
    have := of_decide_eq_false (Bool.not_eq_true _ ▸ positive)
    omega

theorem withSign_mul (negative : Bool) (magnitude factor : Nat) :
    withSign negative (magnitude * factor) = withSign negative magnitude * factor := by
  cases negative <;> simp [withSign]

/-! ### What the text spells -/

/-- The decimal as its text shows it: zeros written before the point belong to the coefficient, and
zero has no places. -/
def shown (number : Decimal) : Decimal :=
  if number.coefficient = 0 then ⟨0, 0⟩
  else if WritesZeros number.scale then
    ⟨number.coefficient * 10 ^ number.scale.natAbs, 0⟩
  else number

theorem toRat_shown (number : Decimal) : number.shown.toRat = number.toRat := by
  unfold shown
  split
  · next zero => rw [toRat_zero, toRat, zero, Int.cast_zero, zero_mul]
  · split
    · next zeros =>
      have negative : number.scale < 0 := zeros.2
      rw [toRat_zeros]
      congr 2
      omega
    · rfl

theorem scale_shown (number : Decimal) :
    number.shown.scale = number.scale ∨ number.shown.scale = 0 := by
  unfold shown
  split
  · exact .inr rfl
  · split
    · exact .inr rfl
    · exact .inl rfl

/-- **A decimal's text spells the decimal as it is shown.** -/
theorem spelled?_chars (number : Decimal) : spelled? number.chars = some number.shown := by
  by_cases zero : number.coefficient = 0
  · rw [chars, if_pos zero, shown, if_pos zero]
    rfl
  · obtain ⟨mantissa, tail, coefficient, places, exponent, text, parts, marked, exponentRead, _,
      cases_⟩ :=
      magnitudeText_eq number.coefficient.natAbs number.scale
    have read := spelled?_mantissa (decide (number.coefficient < 0)) parts marked exponentRead
    rw [List.append_assoc, ← text, ← chars_eq zero] at read
    rw [read, shown, if_neg zero]
    rcases cases_ with ⟨same, apart, digits⟩ | ⟨none_, zeros, digits⟩
    · rw [same, digits, withSign_natAbs, if_neg apart]
    · rw [none_, digits, withSign_mul, withSign_natAbs, if_pos zeros, Nat.cast_pow,
        Nat.cast_ofNat]

/-- Zeros written before the point are those of an integer. -/
theorem magnitudeText_zeros {magnitude : Nat} {scale : Int} (positive : 0 < magnitude)
    (zeros : WritesZeros scale) :
    magnitudeText (magnitude * 10 ^ scale.natAbs) 0 = magnitudeText magnitude scale := by
  obtain ⟨few, negative⟩ := zeros
  have lead : leadingZeroLimit = 5 := rfl
  have trail : trailingZeroLimit = 15 := rfl
  unfold magnitudeText
  simp only
  rw [if_neg (by omega), if_neg (by omega), if_neg (by omega), if_neg (by omega),
    if_neg (by omega), if_pos negative, ofNat_mul_pow positive]
  exact if_pos rfl

/-- A decimal is written as it is shown. -/
theorem chars_shown (number : Decimal) : number.shown.chars = number.chars := by
  unfold shown
  split
  · next zero => rw [chars, chars, if_pos zero, if_pos rfl]
  · next nonzero =>
    split
    · next zeros =>
      have unit : (0 : Int) < 10 ^ number.scale.natAbs := by positivity
      have magnitude : (number.coefficient * 10 ^ number.scale.natAbs).natAbs =
          number.coefficient.natAbs * 10 ^ number.scale.natAbs := by
        rw [Int.natAbs_mul, Int.natAbs_pow]
        rfl
      have sign : number.coefficient * 10 ^ number.scale.natAbs < 0 ↔ number.coefficient < 0 := by
        rw [← not_le, ← not_le, mul_nonneg_iff_of_pos_right unit]
      rw [chars_eq nonzero, chars_eq (mul_ne_zero nonzero unit.ne'), magnitude,
        magnitudeText_zeros (Int.natAbs_pos.mpr nonzero) zeros]
      simp only [sign]
    · rfl

/-- Decimals of the same places that denote the same number are the same. -/
theorem eq_of_toRat_of_scale {left right : Decimal} (number : left.toRat = right.toRat)
    (places : left.scale = right.scale) : left = right := by
  cases left
  cases right
  obtain rfl : _ = _ := places
  rw [toRat_inj_coefficient.mp number]

/-- **Two decimals have the same text exactly if they denote the same number and show the same
places.** -/
theorem chars_eq_iff (left right : Decimal) :
    left.chars = right.chars ↔
      left.toRat = right.toRat ∧ left.shown.scale = right.shown.scale := by
  constructor
  · intro same
    have spelled := spelled?_chars left
    rw [same, spelled?_chars right] at spelled
    have shown_ : left.shown = right.shown := (Option.some.inj spelled).symm
    rw [← toRat_shown left, ← toRat_shown right, shown_]
    exact ⟨rfl, rfl⟩
  · rintro ⟨number, places⟩
    rw [← toRat_shown left, ← toRat_shown right] at number
    have shown_ : left.shown = right.shown := eq_of_toRat_of_scale number places
    rw [← chars_shown left, ← chars_shown right, shown_]

/-- **A decimal's text is read back** as a decimal that denotes the same number. -/
theorem ofText?_chars {number : Decimal} (fits : number.FitsWord) :
    ∃ read, ofText? (String.ofList number.chars) = some read ∧ read.toRat = number.toRat := by
  refine ⟨number.shown, ?_, toRat_shown number⟩
  have inRange : -2 ^ 63 ≤ number.shown.scale ∧ number.shown.scale < 2 ^ 63 := by
    obtain ⟨low, high⟩ := fits
    rcases scale_shown number with kept | none_ <;> omega
  rw [ofText?, String.toList_ofList, ofChars?, spelled?_chars, Option.filter_some,
    if_pos (decide_eq_true inRange)]

end TwinStore.Decimal
