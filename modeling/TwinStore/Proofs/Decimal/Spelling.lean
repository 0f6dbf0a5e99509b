/-
**Decimals between their two texts.** Documents hold decimals as Decimal128 and values as exact
decimals, and each is made of the other's text. The conversions skip the texts; here they are gone
through.

* `Decimal128.decimal_ofText?_text`: what a Decimal128 is written as is read as the exact decimal
  that it is converted to.
* `Decimal128.ofText?_text`: what an exact decimal is written as is read as the Decimal128 that it
  is converted to, and not at all if it is converted to none. The letter of the exponent is a
  capital in one text and a small one in the other, so letter case comes first.
-/

import TwinStore.Proofs.Decimal.Decimal128

namespace TwinStore

open Digits Decimal

/-! ### From a Decimal128 to an exact decimal -/

namespace Decimal128

/-- The text of a magnitude is a mantissa and an exponent that spell it at its exponent. -/
theorem magnitudeText_spells (coefficient : Nat) (exponent : Int) :
    ∃ mantissa tail places shift,
      magnitudeText coefficient exponent = mantissa ++ tail ∧
        Mantissa mantissa coefficient places ∧
        (∀ char ∈ tail.head?, isExponentMark char = true) ∧ readExponent? tail = some shift ∧
        places - shift = -exponent := by
  have all := isDigits_ofNat coefficient
  have some_ := ofNat_ne_nil coefficient
  have long : 0 < (Digits.ofNat coefficient).length := List.length_pos_iff.mpr some_
  unfold magnitudeText
  simp only
  split
  · next plain =>
    have mantissa := mantissa_pointed all some_ exponent.natAbs
    rw [value_ofNat] at mantissa
    refine ⟨_, [], _, 0, (List.append_nil _).symm, mantissa, ?_, rfl, by omega⟩
    rintro char ⟨⟩
  · have mantissa := mantissa_pointedAtFirst all some_
    rw [value_ofNat] at mantissa
    refine ⟨_, _, _, _, rfl, mantissa, ?_, integer?_withSign _, by omega⟩
    rintro char ⟨⟩
    rfl

/-- **What a Decimal128 is written as is read as the exact decimal of it**, and not at all if it is
no number. -/
theorem decimal_ofText?_text (stored : Decimal128) :
    Decimal.ofText? stored.text = stored.toDecimal? := by
  cases stored with
  | nan => decide
  | infinity negative => cases negative <;> decide
  | finite negative coefficient exponent short low high =>
    obtain ⟨mantissa, tail, places, shift, text, parts, marked, read, number⟩ :=
      magnitudeText_spells coefficient exponent
    have spelled := spelled?_mantissa negative parts marked read
    have written : (finite negative coefficient exponent short low high).text =
        String.ofList (signChars negative ++ mantissa ++ tail) := by
      rw [List.append_assoc, ← text]
      cases negative <;> rfl
    have fits : -2 ^ 63 ≤ -exponent ∧ -exponent < 2 ^ 63 := by omega
    rw [written, Decimal.ofText?, String.toList_ofList, ofChars?, spelled, number,
      Option.filter_some, if_pos (decide_eq_true fits)]
    rfl

end Decimal128

/-! ### Letter case -/

theorem Digits.toLower_of_isDigit {char : Char} (digit : char.isDigit = true) :
    char.toLower = char := by
  simp only [Char.isDigit, Bool.and_eq_true, decide_eq_true_eq] at digit
  unfold Char.toLower
  split
  · next upper => exact absurd (UInt32.le_trans upper.1 digit.2) (by decide)
  · rfl

theorem Digits.map_toLower_of_isDigits {text : List Char} (digits : IsDigits text) :
    text.map Char.toLower = text := by
  have each : text.map Char.toLower = text.map id :=
    List.map_congr_left fun char member => toLower_of_isDigit (digits char member)
  rw [each, List.map_id]

theorem Digits.isDigits_of_natural? {text : List Char} {number : Nat}
    (read : natural? text = some number) : IsDigits text := by
  unfold natural? at read
  split at read
  · next digits => exact List.all_eq_true.mp digits.2
  · cases read

/-- The text of an integer has no letters. -/
theorem Digits.map_toLower_of_integer? {text : List Char} {number : Int}
    (read : integer? text = some number) : text.map Char.toLower = text := by
  unfold integer? at read
  split at read
  all_goals
    simp only [Option.map_eq_some_iff, Option.bind_eq_bind, Option.bind_eq_some_iff] at read
    obtain ⟨_, ⟨magnitude, inner, _⟩, _⟩ := read
    have lower := map_toLower_of_isDigits (isDigits_of_natural? inner)
  · rw [List.map_cons, lower]
    rfl
  · rw [List.map_cons, lower]
    rfl
  · exact lower

theorem Decimal.Mantissa.map_toLower {text : List Char} {coefficient places : Nat}
    (mantissa : Mantissa text coefficient places) : text.map Char.toLower = text := by
  cases mantissa with
  | plain all => exact map_toLower_of_isDigits all
  | pointed first _ last =>
    rw [List.map_append, List.map_cons, map_toLower_of_isDigits first,
      map_toLower_of_isDigits last]
    rfl

/-- The mark of an exponent becomes a small letter, what it denotes stays. -/
theorem Decimal.exponent_toLower {tail : List Char} {exponent : Int}
    (marked : ∀ char ∈ tail.head?, isExponentMark char = true)
    (read : readExponent? tail = some exponent) :
    (∀ char ∈ (tail.map Char.toLower).head?, char = 'e') ∧
      readExponent? (tail.map Char.toLower) = some exponent := by
  cases tail with
  | nil => exact ⟨fun _ => nofun, read⟩
  | cons mark digits =>
    have letter : mark = 'e' ∨ mark = 'E' := by
      simpa [isExponentMark] using marked mark rfl
    have small : mark.toLower = 'e' := by
      rcases letter with rfl | rfl <;> rfl
    rw [List.map_cons, small, map_toLower_of_integer? read]
    refine ⟨?_, read⟩
    rintro char ⟨⟩
    rfl

/-! ### From an exact decimal to a Decimal128 -/

namespace Decimal128

/-- **Reading a mantissa with its exponent**, which has to fit sixteen bits. -/
theorem ofUnsignedChars?_mantissa (negative : Bool) {text tail : List Char}
    {coefficient places : Nat} {exponent : Int} (mantissa : Mantissa text coefficient places)
    (marked : ∀ char ∈ tail.head?, char = 'e') (read : readExponent? tail = some exponent) :
    ofUnsignedChars? negative (text ++ tail) =
      if exponent < -2 ^ 15 ∨ 2 ^ 15 ≤ exponent then none
      else fit? negative coefficient (exponent - places) := by
  obtain ⟨first, rest, starts, digit⟩ := mantissa.eq_cons
  have noWord : ∀ word : List Char, (∀ char ∈ word.head?, char.isDigit = false) →
      text ++ tail ≠ word := by
    rintro word letters rfl
    rw [starts] at letters
    exact ne_of_isDigit digit (letters first rfl) rfl
  have accepted : ∀ char ∈ text, (char != 'e') = true := fun char member =>
    bne_iff_ne.mpr (mantissa.ne_mark false rfl (by decide) (by decide) char member)
  have stop : ∀ char ∈ tail.head?, (char != 'e') = false := by
    intro char first
    rw [marked char first]
    rfl
  obtain ⟨all, some_, written, length⟩ := mantissa.digits
  unfold ofUnsignedChars?
  rw [if_neg (not_or.mpr ⟨noWord _ (by simp), noWord _ (by simp)⟩),
    if_neg (not_or.mpr ⟨noWord _ (by simp), noWord _ (by simp)⟩),
    takeWhile_of_stop accepted stop, dropWhile_of_stop accepted stop, read]
  simp only [Option.bind_eq_bind, Option.bind_some, natural?_of_isDigits all some_, written, length]
  rfl

/-- The sign is read first. -/
theorem ofText?_signChars (negative : Bool) {text : List Char}
    (starts : ∃ first rest, text = first :: rest ∧ first.isDigit = true) {whole : String}
    (lower : whole.toList.map Char.toLower = signChars negative ++ text) :
    ofText? whole = ofUnsignedChars? negative text := by
  unfold ofText?
  rw [lower]
  obtain ⟨first, rest, rfl, digit⟩ := starts
  cases negative with
  | true => rfl
  | false =>
    rw [show signChars false ++ first :: rest = first :: rest from rfl]
    split
    · next same => exact absurd (List.cons.inj same).1 (ne_of_isDigit digit rfl)
    · next same => exact absurd (List.cons.inj same).1 (ne_of_isDigit digit rfl)
    · rfl

/-- An exponent beyond sixteen bits stays there behind the places of its mantissa. -/
theorem fit?_behind (negative : Bool) (coefficient : Nat) {exponent : Int} {places : Nat}
    (integral : 0 < exponent → places = 0) :
    (if exponent < -2 ^ 15 ∨ 2 ^ 15 ≤ exponent then none
      else fit? negative coefficient (exponent - places)) =
      fit? negative coefficient (exponent - places) := by
  split
  · rw [fit?, if_pos (by omega)]
  · rfl

/-- **Reading a signed mantissa with its exponent**, in either letter case. -/
theorem ofText?_mantissa (negative : Bool) {text tail : List Char} {coefficient places : Nat}
    {exponent : Int} (mantissa : Mantissa text coefficient places)
    (marked : ∀ char ∈ tail.head?, isExponentMark char = true)
    (read : readExponent? tail = some exponent) (integral : 0 < exponent → places = 0) :
    ofText? (String.ofList (signChars negative ++ (text ++ tail))) =
      fit? negative coefficient (exponent - places) := by
  obtain ⟨small, readAgain⟩ := exponent_toLower marked read
  have starts : ∃ first rest, text ++ tail.map Char.toLower = first :: rest ∧
      first.isDigit = true := by
    obtain ⟨first, rest, rfl, digit⟩ := mantissa.eq_cons
    exact ⟨first, _, rfl, digit⟩
  have lower : (String.ofList (signChars negative ++ (text ++ tail))).toList.map Char.toLower =
      signChars negative ++ (text ++ tail.map Char.toLower) := by
    rw [String.toList_ofList, List.map_append, List.map_append, mantissa.map_toLower]
    cases negative <;> rfl
  rw [ofText?_signChars negative starts lower,
    ofUnsignedChars?_mantissa negative mantissa small readAgain,
    fit?_behind negative coefficient integral]

/-- **What an exact decimal is written as is read as the Decimal128 of it**, and not at all if there
is none. -/
theorem ofText?_text (number : Decimal) : ofText? number.text = ofDecimal? number := by
  by_cases zero : number.coefficient = 0
  · have written : number.text = "0" := by
      rw [Decimal.text, chars, if_pos zero]
    have none_ : ofDecimal? number = some (Decimal128.zero false 0) := by
      rw [ofDecimal?, if_pos (Int.natAbs_eq_zero.mpr zero)]
    rw [written, none_]
    decide
  · obtain ⟨mantissa, tail, coefficient, places, exponent, text, parts, marked, exponentRead,
      integral, spelled⟩ := magnitudeText_eq number.coefficient.natAbs number.scale
    have read := ofText?_mantissa (decide (number.coefficient < 0)) parts marked exponentRead
      integral
    rw [← text, ← chars_eq zero] at read
    rw [Decimal.text, read, ofDecimal?, if_neg (Int.natAbs_ne_zero.mpr zero)]
    have trail : trailingZeroLimit = 15 := rfl
    rcases spelled with ⟨same, apart, rfl⟩ | ⟨none_, zeros, rfl⟩
    · have exponent_ : exponent - places = -number.scale := by omega
      rw [exponent_]
      split
      · next plain =>
        have noPlaces : number.scale = 0 := by
          unfold WritesZeros at apart
          omega
        rw [noPlaces, Int.natAbs_zero, Nat.pow_zero, Nat.mul_one]
        rfl
      · rfl
    · obtain ⟨few, negative⟩ := zeros
      rw [if_pos ⟨by omega, few⟩]
      congr 1
      omega

end Decimal128

end TwinStore
