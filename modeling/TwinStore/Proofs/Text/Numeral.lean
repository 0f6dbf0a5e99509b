/-
**What numerals denote.** The laws of digit text that every written number rests on: digits behind
digits, zeros at either end, signs, and words.

* `takeWhile_of_stop` and `dropWhile_of_stop`: where a text is cut that ends at its first mark.
* `value_append`: the value of joined digits; leading zeros add nothing, trailing ones multiply.
* `integer?_ofInt` and `integer?_withSign`: both ways of writing an integer are read back.
* `readSigned?_ofInt` and `readUnsigned?_ofNat`: so are words of sixty-four bits.
-/

import TwinStore.Text.Word

namespace TwinStore

/-! ### Texts up to a mark -/

section Cut

variable {accepts : Char → Bool} {left right : List Char}

theorem takeWhile_of_stop (accepted : ∀ char ∈ left, accepts char = true)
    (stop : ∀ char ∈ right.head?, accepts char = false) :
    (left ++ right).takeWhile accepts = left := by
  rw [List.takeWhile_append_of_pos accepted]
  cases right with
  | nil => rw [List.takeWhile_nil, List.append_nil]
  | cons first rest =>
    rw [List.takeWhile_cons_of_neg (by rw [stop first rfl]; decide), List.append_nil]

theorem dropWhile_of_stop (accepted : ∀ char ∈ left, accepts char = true)
    (stop : ∀ char ∈ right.head?, accepts char = false) :
    (left ++ right).dropWhile accepts = right := by
  rw [List.dropWhile_append_of_pos accepted]
  cases right with
  | nil => rfl
  | cons first rest => rw [List.dropWhile_cons_of_neg (by rw [stop first rfl]; decide)]

end Cut

namespace Digits

/-- Every character of the text is a decimal digit. -/
def IsDigits (text : List Char) : Prop := ∀ char ∈ text, char.isDigit = true

theorem isDigits_ofNat (number : Nat) : IsDigits (ofNat number) :=
  fun _ member => isDigit_of_mem_ofNat member

theorem isDigits_zeros (count : Nat) : IsDigits (List.replicate count '0') := by
  intro char member
  rw [List.eq_of_mem_replicate member]
  rfl

theorem IsDigits.append {left right : List Char} (first : IsDigits left) (second : IsDigits right) :
    IsDigits (left ++ right) := by
  intro char member
  rcases List.mem_append.mp member with found | found
  · exact first char found
  · exact second char found

theorem IsDigits.take {text : List Char} (digits : IsDigits text) (count : Nat) :
    IsDigits (text.take count) :=
  fun char member => digits char (List.mem_of_mem_take member)

theorem IsDigits.drop {text : List Char} (digits : IsDigits text) (count : Nat) :
    IsDigits (text.drop count) :=
  fun char member => digits char (List.mem_of_mem_drop member)

/-- A digit is none of the marks that numbers and dates are written with. -/
theorem ne_of_isDigit {char mark : Char} (digit : char.isDigit = true)
    (noDigit : mark.isDigit = false) : char ≠ mark := by
  rintro rfl
  rw [digit] at noDigit
  cases noDigit

/-! ### Values -/

/-- **The value of joined digits.** -/
theorem value_append (left right : List Char) :
    value (left ++ right) = value left * 10 ^ right.length + value right := by
  unfold value
  rw [Nat.ofDigitChars_append, Nat.ofDigitChars_eq_ofDigitChars_zero, Nat.mul_comm]

theorem value_zeros (count : Nat) : value (List.replicate count '0') = 0 := by
  unfold value
  rw [Nat.ofDigitChars_replicate_zero, Nat.mul_zero]

theorem value_zeros_append (count : Nat) (digits : List Char) :
    value (List.replicate count '0' ++ digits) = value digits := by
  rw [value_append, value_zeros, Nat.zero_mul, Nat.zero_add]

theorem value_append_zeros (digits : List Char) (count : Nat) :
    value (digits ++ List.replicate count '0') = value digits * 10 ^ count := by
  rw [value_append, value_zeros, Nat.add_zero, List.length_replicate]

/-- A number's zeros are written behind its digits. -/
theorem ofNat_mul_pow {number : Nat} (positive : 0 < number) (count : Nat) :
    ofNat (number * 10 ^ count) = ofNat number ++ List.replicate count '0' := by
  induction count with
  | zero => simp
  | succ count step =>
    have more : 0 < number * 10 ^ count := Nat.mul_pos positive (Nat.pow_pos (by decide))
    have digit := Nat.toDigits_append_toDigits (b := 10) (d := 0) (by decide) more (by decide)
    rw [Nat.toDigits_zero, Nat.add_zero] at digit
    rw [Nat.pow_succ, ← Nat.mul_assoc, Nat.mul_comm _ 10, List.replicate_succ',
      ← List.append_assoc, ← step]
    exact digit.symm

/-! ### Padding -/

theorem isDigits_padded (width number : Nat) : IsDigits (padded width number) :=
  (isDigits_zeros _).append (isDigits_ofNat number)

theorem padded_ne_nil (width number : Nat) : padded width number ≠ [] :=
  List.append_ne_nil_of_right_ne_nil _ (ofNat_ne_nil number)

@[simp] theorem value_padded (width number : Nat) : value (padded width number) = number := by
  rw [padded, value_zeros_append, value_ofNat]

/-- A number has as many digits at most as its bound shows. -/
theorem length_ofNat_le {number width : Nat} (positive : 0 < width) (small : number < 10 ^ width) :
    (ofNat number).length ≤ width :=
  (Nat.length_toDigits_le_iff (by decide) positive).mpr small

/-- A number that fits the width is padded to exactly that width. -/
theorem length_padded {number width : Nat} (positive : 0 < width) (small : number < 10 ^ width) :
    (padded width number).length = width := by
  have fits := length_ofNat_le positive small
  rw [padded, List.length_append, List.length_replicate]
  omega

/-! ### Reading -/

theorem natural?_of_isDigits {text : List Char} (digits : IsDigits text) (some_ : text ≠ []) :
    natural? text = some (value text) := by
  rw [natural?, if_pos ⟨some_, List.all_eq_true.mpr digits⟩]

theorem integer?_of_isDigits {text : List Char} (digits : IsDigits text) (some_ : text ≠ []) :
    integer? text = some (value text : Int) := by
  have read := natural?_of_isDigits digits some_
  match text with
  | [] => exact absurd rfl some_
  | first :: rest =>
    have digit : first.isDigit = true := digits first List.mem_cons_self
    rw [integer?, read]
    · rfl
    · intro other same
      exact ne_of_isDigit digit rfl (List.cons.inj same).1
    · intro other same
      exact ne_of_isDigit digit rfl (List.cons.inj same).1

theorem integer?_minus {text : List Char} (digits : IsDigits text) (some_ : text ≠ []) :
    integer? ('-' :: text) = some (-(value text : Int)) := by
  rw [integer?, natural?_of_isDigits digits some_]
  rfl

@[simp] theorem integer?_ofNat (number : Nat) : integer? (ofNat number) = some (number : Int) := by
  rw [integer?_of_isDigits (isDigits_ofNat number) (ofNat_ne_nil number), value_ofNat]

/-- **An integer's text is read back.** -/
@[simp] theorem integer?_ofInt (number : Int) : integer? (ofInt number) = some number := by
  unfold ofInt
  split
  · next negative =>
    rw [integer?_minus (isDigits_ofNat _) (ofNat_ne_nil _), value_ofNat]
    congr 1
    omega
  · next positive =>
    rw [integer?_ofNat]
    congr 1
    omega

/-- An integer's text behind its sign is read back. -/
@[simp] theorem integer?_withSign (number : Int) : integer? (withSign number) = some number := by
  unfold withSign
  split
  · next negative =>
    rw [integer?_minus (isDigits_ofNat _) (ofNat_ne_nil _), value_ofNat]
    congr 1
    omega
  · next positive =>
    rw [integer?, natural?_ofNat]
    change some ((number.natAbs : Nat) : Int) = some number
    congr 1
    omega

end Digits

namespace Word

/-- **A signed word's text is read back.** -/
@[simp] theorem readSigned?_ofInt (word : Int64) :
    readSigned? (Digits.ofInt word.toInt) = some word := by
  rw [readSigned?, Digits.integer?_ofInt, Option.bind_some, signed?_toInt]

/-- **An unsigned word's text is read back.** -/
@[simp] theorem readUnsigned?_ofNat (word : UInt64) :
    readUnsigned? (Digits.ofNat word.toNat) = some word := by
  have noMinus : ∀ rest, Digits.ofNat word.toNat ≠ '-' :: rest := by
    intro rest same
    have member : '-' ∈ Digits.ofNat word.toNat := same ▸ List.mem_cons_self
    exact absurd (Digits.isDigits_ofNat _ _ member) (by decide)
  rw [readUnsigned?.eq_2 _ noMinus, Digits.integer?_ofNat, Option.bind_some, unsigned?_toNat]

/-- A signed word is read from the text of any integer in its range. -/
theorem readSigned?_of_range {number : Int} (low : -2 ^ 63 ≤ number) (high : number < 2 ^ 63) :
    readSigned? (Digits.ofInt number) = some (Int64.ofInt number) := by
  rw [readSigned?, Digits.integer?_ofInt, Option.bind_some, signed?, if_pos ⟨low, high⟩]

end Word

end TwinStore
