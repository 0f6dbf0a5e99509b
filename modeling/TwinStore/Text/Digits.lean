/-
**Digit text.** Natural numbers and integers as decimal text, and back.

* `Digits.natural?` reads one or more digits and nothing else.
* `Digits.integer?` reads a natural number behind an optional sign.
* `natural?_ofNat`: reading the digits of a number gives the number.
-/

-- Powers of ten and of two are the core library's in every module, also beside an algebra library
-- that brings its own powers of numbers.
attribute [instance (20000), default_instance 20000] instPowNat

namespace TwinStore.Digits

/-- The decimal digits of a number, most significant first and without leading zeros. -/
def ofNat (value : Nat) : List Char := Nat.toDigits 10 value

/-- The number that a list of decimal digits denotes. -/
def value (digits : List Char) : Nat := Nat.ofDigitChars 10 digits 0

/-- Reads one or more decimal digits. -/
def natural? (text : List Char) : Option Nat :=
  if text ≠ [] ∧ text.all Char.isDigit then some (value text) else none

/-- Reads a natural number behind an optional sign. -/
def integer? : List Char → Option Int
  | '-' :: rest => (natural? rest).map fun magnitude => -(magnitude : Int)
  | '+' :: rest => (natural? rest).map fun magnitude => (magnitude : Int)
  | text => (natural? text).map fun magnitude => (magnitude : Int)

/-- The decimal text of an integer, a minus sign before the negative ones. -/
def ofInt (value : Int) : List Char :=
  if value < 0 then '-' :: ofNat value.natAbs else ofNat value.natAbs

/-- The decimal text of an integer behind its sign, which is a plus sign for zero. -/
def withSign (value : Int) : List Char :=
  (if value < 0 then '-' else '+') :: ofNat value.natAbs

/-- The decimal digits of a number behind as many zeros as fill the width. -/
def padded (width value : Nat) : List Char :=
  List.replicate (width - (ofNat value).length) '0' ++ ofNat value

/-- Digits denote the number they were written for. -/
@[simp] theorem value_ofNat (number : Nat) : value (ofNat number) = number :=
  Nat.ofDigitChars_ten_toDigits

/-- Every character of a number's text is a digit. -/
theorem isDigit_of_mem_ofNat {number : Nat} {char : Char} (member : char ∈ ofNat number) :
    char.isDigit :=
  Nat.isDigit_of_mem_toDigits (by decide) (by decide) member

/-- A number's text is not empty. -/
theorem ofNat_ne_nil (number : Nat) : ofNat number ≠ [] := Nat.toDigits_ne_nil

/-- Reading a number's text gives the number. -/
@[simp] theorem natural?_ofNat (number : Nat) : natural? (ofNat number) = some number := by
  have digits : (ofNat number).all Char.isDigit = true :=
    List.all_eq_true.mpr fun _ member => isDigit_of_mem_ofNat member
  simp [natural?, ofNat_ne_nil, digits]

end TwinStore.Digits
