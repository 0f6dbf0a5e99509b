/-
**Sixty-four bit words.** Integers that fit a signed or an unsigned word, and the reading of such
words from decimal text.

* `Word.signed?` and `Word.unsigned?` succeed exactly within the word's range.
* `signed?_toInt` and `unsigned?_toNat`: a word is found again from its value.
-/

import TwinStore.Text.Digits

namespace TwinStore.Word

/-- The signed word of an integer from `-2^63` to `2^63 - 1`. -/
def signed? (value : Int) : Option Int64 :=
  if -2 ^ 63 ≤ value ∧ value < 2 ^ 63 then some (Int64.ofInt value) else none

/-- The unsigned word of an integer from `0` to `2^64 - 1`. -/
def unsigned? (value : Int) : Option UInt64 :=
  if 0 ≤ value ∧ value < 2 ^ 64 then some (UInt64.ofNat value.toNat) else none

/-- The signed word that an optionally signed decimal text denotes. -/
def readSigned? (text : List Char) : Option Int64 := (Digits.integer? text).bind signed?

/-- The unsigned word that a decimal text denotes; a plus sign may stand before it. -/
def readUnsigned? : List Char → Option UInt64
  | '-' :: _ => none
  | text => (Digits.integer? text).bind unsigned?

/-- A signed word is found again from its value. -/
@[simp] theorem signed?_toInt (word : Int64) : signed? word.toInt = some word := by
  have low := word.le_toInt
  have high := word.toInt_lt
  rw [signed?, if_pos ⟨low, high⟩, Int64.ofInt_toInt]

/-- An unsigned word is found again from its value. -/
@[simp] theorem unsigned?_toNat (word : UInt64) : unsigned? (word.toNat : Int) = some word := by
  have high := word.toNat_lt
  rw [unsigned?, if_pos ⟨by omega, by omega⟩, Int.toNat_natCast, UInt64.ofNat_toNat]

end TwinStore.Word
