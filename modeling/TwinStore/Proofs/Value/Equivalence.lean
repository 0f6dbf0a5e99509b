/-
**Equality is exact.** Values without undefined numbers fall into classes, and exact numbers of one
class are those that denote the same number.

* `Number.integer?_eq_some_iff`: the integer that an exact number denotes is found, in whatever form
  the number is.
* `Number.toSigned?_eq_some_iff` and `Number.toUnsigned?_eq_some_iff`: so is its word, if the
  integer fits one.
* `Number.toRat?_eq_of_equal`: equal numbers denote the same, or are both double precision numbers,
  so they have the same words.
* `Value.equality_is_exact` is the main result.
-/

import TwinStore.Proofs.Value.Arithmetic

namespace TwinStore

/-! ### Words -/

/-- An integer that an unsigned word holds. -/
def Word.IsUnsigned (value : Int) : Prop := 0 ≤ value ∧ value < 2 ^ 64

/-- An integer is read as the unsigned word that has its value. -/
theorem Word.unsigned?_eq_some {value : Int} {word : UInt64} :
    unsigned? value = some word ↔ (word.toNat : Int) = value := by
  constructor
  · intro found
    unfold unsigned? at found
    split at found
    · next fits =>
      cases found
      rw [UInt64.toNat_ofNat_of_lt' (by simp only [UInt64.size]; omega), Int.toNat_of_nonneg fits.1]
    · cases found
  · rintro rfl
    exact unsigned?_toNat word

theorem Word.isUnsigned_toNat (word : UInt64) : IsUnsigned word.toNat := by
  have high := word.toNat_lt
  exact ⟨by omega, by omega⟩

theorem Word.exists_unsigned? {value : Int} (fits : IsUnsigned value) :
    ∃ word, unsigned? value = some word :=
  ⟨UInt64.ofNat value.toNat, if_pos fits⟩

namespace Number

/-! ### Integers -/

/-- **The integer that an exact number denotes** is found, whatever the number's form. -/
theorem integer?_eq_some_iff {number : Number} {value : Int} :
    number.integer? = some value ↔ number.toRat? = some (value : ℚ) := by
  cases number with
  | signed word => simp [integer?, toRat?, toDecimal?]
  | unsigned word =>
    simp only [integer?, toRat?, toDecimal?, Option.map_some, Decimal.toRat_ofInt,
      Option.some.injEq, Int.cast_inj]
  | float => simp [integer?, toRat?, toDecimal?]
  | decimal number =>
    simp only [integer?, toRat?, toDecimal?, Option.map_some, Option.some.injEq,
      Decimal.toInt?_eq_some_iff]

/-- A number is found to be a signed word exactly if it denotes an integer that one holds. -/
theorem toSigned?_eq_some_iff {number : Number} {value : Int} :
    number.toSigned?.map Int64.toInt = some value ↔
      number.toRat? = some (value : ℚ) ∧ Word.IsSigned value := by
  simp only [toSigned?, Option.map_eq_some_iff, Option.bind_eq_some_iff, Word.signed?_eq_some,
    integer?_eq_some_iff]
  constructor
  · rintro ⟨word, ⟨_, denoted, rfl⟩, rfl⟩
    exact ⟨denoted, Word.isSigned_toInt word⟩
  · rintro ⟨denoted, fits⟩
    obtain ⟨word, held⟩ := Word.exists_signed? fits
    have same := Word.signed?_eq_some.mp held
    exact ⟨word, ⟨value, denoted, same⟩, same⟩

/-- So it is with unsigned words. -/
theorem toUnsigned?_eq_some_iff {number : Number} {value : Int} :
    number.toUnsigned?.map (fun word => (word.toNat : Int)) = some value ↔
      number.toRat? = some (value : ℚ) ∧ Word.IsUnsigned value := by
  simp only [toUnsigned?, Option.map_eq_some_iff, Option.bind_eq_some_iff, Word.unsigned?_eq_some,
    integer?_eq_some_iff]
  constructor
  · rintro ⟨word, ⟨_, denoted, rfl⟩, rfl⟩
    exact ⟨denoted, Word.isUnsigned_toNat word⟩
  · rintro ⟨denoted, fits⟩
    obtain ⟨word, held⟩ := Word.exists_unsigned? fits
    have same := Word.unsigned?_eq_some.mp held
    exact ⟨word, ⟨value, denoted, same⟩, same⟩

/-! ### Equal numbers -/

theorem equal_iff_of_exact {left right : Number} (one : left.isExact = true)
    (two : right.isExact = true) : left.equal right = true ↔ left.toRat? = right.toRat? := by
  obtain ⟨x, denoted⟩ := isExact_iff.mp one
  obtain ⟨y, otherDenoted⟩ := isExact_iff.mp two
  rw [equal_of_toRat? denoted otherDenoted, denoted, otherDenoted, Option.some.injEq]

/-- A double precision number equals no exact one. -/
theorem float_equal_of_exact (value : Binary64) {number : Number} (exact_ : number.isExact = true) :
    (float value).equal number = false ∧ number.equal (float value) = false := by
  cases number with
  | float => cases exact_
  | signed | unsigned | decimal => exact ⟨rfl, rfl⟩

/-- Equal numbers denote the same number, if they denote one. -/
theorem toRat?_eq_of_equal {left right : Number} (same : left.equal right = true) :
    left.toRat? = right.toRat? := by
  rcases (equal_iff left right).mp same with ⟨_, _, rfl, rfl, -⟩ | ⟨_, one, two⟩
  · rfl
  · rw [one, two]

/-- So they denote the same integer. -/
theorem integer?_eq_of_equal {left right : Number} (same : left.equal right = true) :
    left.integer? = right.integer? := by
  refine Option.ext fun value => ?_
  rw [integer?_eq_some_iff, integer?_eq_some_iff, toRat?_eq_of_equal same]

end Number

namespace Value

/-- **Equality is exact.** Deep equality is an equivalence of the values without undefined numbers,
at every depth. Two exact numbers are equal exactly if they denote the same number, in whatever form
and with however many places, and a double precision number equals no exact one. A number is found
to be a word exactly if it is exact and its integer fits the word; so equal numbers have the same
words and the same exact value. -/
theorem equality_is_exact :
    (Equivalence fun left right : {value : Value // value.Every NumericFloat} =>
      left.1.equal right.1 = true) ∧
    (∀ left right : Number, left.isExact = true → right.isExact = true →
      (left.equal right = true ↔ left.toRat? = right.toRat?)) ∧
    (∀ (value : Binary64) (number : Number), number.isExact = true →
      (Number.float value).equal number = false ∧ number.equal (.float value) = false) ∧
    (∀ (number : Number) (value : Int),
      (number.toSigned?.map Int64.toInt = some value ↔
        number.toRat? = some (value : ℚ) ∧ Word.IsSigned value) ∧
      (number.toUnsigned?.map (fun word => (word.toNat : Int)) = some value ↔
        number.toRat? = some (value : ℚ) ∧ Word.IsUnsigned value)) ∧
    ∀ left right : Number, left.equal right = true →
      left.toSigned? = right.toSigned? ∧ left.toUnsigned? = right.toUnsigned? ∧
        left.toDecimal?.map Decimal.toRat = right.toDecimal?.map Decimal.toRat := by
  refine ⟨⟨fun value => equal_refl value.2, equal_symm, equal_trans⟩,
    fun left right => Number.equal_iff_of_exact,
    fun value number => Number.float_equal_of_exact value,
    fun number value => ⟨Number.toSigned?_eq_some_iff, Number.toUnsigned?_eq_some_iff⟩,
    fun left right same => ⟨?_, ?_, Number.toRat?_eq_of_equal same⟩⟩
  · rw [Number.toSigned?, Number.toSigned?, Number.integer?_eq_of_equal same]
  · rw [Number.toUnsigned?, Number.toUnsigned?, Number.integer?_eq_of_equal same]

/-- A number and a negative zero inside of a list in an object. -/
def beside (number : Number) : Value :=
  .object [("n", .array [.number number, .number (.float (.zero true))])]

/-- The integer behind the signed words, as an unsigned word and as a decimal with a place. -/
theorem equality_is_exact_beside :
    (beside (.unsigned 9223372036854775808)).Every NumericFloat ∧
    (beside (.decimal ⟨92233720368547758080, 1⟩)).Every NumericFloat ∧
    (beside (.unsigned 9223372036854775808)).equal
      (beside (.decimal ⟨92233720368547758080, 1⟩)) = true ∧
    (beside (.decimal ⟨92233720368547758080, 1⟩)).equal
      (beside (.unsigned 9223372036854775808)) = true ∧
    (Number.unsigned 9223372036854775808).isExact = true ∧
    (Number.decimal ⟨92233720368547758080, 1⟩).isExact = true ∧
    (Number.unsigned 9223372036854775808).equal (.decimal ⟨92233720368547758080, 1⟩) = true ∧
    (Number.unsigned 9223372036854775808).toRat? =
      (Number.decimal ⟨92233720368547758080, 1⟩).toRat? ∧
    (Number.decimal ⟨92233720368547758080, 1⟩).toSigned? = none ∧
    (Number.decimal ⟨92233720368547758080, 1⟩).toUnsigned? = some 9223372036854775808 ∧
    (Number.float (.zero true)).equal (.decimal ⟨92233720368547758080, 1⟩) = false := by
  have numeric (number : Number) (exact_ : number.isExact = true) :
      (beside number).Every NumericFloat := by
    cases number with
    | float => cases exact_
    | signed | unsigned | decimal =>
      simp [beside, Every, parts, partsOfItems, partsOfFields, NumericFloat]
      decide
  have same : (Number.unsigned 9223372036854775808).equal (.decimal ⟨92233720368547758080, 1⟩) =
      true := by decide
  have alike : (beside (.unsigned 9223372036854775808)).equal
      (beside (.decimal ⟨92233720368547758080, 1⟩)) = true := by
    simp [beside, equal, equalItems, equalFields, same]
    decide
  obtain ⟨equivalence, exacts, apart, -, words⟩ := equality_is_exact
  obtain ⟨signed, unsigned, -⟩ := words _ _ same
  have reversed := equivalence.symm (x := ⟨_, numeric _ rfl⟩) (y := ⟨_, numeric _ rfl⟩) alike
  exact ⟨numeric _ rfl, numeric _ rfl, alike, reversed, rfl, rfl, same,
    (exacts _ _ rfl rfl).mp same, signed.symm.trans (by decide), unsigned.symm.trans (by decide),
    (apart _ _ rfl).1⟩

end Value

end TwinStore
