/-
**Exact arithmetic.** Sums and products of exact numbers are those of the numbers they denote,
whatever words and decimals are on the way.

* `Number.whole?` is the integer of a number of an integer kind; `Word.IsSigned` are the integers
  that a signed word holds.
* `combine_cases`: two exact numbers are combined as words if they and the result are such words,
  else as decimals. `toRat?_plus` and `toRat?_times` draw from it what is denoted.
* So the laws of arithmetic hold up to equality of numbers, though not of what they are made of.
* `UpdateOperation.apply_increment` and `apply_multiply`: one operation adds to the number that a
  field denotes or multiplies it; by induction on the amounts, `toRat?_of_increments`: a run of
  increments adds their sum. A sum does not depend on the order of its terms.
-/

import TwinStore.Proofs.Decimal.Value
import TwinStore.Proofs.Value.StoredEquality

namespace TwinStore

/-! ### Words -/

/-- An integer that a signed word holds. -/
def Word.IsSigned (value : Int) : Prop := -2 ^ 63 ≤ value ∧ value < 2 ^ 63

/-- An integer is read as the signed word that has its value. -/
theorem Word.signed?_eq_some {value : Int} {word : Int64} :
    signed? value = some word ↔ word.toInt = value := by
  constructor
  · intro found
    unfold signed? at found
    split at found
    · next fits =>
      cases found
      exact Int64.toInt_ofInt_of_le fits.1 fits.2
    · cases found
  · rintro rfl
    exact signed?_toInt word

theorem Word.isSigned_toInt (word : Int64) : IsSigned word.toInt :=
  ⟨word.le_toInt, word.toInt_lt⟩

theorem Word.exists_signed? {value : Int} (fits : IsSigned value) :
    ∃ word, signed? value = some word :=
  ⟨Int64.ofInt value, signed?_eq_some.mpr (Int64.toInt_ofInt_of_le fits.1 fits.2)⟩

namespace Number

/-- The integer of a number of an integer kind. -/
def whole? : Number → Option Int
  | .signed value => some value.toInt
  | .unsigned value => some value.toNat
  | .float _ => none
  | .decimal _ => none

theorem word?_eq (number : Number) : number.word? = number.whole?.bind Word.signed? := by
  cases number with
  | signed value => rw [whole?, Option.bind_some, Word.signed?_toInt, word?]
  | unsigned value => rw [whole?, Option.bind_some, word?]
  | float | decimal => rfl

/-- An integer kind denotes its integer. -/
theorem toDecimal?_of_whole? {number : Number} {value : Int} (whole : number.whole? = some value) :
    number.toDecimal? = some (.ofInt value) := by
  cases number with
  | signed | unsigned => cases whole; rfl
  | float | decimal => cases whole

theorem isExact_iff {number : Number} :
    number.isExact = true ↔ ∃ value, number.toRat? = some value := by
  cases number <;> simp [isExact, toRat?, toDecimal?]

/-! ### Combinations -/

section Combination

variable {integers : Int → Int → Int} {left right : Number}

/-- Both operands are of an integer kind and fit a signed word, and so does the result. -/
def FitsSigned (integers : Int → Int → Int) (left right : Number) : Prop :=
  ∃ first second, left.whole? = some first ∧ right.whole? = some second ∧
    Word.IsSigned first ∧ Word.IsSigned second ∧ Word.IsSigned (integers first second)

/-- The word that two numbers make, if they make one. -/
def combinedWord? (integers : Int → Int → Int) (left right : Number) : Option Int64 := do
  let first ← left.word?
  let second ← right.word?
  Word.signed? (integers first.toInt second.toInt)

theorem combinedWord?_eq_some {word : Int64} :
    combinedWord? integers left right = some word ↔
    ∃ first second, left.whole? = some first ∧ right.whole? = some second ∧
      Word.IsSigned first ∧ Word.IsSigned second ∧ word.toInt = integers first second := by
  simp only [combinedWord?, word?_eq, Option.bind_eq_bind, Option.bind_eq_some_iff,
    Word.signed?_eq_some]
  constructor
  · rintro ⟨first, ⟨_, one, rfl⟩, second, ⟨_, two, rfl⟩, made⟩
    exact ⟨_, _, one, two, Word.isSigned_toInt first, Word.isSigned_toInt second, made⟩
  · rintro ⟨first, second, one, two, fits, otherFits, made⟩
    obtain ⟨word, held⟩ := Word.exists_signed? fits
    obtain ⟨other, otherHeld⟩ := Word.exists_signed? otherFits
    obtain rfl := Word.signed?_eq_some.mp held
    obtain rfl := Word.signed?_eq_some.mp otherHeld
    exact ⟨word, ⟨_, one, rfl⟩, other, ⟨_, two, rfl⟩, made⟩

/-- Two numbers make a word exactly if operands and result fit one. -/
theorem combinedWord?_isSome :
    (combinedWord? integers left right).isSome = true ↔ FitsSigned integers left right := by
  simp only [Option.isSome_iff_exists, combinedWord?_eq_some]
  constructor
  · rintro ⟨word, first, second, one, two, fits, otherFits, made⟩
    exact ⟨first, second, one, two, fits, otherFits, made ▸ Word.isSigned_toInt word⟩
  · rintro ⟨first, second, one, two, fits, otherFits, resultFits⟩
    obtain ⟨word, held⟩ := Word.exists_signed? resultFits
    exact ⟨word, first, second, one, two, fits, otherFits, Word.signed?_eq_some.mp held⟩

variable {decimals : Decimal → Decimal → Decimal} {floats : Binary64 → Binary64 → Binary64}

theorem combine_of_word {word : Int64} (made : combinedWord? integers left right = some word) :
    combine integers decimals floats left right = .signed word := by
  unfold combinedWord? at made
  simp only [combine, made]

theorem combine_of_decimals {first second : Decimal}
    (unmade : combinedWord? integers left right = none)
    (one : left.toDecimal? = some first) (two : right.toDecimal? = some second) :
    combine integers decimals floats left right = .decimal (decimals first second) := by
  unfold combinedWord? at unmade
  simp only [combine, unmade, one, two]

variable {x y : ℚ}

/-- **What a combination denotes**: what the operands denote, combined likewise. -/
theorem toRat?_combine {rationals : ℚ → ℚ → ℚ}
    (wholes : ∀ first second : Int, (integers first second : ℚ) = rationals first second)
    (exacts : ∀ first second, (decimals first second).toRat = rationals first.toRat second.toRat)
    (first : left.toRat? = some x) (second : right.toRat? = some y) :
    (combine integers decimals floats left right).toRat? = some (rationals x y) := by
  obtain ⟨one, decimal, rfl⟩ := Option.map_eq_some_iff.mp first
  obtain ⟨two, otherDecimal, rfl⟩ := Option.map_eq_some_iff.mp second
  cases made : combinedWord? integers left right with
  | none =>
    rw [combine_of_decimals made decimal otherDecimal]
    exact congrArg some (exacts one two)
  | some word =>
    obtain ⟨i, j, whole, otherWhole, -, -, result⟩ := combinedWord?_eq_some.mp made
    have same := (toDecimal?_of_whole? whole).symm.trans decimal
    have otherSame := (toDecimal?_of_whole? otherWhole).symm.trans otherDecimal
    cases same
    cases otherSame
    rw [combine_of_word made]
    simp only [toRat?, toDecimal?, Option.map_some, Decimal.toRat_ofInt, result, wholes]

/-- The result is a signed word where operands and result fit one, and else a decimal. -/
def Promotes (integers : Int → Int → Int) (left right result : Number) : Prop :=
  ((∃ word, result = .signed word) ↔ FitsSigned integers left right) ∧
    ((∃ value, result = .decimal value) ↔ ¬FitsSigned integers left right)

/-- **Of what kind a combination is.** -/
theorem promotes_combine (first : left.toRat? = some x) (second : right.toRat? = some y) :
    Promotes integers left right (combine integers decimals floats left right) := by
  obtain ⟨one, decimal, -⟩ := Option.map_eq_some_iff.mp first
  obtain ⟨two, otherDecimal, -⟩ := Option.map_eq_some_iff.mp second
  rw [Promotes, ← combinedWord?_isSome]
  cases made : combinedWord? integers left right with
  | none => simp [combine_of_decimals made decimal otherDecimal]
  | some word => simp [combine_of_word made]

end Combination

/-! ### Sums and products -/

section Laws

variable {first second third : Number} {x y z : ℚ}

/-- **The sum denotes the sum.** -/
theorem toRat?_plus (one : first.toRat? = some x) (two : second.toRat? = some y) :
    (first.plus second).toRat? = some (x + y) :=
  toRat?_combine Int.cast_add Decimal.toRat_add one two

/-- **The product denotes the product.** -/
theorem toRat?_times (one : first.toRat? = some x) (two : second.toRat? = some y) :
    (first.times second).toRat? = some (x * y) :=
  toRat?_combine Int.cast_mul Decimal.toRat_mul one two

/-- An exact number equals what denotes the same. -/
theorem toRat?_of_equal (one : first.toRat? = some x) (same : first.equal second = true) :
    second.toRat? = some x := by
  rcases (equal_iff first second).mp same with ⟨_, _, rfl, -⟩ | ⟨value, here, there⟩
  · cases one
  · rwa [one.symm.trans here]

/-- The laws of a commutative ring, up to equality, for three numbers. -/
structure Laws (first second third : Number) : Prop where
  plus_comm : (first.plus second).equal (second.plus first) = true
  times_comm : (first.times second).equal (second.times first) = true
  plus_assoc : ((first.plus second).plus third).equal (first.plus (second.plus third)) = true
  times_assoc : ((first.times second).times third).equal (first.times (second.times third)) = true
  times_plus : (first.times (second.plus third)).equal
    ((first.times second).plus (first.times third)) = true
  plus_times : ((first.plus second).times third).equal
    ((first.times third).plus (second.times third)) = true

/-- **Exact numbers obey the laws of arithmetic.** -/
theorem laws_of_exact (one : first.toRat? = some x) (two : second.toRat? = some y)
    (three : third.toRat? = some z) : Laws first second third where
  plus_comm := (equal_of_toRat? (toRat?_plus one two) (toRat?_plus two one)).mpr (add_comm x y)
  times_comm :=
    (equal_of_toRat? (toRat?_times one two) (toRat?_times two one)).mpr (mul_comm x y)
  plus_assoc :=
    (equal_of_toRat? (toRat?_plus (toRat?_plus one two) three)
      (toRat?_plus one (toRat?_plus two three))).mpr (add_assoc x y z)
  times_assoc :=
    (equal_of_toRat? (toRat?_times (toRat?_times one two) three)
      (toRat?_times one (toRat?_times two three))).mpr (mul_assoc x y z)
  times_plus :=
    (equal_of_toRat? (toRat?_times one (toRat?_plus two three))
      (toRat?_plus (toRat?_times one two) (toRat?_times one three))).mpr (mul_add x y z)
  plus_times :=
    (equal_of_toRat? (toRat?_times (toRat?_plus one two) three)
      (toRat?_plus (toRat?_times one three) (toRat?_times two three))).mpr (add_mul x y z)

/-- **Equal operands give equal results.** -/
theorem equal_of_operands {other another : Number} (one : first.toRat? = some x)
    (two : second.toRat? = some y) (same : first.equal other = true)
    (alike : second.equal another = true) :
    (first.plus second).equal (other.plus another) = true ∧
      (first.times second).equal (other.times another) = true := by
  have otherOne := toRat?_of_equal one same
  have otherTwo := toRat?_of_equal two alike
  exact ⟨(equal_of_toRat? (toRat?_plus one two) (toRat?_plus otherOne otherTwo)).mpr rfl,
    (equal_of_toRat? (toRat?_times one two) (toRat?_times otherOne otherTwo)).mpr rfl⟩

end Laws

end Number

/-! ### Operations on numbers -/

namespace UpdateOperation

/-- The number that a field stands for in a sum: zero if it is absent or null. -/
def summand? : Option Value → Option ℚ
  | none | some .null => some 0
  | some (.number base) => base.toRat?
  | some _ => none

/-- The field after increments, one after the other. -/
def afterIncrements (current : Option Value) (amounts : List Number) : Option Value :=
  amounts.foldl (fun current amount => (increment amount).apply current) current

/-- **An increment adds to the number that a field stands for.** -/
theorem apply_increment {current : Option Value} {start x : ℚ} {amount : Number}
    (starts : summand? current = some start) (denoted : amount.toRat? = some x) :
    ∃ result, (increment amount).apply current = some (.number result) ∧
      result.toRat? = some (start + x) := by
  have fromZero (zero : some 0 = some start) : amount.toRat? = some (start + x) := by
    rw [denoted, ← Option.some.inj zero, zero_add]
  cases current with
  | none => exact ⟨amount, rfl, fromZero starts⟩
  | some value =>
    cases value with
    | null => exact ⟨amount, rfl, fromZero starts⟩
    | number base => exact ⟨base.plus amount, rfl, Number.toRat?_plus starts denoted⟩
    | _ => cases starts

/-- **A multiplication multiplies the number that a field stands for.** -/
theorem apply_multiply {start x : ℚ} {factor : Number} (starts : summand? current = some start)
    (denoted : factor.toRat? = some x) :
    ∃ result, (multiply factor).apply current = some (.number result) ∧
      result.toRat? = some (start * x) := by
  have fromZero (zero : some 0 = some start) : factor.zeroLike.toRat? = some (start * x) := by
    rw [← Option.some.inj zero, zero_mul]
    cases factor with
    | float => cases denoted
    | _ => simp [Number.zeroLike, Number.toRat?, Number.toDecimal?]
  cases current with
  | none => exact ⟨factor.zeroLike, rfl, fromZero starts⟩
  | some value =>
    cases value with
    | null => exact ⟨factor.zeroLike, rfl, fromZero starts⟩
    | number base => exact ⟨base.times factor, rfl, Number.toRat?_times starts denoted⟩
    | _ => cases starts

/-- Increments of a field that holds a number, by induction on the amounts. -/
theorem afterIncrements_number {amounts : List Number} :
    ∀ {base : Number} {start : ℚ}, base.toRat? = some start →
      (∀ amount ∈ amounts, amount.isExact = true) →
      ∃ result, afterIncrements (some (.number base)) amounts = some (.number result) ∧
        result.toRat? = some (start + (amounts.filterMap Number.toRat?).sum) := by
  induction amounts with
  | nil =>
    intro base start denotes _
    exact ⟨base, rfl, by simpa using denotes⟩
  | cons amount rest step =>
    intro base start denotes exacts
    obtain ⟨here, later⟩ := List.forall_mem_cons.mp exacts
    obtain ⟨x, denoted⟩ := Number.isExact_iff.mp here
    obtain ⟨result, reached, total⟩ := step (Number.toRat?_plus denotes denoted) later
    exact ⟨result, reached, by simpa [denoted, add_assoc] using total⟩

/-- **Increments add the sum of their amounts.** -/
theorem toRat?_of_increments {current : Option Value} {start : ℚ} {amounts : List Number}
    (starts : summand? current = some start) (nonempty : amounts ≠ [])
    (exacts : ∀ amount ∈ amounts, amount.isExact = true) :
    ∃ result, afterIncrements current amounts = some (.number result) ∧
      result.toRat? = some (start + (amounts.filterMap Number.toRat?).sum) := by
  cases amounts with
  | nil => exact absurd rfl nonempty
  | cons amount rest =>
    obtain ⟨here, later⟩ := List.forall_mem_cons.mp exacts
    obtain ⟨x, denoted⟩ := Number.isExact_iff.mp here
    obtain ⟨base, made, denotes⟩ := apply_increment starts denoted
    obtain ⟨result, reached, total⟩ := afterIncrements_number denotes later
    refine ⟨result, ?_, by simpa [denoted, add_assoc] using total⟩
    rw [← reached, ← made]
    rfl

end UpdateOperation

/-- **Exact arithmetic neither wraps nor rounds, and does not depend on order.** The sum and the
product of exact numbers denote the sum and the product. They are signed words exactly if both
operands are of an integer kind and, with the result, fit such a word; else they are decimals. So
the laws of arithmetic hold up to equality, and equal operands give equal results. Increments of a
field that is absent, null or exact give, in any order, a number equal to what the field stands for
and the sum of the amounts. -/
theorem exact_arithmetic {first second third : Number} {x y z : ℚ}
    (one : first.toRat? = some x) (two : second.toRat? = some y) (three : third.toRat? = some z)
    {current : Option Value} {start : ℚ} (starts : UpdateOperation.summand? current = some start)
    {amounts : List Number} (nonempty : amounts ≠ [])
    (exacts : ∀ amount ∈ amounts, amount.isExact = true) :
    ((first.plus second).toRat? = some (x + y) ∧ (first.times second).toRat? = some (x * y)) ∧
    (Number.Promotes (· + ·) first second (first.plus second) ∧
      Number.Promotes (· * ·) first second (first.times second)) ∧
    Number.Laws first second third ∧
    (∀ other another, first.equal other = true → second.equal another = true →
      (first.plus second).equal (other.plus another) = true ∧
      (first.times second).equal (other.times another) = true) ∧
    ∀ order, order.Perm amounts →
      ∃ result, UpdateOperation.afterIncrements current order = some (.number result) ∧
        result.toRat? = some (start + (amounts.filterMap Number.toRat?).sum) ∧
        ∀ expected : Number,
          expected.toRat? = some (start + (amounts.filterMap Number.toRat?).sum) →
            result.equal expected = true := by
  refine ⟨⟨Number.toRat?_plus one two, Number.toRat?_times one two⟩,
    ⟨Number.promotes_combine one two, Number.promotes_combine one two⟩,
    Number.laws_of_exact one two three, fun other another => Number.equal_of_operands one two,
    fun order same => ?_⟩
  have orderExact : ∀ amount ∈ order, amount.isExact = true := fun amount member =>
    exacts amount (same.mem_iff.mp member)
  have orderSome : order ≠ [] := by
    rintro rfl
    exact nonempty same.nil_eq.symm
  obtain ⟨result, reached, total⟩ :=
    UpdateOperation.toRat?_of_increments starts orderSome orderExact
  rw [(same.filterMap Number.toRat?).sum_eq] at total
  exact ⟨result, reached, total, fun expected denotes =>
    (Number.equal_of_toRat? total denotes).mpr rfl⟩

/-- The greatest signed word, the greatest unsigned one and a negative half. -/
def extremes : List Number := [.signed 9223372036854775807, .unsigned 18446744073709551615,
  .decimal ⟨-5, 1⟩]

theorem exact_arithmetic_extremes :
    (Number.signed 9223372036854775807).toRat? = some 9223372036854775807 ∧
    (Number.unsigned 18446744073709551615).toRat? = some 18446744073709551615 ∧
    (Number.decimal ⟨-5, 1⟩).toRat? = some (-1 / 2) ∧
    UpdateOperation.summand? (some .null) = some 0 ∧ extremes ≠ [] ∧
    (∀ amount ∈ extremes, amount.isExact = true) ∧
    ∃ result, UpdateOperation.afterIncrements (some .null) extremes.reverse =
        some (.number result) ∧
      result.toRat? = some (0 + (extremes.filterMap Number.toRat?).sum) := by
  have one : (Number.signed 9223372036854775807).toRat? = some 9223372036854775807 := by
    simp [Number.toRat?, Number.toDecimal?]
  have two : (Number.unsigned 18446744073709551615).toRat? = some 18446744073709551615 := by
    simp [Number.toRat?, Number.toDecimal?]
  have three : (Number.decimal ⟨-5, 1⟩).toRat? = some (-1 / 2) := by
    norm_num [Number.toRat?, Number.toDecimal?, Decimal.toRat]
  have nonempty : extremes ≠ [] := by decide
  have exacts : ∀ amount ∈ extremes, amount.isExact = true := by decide
  obtain ⟨-, -, -, -, sums⟩ := exact_arithmetic one two three
    (rfl : UpdateOperation.summand? (some .null) = some 0) nonempty exacts
  obtain ⟨result, reached, total, -⟩ := sums _ (List.reverse_perm extremes)
  exact ⟨one, two, three, rfl, nonempty, exacts, result, reached, total⟩

end TwinStore
