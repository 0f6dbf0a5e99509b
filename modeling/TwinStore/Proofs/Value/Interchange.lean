/-
**Values between programs.** A JSON document that is read and written again stays as it is, and
exact integers of sixty-four bits go through a document unharmed, however they are held.

* `toJsonWith_ofJson`: whatever the form of decimals, since no document is read as one.
* `ShownBy`: a document shows a value, place by place; an exact number that denotes an integer is
  shown as that integer. `shownBy_toInterchange`: this is how values are written;
  `equal_of_shownBy`: and what is shown is read.
* `Number.toInterchange_congr`: equal exact numbers are written alike, if no number is rounded more
  than once. `not_interchange_keeps_zeros`: beyond that they need not be.
* `interchange_keeps` is the main result.
-/

import TwinStore.Proofs.Decimal.Approximation
import TwinStore.Proofs.Value.Equivalence
import TwinStore.Value.Json

namespace TwinStore

/-- An integer that a word holds, with or without a sign. -/
def Word.Holds (value : Int) : Prop := -2 ^ 63 ≤ value ∧ value < 2 ^ 64

/-! ### Integers in documents -/

namespace Json

theorem ofSigned_eq {word : Int64} {value : Int} (same : word.toInt = value) (low : -2 ^ 63 ≤ value)
    (high : value < 2 ^ 64) : ofSigned word = .integer value low high := by
  subst same
  rfl

theorem ofUnsigned_eq {word : UInt64} {value : Int} (same : (word.toNat : Int) = value)
    (low : -2 ^ 63 ≤ value) (high : value < 2 ^ 64) :
    ofUnsigned word = .integer value low high := by
  subst same
  rfl

theorem ofFloat_eq {value : Binary64} (finite : value.isFinite = true) :
    ofFloat value = .float value finite :=
  dif_pos finite

end Json

/-- An integer that no signed word holds is held by an unsigned one. -/
theorem Word.exists_unsigned?_of_signed? {value : Int} (held : Holds value)
    (unsigned_ : signed? value = none) : ∃ word, unsigned? value = some word := by
  refine exists_unsigned? ⟨?_, held.2⟩
  by_contra negative
  obtain ⟨word, found⟩ := exists_signed? ⟨held.1, by omega⟩
  rw [unsigned_] at found
  cases found

namespace Value

/-- A JSON integer is read as a number that denotes it. -/
theorem ofJsonInteger_eq {value : Int} (held : Word.Holds value) :
    ∃ number : Number, ofJsonInteger value = .number number ∧ number.toRat? = some (value : ℚ) ∧
      ∀ decimal low high, number.toJsonWith decimal = .integer value low high := by
  unfold ofJsonInteger
  cases signed : Word.signed? value with
  | some word =>
    have same := Word.signed?_eq_some.mp signed
    refine ⟨.signed word, rfl, ?_, fun _ => Json.ofSigned_eq same⟩
    simp [Number.toRat?, Number.toDecimal?, same]
  | none =>
    obtain ⟨word, found⟩ := Word.exists_unsigned?_of_signed? held signed
    have same := Word.unsigned?_eq_some.mp found
    have read : UInt64.ofNat value.toNat = word := by
      rw [← same, Int.toNat_natCast, UInt64.ofNat_toNat]
    refine ⟨.unsigned word, by rw [read], ?_, fun _ => Json.ofUnsigned_eq same⟩
    rw [Number.toRat?, Number.toDecimal?, Option.map_some, Decimal.toRat_ofInt, same]

/-! ### Documents that are read and written -/

mutual

/-- **A document that is read is written as it was**, whatever the form of decimals. -/
theorem toJsonWith_ofJson (decimal : Decimal → Json) :
    ∀ document : Json, (ofJson document).toJsonWith decimal = document
  | .null | .boolean _ | .text _ => by simp only [ofJson, toJsonWith]
  | .integer value low high => by
    obtain ⟨number, read, -, written⟩ := ofJsonInteger_eq ⟨low, high⟩
    rw [ofJson, read, toJsonWith, written]
  | .float value finite => by
    rw [ofJson, toJsonWith, Number.toJsonWith, Json.ofFloat_eq finite]
  | .array items => by
    rw [ofJson, toJsonWith, itemsToJsonWith_ofJson decimal items]
  | .object fields => by
    rw [ofJson, toJsonWith, fieldsToJsonWith_ofJson decimal fields]

theorem itemsToJsonWith_ofJson (decimal : Decimal → Json) :
    ∀ items : List Json, itemsToJsonWith decimal (itemsOfJson items) = items
  | [] => rfl
  | item :: rest => by
    rw [itemsOfJson, itemsToJsonWith, toJsonWith_ofJson decimal item,
      itemsToJsonWith_ofJson decimal rest]

theorem fieldsToJsonWith_ofJson (decimal : Decimal → Json) :
    ∀ fields : List (String × Json), fieldsToJsonWith decimal (fieldsOfJson fields) = fields
  | [] => rfl
  | (name, value) :: rest => by
    rw [fieldsOfJson, fieldsToJsonWith, toJsonWith_ofJson decimal value,
      fieldsToJsonWith_ofJson decimal rest]

end

/-! ### What a document shows -/

mutual

/-- A document shows a value: at the same places, the same null, truth value, text or double
precision number, and for an exact number the integer that it denotes. -/
inductive ShownBy : Value → Json → Prop where
  | null : ShownBy .null .null
  | boolean (value : Bool) : ShownBy (.boolean value) (.boolean value)
  | text (value : String) : ShownBy (.text value) (.text value)
  | float (value : Binary64) (finite : value.isFinite = true) :
      ShownBy (.number (.float value)) (.float value finite)
  | integer {number : Number} {value : Int} (denoted : number.toRat? = some (value : ℚ))
      (low : -2 ^ 63 ≤ value) (high : value < 2 ^ 64) :
      ShownBy (.number number) (.integer value low high)
  | array {items : List Value} {documents : List Json} (each : ItemsShownBy items documents) :
      ShownBy (.array items) (.array documents)
  | object {fields : List (String × Value)} {documents : List (String × Json)}
      (each : FieldsShownBy fields documents) : ShownBy (.object fields) (.object documents)

/-- Documents show items, one by one. -/
inductive ItemsShownBy : List Value → List Json → Prop where
  | nil : ItemsShownBy [] []
  | cons {item : Value} {document : Json} {items : List Value} {documents : List Json}
      (first : ShownBy item document) (rest : ItemsShownBy items documents) :
      ItemsShownBy (item :: items) (document :: documents)

/-- Documents show the values of entries under the same names. -/
inductive FieldsShownBy : List (String × Value) → List (String × Json) → Prop where
  | nil : FieldsShownBy [] []
  | cons {name : String} {value : Value} {document : Json} {fields : List (String × Value)}
      {documents : List (String × Json)} (first : ShownBy value document)
      (rest : FieldsShownBy fields documents) :
      FieldsShownBy ((name, value) :: fields) ((name, document) :: documents)

end

/-- The part has a form of its own in a JSON document: an exact number denotes an integer that a
word holds, and a double precision number is finite. -/
def IsInterchangeable : Value → Prop
  | .null | .boolean _ | .text _ | .array _ | .object _ => True
  | .number (.float value) => value.isFinite = true
  | .number held => ∃ value : Int, held.toRat? = some (value : ℚ) ∧ Word.Holds value
  | .instant _ | .date _ | .time _ | .binary _ => False

end Value

/-- **An exact number that denotes an integer is written as that integer**, whatever its form. -/
theorem Number.toJsonWith_of_integer {number : Number} {value : Int}
    (denoted : number.toRat? = some (value : ℚ)) (low : -2 ^ 63 ≤ value) (high : value < 2 ^ 64) :
    number.toJsonWith Decimal.toJsonNumber = .integer value low high := by
  have found := integer?_eq_some_iff.mpr denoted
  cases number with
  | signed word => exact Json.ofSigned_eq (Option.some.inj found) low high
  | unsigned word => exact Json.ofUnsigned_eq (Option.some.inj found) low high
  | float => cases found
  | decimal number =>
    have integer : number.toInt? = some value := found
    rw [toJsonWith, Decimal.toJsonNumber, integer, Option.bind_some, Option.bind_some]
    cases signed : Word.signed? value with
    | some word => exact Json.ofSigned_eq (Word.signed?_eq_some.mp signed) low high
    | none =>
      obtain ⟨word, unsigned⟩ := Word.exists_unsigned?_of_signed? ⟨low, high⟩ signed
      rw [unsigned]
      exact Json.ofUnsigned_eq (Word.unsigned?_eq_some.mp unsigned) low high

namespace Value

mutual

/-- **A document shows the value it is written from.** -/
theorem shownBy_toInterchange : ∀ {value : Value}, value.Every IsInterchangeable →
    value.ShownBy value.toInterchange
  | .null, _ => .null
  | .boolean value, _ => .boolean value
  | .text value, _ => .text value
  | .number (.float value), fits => by
    have finite : value.isFinite = true := by
      have kept := fits.self
      exact kept
    rw [toInterchange, toJsonWith, Number.toJsonWith, Json.ofFloat_eq finite]
    exact .float value finite
  | .number (.signed _), fits | .number (.unsigned _), fits | .number (.decimal _), fits => by
    obtain ⟨value, denoted, low, high⟩ := fits.self
    rw [toInterchange, toJsonWith, Number.toJsonWith_of_integer denoted low high]
    exact .integer denoted low high
  | .array _, fits => .array (shownBy_itemsToJson fits.items)
  | .object _, fits => .object (shownBy_fieldsToJson fits.fields)
  | .instant _, fits | .date _, fits | .time _, fits | .binary _, fits => (fits.self).elim

theorem shownBy_itemsToJson : ∀ {items : List Value}, EveryItem IsInterchangeable items →
    ItemsShownBy items (itemsToJsonWith Decimal.toJsonNumber items)
  | [], _ => .nil
  | _ :: _, fits => .cons (shownBy_toInterchange fits.head) (shownBy_itemsToJson fits.tail)

theorem shownBy_fieldsToJson : ∀ {fields : List (String × Value)},
    EveryField IsInterchangeable fields →
      FieldsShownBy fields (fieldsToJsonWith Decimal.toJsonNumber fields)
  | [], _ => .nil
  | (_, _) :: _, fits => .cons (shownBy_toInterchange fits.head) (shownBy_fieldsToJson fits.tail)

end

mutual

/-- **What a document shows is read**, up to equality. -/
theorem equal_of_shownBy : ∀ {value : Value} {document : Json}, value.ShownBy document →
    (ofJson document).equal value = true
  | _, _, .null => by simp only [ofJson, equal]
  | _, _, .boolean _ | _, _, .text _ => by simp only [ofJson, equal, beq_self_eq_true]
  | _, _, .float value finite => by
    have kept : (number (.float value)).FiniteFloat := finite
    have numeric : (number (.float value)).Every NumericFloat := by
      rintro _ (⟨⟩ | ⟨_, ⟨⟩⟩)
      exact kept.numeric
    exact equal_refl numeric
  | _, _, .integer denoted low high => by
    obtain ⟨number, read, same, -⟩ := ofJsonInteger_eq ⟨low, high⟩
    rw [ofJson, read, equal]
    exact (Number.equal_of_toRat? same denoted).mpr rfl
  | _, _, .array each => by
    rw [ofJson, equal]
    exact equalItems_of_shownBy each
  | _, _, .object each => by
    rw [ofJson, equal]
    exact equalFields_of_shownBy each

theorem equalItems_of_shownBy : ∀ {items : List Value} {documents : List Json},
    ItemsShownBy items documents → equalItems (itemsOfJson documents) items = true
  | _, _, .nil => rfl
  | _, _, .cons first rest =>
    equalItems_cons.mpr ⟨_, _, rfl, equal_of_shownBy first, equalItems_of_shownBy rest⟩

theorem equalFields_of_shownBy : ∀ {fields : List (String × Value)}
    {documents : List (String × Json)}, FieldsShownBy fields documents →
      equalFields (fieldsOfJson documents) fields = true
  | _, _, .nil => rfl
  | _, _, .cons first rest =>
    equalFields_cons.mpr ⟨_, _, rfl, equal_of_shownBy first, equalFields_of_shownBy rest⟩

end

end Value

/-! ### Numbers that denote the same -/

/-- A decimal that denotes no integer that a word holds is written in double precision. -/
theorem Decimal.toJsonNumber_eq {number : Decimal}
    (beyond : ∀ value : Int, number.toRat = value → ¬Word.Holds value) :
    number.toJsonNumber = .ofFloat number.toFloat := by
  have signed : number.toInt?.bind Word.signed? = none := by
    rw [Option.bind_eq_none_iff]
    intro value found
    rw [Word.signed?, if_neg]
    rintro ⟨low, high⟩
    exact beyond value (toInt?_eq_some_iff.mp found) ⟨low, by omega⟩
  have unsigned : number.toInt?.bind Word.unsigned? = none := by
    rw [Option.bind_eq_none_iff]
    intro value found
    rw [Word.unsigned?, if_neg]
    rintro ⟨low, high⟩
    exact beyond value (toInt?_eq_some_iff.mp found) ⟨by omega, high⟩
  rw [toJsonNumber, signed, unsigned]

namespace Number

/-- On its way into a document the number is not rounded or rounded once: it denotes an integer that
a word holds, or it is no decimal that is rounded more than once. -/
def RoundsOnce (number : Number) : Prop :=
  (∃ value : Int, number.toRat? = some (value : ℚ) ∧ Word.Holds value) ∨
    ∀ held, number = .decimal held → held.RoundsOnce

/-- A number of an integer kind denotes an integer that a word holds. -/
theorem decimal_of_beyond {number : Number} (exact_ : number.isExact = true)
    (beyond : ¬∃ value : Int, number.toRat? = some (value : ℚ) ∧ Word.Holds value) :
    ∃ held, number = .decimal held := by
  cases number with
  | signed word =>
    obtain ⟨low, high⟩ := Word.isSigned_toInt word
    exact absurd ⟨word.toInt, by simp [toRat?, toDecimal?], low, by omega⟩ beyond
  | unsigned word =>
    obtain ⟨low, high⟩ := Word.isUnsigned_toNat word
    refine absurd ⟨(word.toNat : Int), ?_, by omega, high⟩ beyond
    rw [toRat?, toDecimal?, Option.map_some, Decimal.toRat_ofInt]
  | float => cases exact_
  | decimal held => exact ⟨held, rfl⟩

/-- **Equal exact numbers are written alike**, if none of them is rounded more than once. -/
theorem toInterchange_congr {left right : Number} (one : left.isExact = true)
    (two : right.isExact = true) (same : left.equal right = true) (once : left.RoundsOnce)
    (onceToo : right.RoundsOnce) :
    (Value.number left).toInterchange = (Value.number right).toInterchange := by
  have denoted := toRat?_eq_of_equal same
  rw [Value.toInterchange, Value.toInterchange, Value.toJsonWith, Value.toJsonWith]
  by_cases integer : ∃ value : Int, left.toRat? = some (value : ℚ) ∧ Word.Holds value
  · obtain ⟨value, here, low, high⟩ := integer
    rw [toJsonWith_of_integer here low high,
      toJsonWith_of_integer (denoted.symm.trans here) low high]
  · have integerToo : ¬∃ value : Int, right.toRat? = some (value : ℚ) ∧ Word.Holds value := by
      rwa [← denoted]
    obtain ⟨first, rfl⟩ := decimal_of_beyond one integer
    obtain ⟨second, rfl⟩ := decimal_of_beyond two integerToo
    have numbers : first.toRat = second.toRat := Option.some.inj denoted
    have beyond : ∀ value : Int, first.toRat = value → ¬Word.Holds value :=
      fun value here held => integer ⟨value, congrArg some here, held⟩
    rw [toJsonWith, toJsonWith, Decimal.toJsonNumber_eq beyond,
      Decimal.toJsonNumber_eq (numbers ▸ beyond),
      Decimal.toFloat_congr (once.resolve_left integer first rfl)
        (onceToo.resolve_left integerToo second rfl) numbers]

end Number

namespace Value

/-- **Interchange keeps documents and integers.** A JSON document that is read is written as it was,
in either form of decimals. A value of nulls, truth values, texts, finite double precision numbers
and exact integers that a word holds, in arrays and objects, is written as a document that shows it,
each integer as itself, and the document is read as an equal value. Two equal exact numbers are
written alike, whatever their forms, if each is an integer that a word holds or is rounded once: a
decimal with no zeros left out, or with at most twenty-two of them behind a coefficient of at most
`2 ^ 53`. -/
theorem interchange_keeps :
    (∀ document : Json,
      (ofJson document).toInterchange = document ∧ (ofJson document).toJson = document) ∧
    (∀ value : Value, value.Every IsInterchangeable →
      value.ShownBy value.toInterchange ∧ (ofJson value.toInterchange).equal value = true) ∧
    ∀ left right : Number, left.isExact = true → right.isExact = true → left.equal right = true →
      left.RoundsOnce → right.RoundsOnce →
        (number left).toInterchange = (number right).toInterchange := by
  refine ⟨fun document => ⟨toJsonWith_ofJson _ document, toJsonWith_ofJson _ document⟩,
    fun value fits => ?_, fun left right => Number.toInterchange_congr⟩
  have shown := shownBy_toInterchange fits
  exact ⟨shown, equal_of_shownBy shown⟩

/-- The ends of the range, zeros behind the point and zeros left out, and a negative zero. -/
def wordEnds : Value :=
  .object
    [("high", .array [.number (.decimal ⟨184467440737095516150, 1⟩), .number (.decimal ⟨12, -2⟩)]),
      ("low", .number (.decimal ⟨-9223372036854775808, 0⟩)),
      ("zero", .number (.float (.zero true)))]

theorem interchange_keeps_word_ends :
    wordEnds.Every IsInterchangeable ∧
    (wordEnds.ShownBy wordEnds.toInterchange ∧
      (ofJson wordEnds.toInterchange).equal wordEnds = true) ∧
    (Number.decimal ⟨12, -20⟩).isExact = true ∧
    (Number.decimal ⟨12000000000000000000000, 1⟩).isExact = true ∧
    (Number.decimal ⟨12, -20⟩).equal (.decimal ⟨12000000000000000000000, 1⟩) = true ∧
    (Number.decimal ⟨12, -20⟩).RoundsOnce ∧
    (Number.decimal ⟨12000000000000000000000, 1⟩).RoundsOnce ∧
    (number (.decimal ⟨12, -20⟩)).toInterchange =
      (number (.decimal ⟨12000000000000000000000, 1⟩)).toInterchange := by
  have fits : wordEnds.Every IsInterchangeable := by
    intro part mem
    simp only [wordEnds, parts, partsOfFields, partsOfItems, List.mem_cons, List.mem_append,
      List.not_mem_nil, or_false] at mem
    rcases mem with rfl | (rfl | rfl | rfl) | rfl | rfl
    · trivial
    · trivial
    · exact ⟨18446744073709551615, Number.integer?_eq_some_iff.mp rfl, by decide, by decide⟩
    · exact ⟨1200, Number.integer?_eq_some_iff.mp rfl, by decide, by decide⟩
    · exact ⟨-9223372036854775808, Number.integer?_eq_some_iff.mp rfl, by decide, by decide⟩
    · rfl
  have one : (Number.decimal ⟨12, -20⟩).RoundsOnce := by
    refine .inr fun held same => ?_
    cases same
    decide
  have two : (Number.decimal ⟨12000000000000000000000, 1⟩).RoundsOnce := by
    refine .inr fun held same => ?_
    cases same
    decide
  have same : (Number.decimal ⟨12, -20⟩).equal (.decimal ⟨12000000000000000000000, 1⟩) = true := by
    decide
  exact ⟨fits, interchange_keeps.2.1 wordEnds fits, rfl, rfl, same, one, two,
    interchange_keeps.2.2 _ _ rfl rfl same one two⟩

/-- A one before three hundred zeros that are left out, and before as many that are written out. -/
theorem not_interchange_keeps_zeros :
    ¬∀ left right : Number, left.isExact = true → right.isExact = true → left.equal right = true →
      (number left).toInterchange = (number right).toInterchange := by
  intro claimed
  have same := claimed (.decimal ⟨1, -300⟩) (.decimal ⟨10 ^ 150 * 10 ^ 150, 0⟩) rfl rfl
    (by decide +kernel)
  have distinct : (ofJson (number (.decimal ⟨1, -300⟩)).toInterchange).equal
      (ofJson (number (.decimal ⟨10 ^ 150 * 10 ^ 150, 0⟩)).toInterchange) = false := by
    decide +kernel
  have alike : (ofJson (number (.decimal ⟨10 ^ 150 * 10 ^ 150, 0⟩)).toInterchange).equal
      (ofJson (number (.decimal ⟨10 ^ 150 * 10 ^ 150, 0⟩)).toInterchange) = true := by
    decide +kernel
  rw [same, alike] at distinct
  cases distinct

end Value

end TwinStore
