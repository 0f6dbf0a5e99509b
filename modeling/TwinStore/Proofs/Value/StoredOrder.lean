/-
**The order of stored values.** Inside a column two values are ordered by the documents that hold
their tagged forms, so wrapped values of one kind are ordered by their texts. That is the order of
the values where the texts are aligned.

* `stored_precedes_iff`: the documents of wrapped values are ordered by the texts under the tag.
* `Value.Aligned`: the pairs of values whose texts are aligned. Any two times are; two numbers,
  instants or dates are if neither is negative and equally many digits stand before the point or the
  month. So are a negative and another number. Of instants neither may be in a leap second that is
  counted as the second of the other.
* `stored_order`: these are ordered like their documents.
* `stored_order_negative`: negative numbers of equally many digits are stored in reverse.
-/

import TwinStore.Proofs.Calendar.Order
import TwinStore.Proofs.Decimal.Order
import TwinStore.Proofs.Value.StoredEquality

namespace TwinStore.Value

/-- **Wrapped values under the same tag are stored in the order of their texts.** -/
theorem stored_precedes_iff {left right : Value} {tag : Tag} {text other : List Char}
    (first : left.wrapping? = some (tag, text)) (second : right.wrapping? = some (tag, other)) :
    left.tagged.toJson.Precedes right.tagged.toJson ↔ text < other := by
  rw [toJson_tagged_eq_document.mpr first, toJson_tagged_eq_document.mpr second, Tag.document,
    Tag.document, Json.precedes_text, String.lt_iff, String.toList_ofList, String.toList_ofList]

/-- Two values of one kind whose texts are aligned. -/
inductive Aligned : Value → Value → Prop where
  | signed {left right : Int64} : Digits.Aligned left.toInt right.toInt →
      Aligned (.number (.signed left)) (.number (.signed right))
  | unsigned {left right : UInt64} : Digits.Aligned left.toNat right.toNat →
      Aligned (.number (.unsigned left)) (.number (.unsigned right))
  | decimal {left right : Decimal} : left.Aligned right →
      Aligned (.number (.decimal left)) (.number (.decimal right))
  | instant {left right : Instant} : left.IsMillisecond → right.IsMillisecond →
      ¬left.CountedInto right → ¬right.CountedInto left →
      Digits.Aligned left.milliseconds right.milliseconds → Aligned (.instant left) (.instant right)
  | date {left right : Date} : left.Aligned right → Aligned (.date left) (.date right)
  | time (left right : TimeOfDay) : Aligned (.time left) (.time right)

/-- Exact numbers are ordered by the number they denote. -/
theorem number_compare_lt_iff {left right : Number} {first second : ℚ}
    (one : left.toRat? = some first) (two : right.toRat? = some second) :
    (number left).compare (number right) = .lt ↔ first < second := by
  rw [compare, Number.compare_of_toRat? one two]
  exact compare_lt_iff_lt

/-- Instants at the start of milliseconds are in the order of their milliseconds, unless one of them
is counted into the second of the other. -/
theorem milliseconds_lt_iff {left right : Instant} (first : left.IsMillisecond)
    (second : right.IsMillisecond) (apart : ¬left.CountedInto right)
    (apartToo : ¬right.CountedInto left) :
    left.milliseconds < right.milliseconds ↔ left.compare right = .lt := by
  have short := left.short
  have shortToo := right.short
  simp only [Instant.IsMillisecond] at first second
  simp only [Instant.CountedInto, Instant.IsLeap] at apart apartToo
  rw [Instant.compare, Ordering.then_eq_lt, Int.compare_eq_lt, Int.compare_eq_eq,
    Nat.compare_eq_lt, Instant.milliseconds, Instant.milliseconds]
  omega

/-- **The order of stored values.** The documents of two aligned values are in the order of the
values. -/
theorem stored_order {left right : Value} (aligned : left.Aligned right) :
    left.tagged.toJson.Precedes right.tagged.toJson ↔ left.compare right = .lt := by
  cases aligned with
  | signed aligned =>
    rw [stored_precedes_iff rfl rfl, aligned.ofInt_lt_iff, number_compare_lt_iff rfl rfl,
      Decimal.toRat_ofInt, Decimal.toRat_ofInt, Int.cast_lt]
  | unsigned aligned =>
    rw [stored_precedes_iff rfl rfl, number_compare_lt_iff rfl rfl,
      Decimal.toRat_ofInt, Decimal.toRat_ofInt, Int.cast_lt]
    exact aligned.ofInt_lt_iff
  | decimal aligned =>
    rw [stored_precedes_iff rfl rfl, aligned.chars_lt_iff, number_compare_lt_iff rfl rfl]
  | instant first second apart apartToo aligned =>
    rw [stored_precedes_iff rfl rfl, aligned.ofInt_lt_iff,
      milliseconds_lt_iff first second apart apartToo, compare]
  | date aligned => rw [stored_precedes_iff rfl rfl, aligned.chars_lt_iff, compare]
  | time => rw [stored_precedes_iff rfl rfl, TimeOfDay.chars_lt_iff, compare]

/-- The decimals 99.5 and 99.75 are stored in their order, though their places differ. -/
theorem stored_order_decimals :
    (number (.decimal ⟨995, 1⟩)).tagged.toJson.Precedes
      (number (.decimal ⟨9975, 2⟩)).tagged.toJson :=
  (stored_order (.decimal (by decide))).mpr (by decide)

/-- Nine is less than ten but is stored behind it. -/
theorem not_stored_order_of_lengths :
    (number (.signed 9)).compare (number (.signed 10)) = .lt ∧
      ¬(number (.signed 9)).tagged.toJson.Precedes (number (.signed 10)).tagged.toJson ∧
        (number (.signed 10)).tagged.toJson.Precedes (number (.signed 9)).tagged.toJson := by
  rw [stored_precedes_iff rfl rfl, stored_precedes_iff rfl rfl]
  decide

/-- **Negative numbers of equally many digits are stored in reverse.** -/
theorem stored_order_negative {left right : Int64} (first : left.toInt < 0)
    (second : right.toInt < 0)
    (long : (Digits.ofNat left.toInt.natAbs).length = (Digits.ofNat right.toInt.natAbs).length) :
    (number (.signed left)).tagged.toJson.Precedes (number (.signed right)).tagged.toJson ↔
      (number (.signed right)).compare (number (.signed left)) = .lt := by
  rw [stored_precedes_iff rfl rfl, Digits.ofInt_lt_iff, Digits.ofNat_lt_iff long,
    number_compare_lt_iff rfl rfl, Decimal.toRat_ofInt, Decimal.toRat_ofInt, Int.cast_lt]
  omega

end TwinStore.Value
