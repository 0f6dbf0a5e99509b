/-
**Tagged values lose nothing but what milliseconds do not count.** Restoring the tagged form of a
value gives the value back, directly and by way of the JSON document that a column stores. Instants
are floored, and a leap second comes back as the second behind it.

* `untagged_wrap`: under each tag stands a text that its own reader takes back; dates and times
  share a tag, and no time is read as a date.
* `Value.restored` is what comes back: `untagged_tagged`, at every depth.
* `untagged_tagged_object`: the escape and the test for a tag agree, whatever an object's only name.
* `ofJson_toJson_tagged`: the tagged form is JSON already, so the document holds the very same form.
* `tagged_lossless` joins them.
-/

import TwinStore.Proofs.Calendar.Text
import TwinStore.Proofs.Text.Base64
import TwinStore.Proofs.Value.Equality
import TwinStore.Value.Json
import TwinStore.Value.Tagged

namespace TwinStore

/-! ### Texts under a tag -/

namespace Tag

attribute [local simp] read?

@[simp] theorem read?_signed (word : Int64) :
    signed.read? (String.ofList (Digits.ofInt word.toInt)) = some (.number (.signed word)) := by
  simp [Word.readSigned?_ofInt]

@[simp] theorem read?_unsigned (word : UInt64) :
    unsigned.read? (String.ofList (Digits.ofNat word.toNat)) =
      some (.number (.unsigned word)) := by
  simp [Word.readUnsigned?_ofNat]

@[simp] theorem read?_binary (bytes : List UInt8) :
    binary.read? (String.ofList (Base64.encode bytes)) = some (.binary bytes) := by
  simp [Base64.decode?_encode]

@[simp] theorem read?_date (date : Date) :
    calendar.read? (String.ofList date.chars) = some (.date date) := by
  simp [Date.ofText?, Date.ofChars?_chars]

@[simp] theorem read?_time (time : TimeOfDay) :
    calendar.read? (String.ofList time.chars) = some (.time time) := by
  simp [Date.ofText?, TimeOfDay.ofText?, Date.ofChars?_timeChars, TimeOfDay.ofChars?_chars]

theorem read?_instant (moment : Instant) :
    instant.read? (String.ofList (Digits.ofInt moment.milliseconds)) =
      moment.counted?.map fun counted => .instant counted.floorMilliseconds := by
  obtain ⟨low, high⟩ := moment.milliseconds_range
  rw [read?, String.toList_ofList, Word.readSigned?_of_range low high, Option.bind_some,
    Int64.toInt_ofInt_of_le low high, Instant.ofMilliseconds?_milliseconds, Option.map_map]
  rfl

theorem read?_decimal {number : Decimal} (fits : number.FitsWord) :
    ∃ read, decimal.read? (String.ofList number.chars) = some (.number (.decimal read)) ∧
      read.toRat = number.toRat := by
  obtain ⟨read, found, same⟩ := Decimal.ofText?_chars fits
  exact ⟨read, by rw [Tag.read?, found, Option.map_some], same⟩

end Tag

namespace Value

/-! ### Restoring -/

/-- What a leaf comes back as. A leap second that is counted beyond the range stays wrapped. -/
def restoredLeaf : Value → Value :=
  countedLeaf fun moment => Tag.instant.wrap (Digits.ofInt moment.milliseconds)

/-- What a value comes back as. -/
def restored (value : Value) : Value := value.mapLeaves restoredLeaf

/-- Under a tag stands what its reader makes of the text. -/
theorem ofTag?_text (tag : Tag) (text : List Char) (inner : Value) :
    ofTag? tag.name (.text (String.ofList text)) inner = tag.read? (String.ofList text) := by
  unfold ofTag?
  rw [Tag.ofName?_name]
  cases tag <;> rfl

/-- A text that a tag's reader understands is restored under the tag. -/
theorem untagged_wrap {tag : Tag} {text : List Char} {value : Value}
    (read : tag.read? (String.ofList text) = some value) : (tag.wrap text).untagged = value := by
  rw [Tag.wrap, untagged, ofTag?_text, read]

/-- A text that a tag's reader does not understand stays an object. -/
theorem untagged_wrap_of_none {tag : Tag} {text : List Char}
    (unread : tag.read? (String.ofList text) = none) :
    (tag.wrap text).untagged = tag.wrap text := by
  rw [Tag.wrap, untagged, ofTag?_text, unread]
  rfl

/-- An instant comes back as the count of its milliseconds keeps it. -/
theorem untagged_tagged_instant (moment : Instant) :
    (instant moment).tagged.untagged = (instant moment).restored := by
  have read := Tag.read?_instant moment
  rw [tagged, restored, mapLeaves, restoredLeaf, countedLeaf]
  · cases found : moment.counted? with
    | some counted => exact untagged_wrap (by rw [read, found, Option.map_some])
    | none => exact untagged_wrap_of_none (by rw [read, found, Option.map_none])
  all_goals simp

theorem ofTag?_of_not_reserved {name : String} (plain : Tag.isReserved name = false)
    (payload restored : Value) : ofTag? name payload restored = none := by
  have none_ : Tag.ofName? name = none := by
    rw [Tag.isReserved, Option.isSome_eq_false_iff] at plain
    exact Option.isNone_iff_eq_none.mp plain
  unfold ofTag?
  rw [none_]

/-- **The escape and the test for a tag agree**: a tagged object is restored entry by entry. -/
theorem untagged_tagged_object (fields : List (String × Value)) :
    (object fields).tagged.untagged = .object (untaggedFields (taggedFields fields)) := by
  match fields with
  | [] => rfl
  | [(name, value)] =>
    rw [tagged, looksTagged]
    by_cases reserved : Tag.isReserved name = true
    · rw [if_pos reserved]
      rfl
    · rw [if_neg reserved]
      simp only [taggedFields, untagged,
        ofTag?_of_not_reserved (Bool.not_eq_true _ ▸ reserved : Tag.isReserved name = false),
        untaggedFields]
  | _ :: _ :: _ => rfl

mutual

/-- **A tagged form is restored**, at every depth. -/
theorem untagged_tagged : ∀ {value : Value}, value.Every FittingDecimal →
    Alike value.tagged.untagged value.restored
  | .number (.signed word), _ => by
    rw [tagged, untagged_wrap (Tag.read?_signed word)]
    exact .refl _
  | .number (.unsigned word), _ => by
    rw [tagged, untagged_wrap (Tag.read?_unsigned word)]
    exact .refl _
  | .number (.decimal _), fits => by
    obtain ⟨read, found, same⟩ := Tag.read?_decimal fits.self
    rw [tagged, untagged_wrap found]
    exact .decimal same
  | .instant moment, _ => by
    rw [untagged_tagged_instant]
    exact .refl _
  | .date day, _ => by
    rw [tagged, untagged_wrap (Tag.read?_date day)]
    exact .refl _
  | .time moment, _ => by
    rw [tagged, untagged_wrap (Tag.read?_time moment)]
    exact .refl _
  | .binary bytes, _ => by
    rw [tagged, untagged_wrap (Tag.read?_binary bytes)]
    exact .refl _
  | .array _, fits => .array (untaggedItems_tagged fits.items)
  | .object fields, fits => by
    rw [untagged_tagged_object]
    exact .object (untaggedFields_tagged fits.fields)
  | .null, _ | .boolean _, _ | .text _, _ | .number (.float _), _ => .refl _

theorem untaggedItems_tagged : ∀ {items : List Value}, EveryItem FittingDecimal items →
    AlikeItems (untaggedItems (taggedItems items)) (mapItems restoredLeaf items)
  | [], _ => .nil
  | _ :: _, fits => .cons (untagged_tagged fits.head) (untaggedItems_tagged fits.tail)

theorem untaggedFields_tagged : ∀ {fields : List (String × Value)},
    EveryField FittingDecimal fields →
      AlikeFields (untaggedFields (taggedFields fields)) (mapFields restoredLeaf fields)
  | [], _ => .nil
  | (_, _) :: _, fits => .cons (untagged_tagged fits.head) (untaggedFields_tagged fits.tail)

end

/-! ### The stored document -/

/-- A text under a tag is the same text in the stored document. -/
theorem ofJson_toJson_wrap (tag : Tag) (text : List Char) :
    ofJson (tag.wrap text).toJson = tag.wrap text := rfl

mutual

/-- **A tagged form is JSON already**, if its double precision numbers are finite. -/
theorem ofJson_toJson_tagged : ∀ {value : Value}, value.Every FiniteFloat →
    ofJson value.tagged.toJson = value.tagged
  | .number (.float held), finite => by
    have inRange : held.isFinite = true := finite.self
    simp only [tagged, toJson, toJsonWith, Number.toJsonWith, Json.ofFloat, inRange, dite_true,
      ofJson]
  | .array items, finite => by
    simp only [tagged, toJson, toJsonWith, ofJson]
    rw [itemsOfJson_tagged finite.items]
  | .object fields, finite => by
    have entries := fieldsOfJson_tagged finite.fields
    rw [tagged]
    split
    · simp only [toJson, toJsonWith, fieldsToJsonWith, ofJson, fieldsOfJson]
      rw [entries]
    · simp only [toJson, toJsonWith, ofJson]
      rw [entries]
  | .number (.signed _), _ | .number (.unsigned _), _ | .number (.decimal _), _ | .instant _, _
  | .date _, _ | .time _, _ | .binary _, _ => by
    rw [tagged]
    exact ofJson_toJson_wrap _ _
  | .null, _ | .boolean _, _ | .text _, _ => rfl

theorem itemsOfJson_tagged : ∀ {items : List Value}, EveryItem FiniteFloat items →
    itemsOfJson (itemsToJsonWith Decimal.toJsonText (taggedItems items)) = taggedItems items
  | [], _ => rfl
  | _ :: _, finite => by
    have first := ofJson_toJson_tagged finite.head
    rw [toJson] at first
    simp only [taggedItems, itemsToJsonWith, itemsOfJson]
    rw [first, itemsOfJson_tagged finite.tail]

theorem fieldsOfJson_tagged : ∀ {fields : List (String × Value)}, EveryField FiniteFloat fields →
    fieldsOfJson (fieldsToJsonWith Decimal.toJsonText (taggedFields fields)) = taggedFields fields
  | [], _ => rfl
  | (_, _) :: _, finite => by
    have first := ofJson_toJson_tagged finite.head
    rw [toJson] at first
    simp only [taggedFields, fieldsToJsonWith, fieldsOfJson]
    rw [first, fieldsOfJson_tagged finite.tail]

end

/-- **Tagged values lose nothing but what milliseconds do not count.** Restoring the tagged form
gives the value as it comes back, and so does restoring the form that is read from the stored
document. Without leap seconds that is the value with its instants floored to the millisecond. -/
theorem tagged_lossless (value : Value) (fits : value.Every FittingDecimal)
    (finite : value.Every FiniteFloat) :
    Alike value.tagged.untagged value.restored ∧
      Alike (ofJson value.tagged.toJson).untagged value.restored ∧
        (value.Every PlainInstant → value.restored = value.floored) := by
  have back := untagged_tagged fits
  refine ⟨back, ?_, mapLeaves_counted_of_plain⟩
  rw [ofJson_toJson_tagged finite]
  exact back

/-- An object that imitates the escape, with another imitation, both scientific layouts of decimals,
a negative zero, a leap second, a year before zero and an instant in it. -/
def imitation (moment : Instant) : Value :=
  .object
    [("$object",
      .array
        [.object [("$signed", .text "1")], .number (.decimal ⟨-15, 12⟩),
          .number (.decimal ⟨3, -20⟩), .number (.float ⟨0x8000000000000000⟩),
          .time .leapSecond, .date .beforeYearZero, .instant moment])]

theorem imitation_fits (moment : Instant) : (imitation moment).Every FittingDecimal := by
  simp [Every, imitation, parts, partsOfItems, partsOfFields, FittingDecimal, Decimal.FitsWord]

theorem imitation_finite (moment : Instant) : (imitation moment).Every FiniteFloat := by
  simp [Every, imitation, parts, partsOfItems, partsOfFields, FiniteFloat]
  decide

theorem imitation_plain {moment : Instant} (plain : ¬moment.IsLeap) :
    (imitation moment).Every PlainInstant := by
  simp [Every, imitation, parts, partsOfItems, partsOfFields, PlainInstant, plain]

/-- With a leap second inside, and with an instant between two milliseconds. -/
theorem tagged_lossless_imitation :
    ((imitation .leapSecond).Every FittingDecimal ∧ (imitation .leapSecond).Every FiniteFloat ∧
      Alike (imitation .leapSecond).tagged.untagged (imitation .leapSecond).restored ∧
      Alike (ofJson (imitation .leapSecond).tagged.toJson).untagged
        (imitation .leapSecond).restored) ∧
    (imitation .fine).Every PlainInstant ∧
      Alike (imitation .fine).tagged.untagged (imitation .fine).floored := by
  obtain ⟨back, document, -⟩ :=
    tagged_lossless _ (imitation_fits .leapSecond) (imitation_finite .leapSecond)
  obtain ⟨floor, -, same⟩ := tagged_lossless _ (imitation_fits .fine) (imitation_finite .fine)
  have plain := @imitation_plain .fine (by decide)
  rw [same plain] at floor
  exact ⟨⟨imitation_fits _, imitation_finite _, back, document⟩, plain, floor⟩

/-- Half of a leap second comes back as half of the second behind it, from the document too. -/
theorem not_tagged_lossless_leapSecond :
    (instant .leapSecond).Every FittingDecimal ∧ (instant .leapSecond).Every FiniteFloat ∧
      ¬Alike (instant .leapSecond).tagged.untagged (instant .leapSecond).floored ∧
        ¬Alike (ofJson (instant .leapSecond).tagged.toJson).untagged
          (instant .leapSecond).floored := by
  have finite : (instant .leapSecond).Every FiniteFloat := List.forall_mem_singleton.mpr trivial
  have back : ¬Alike (instant .leapSecond).tagged.untagged (instant .leapSecond).floored := by
    rw [untagged_tagged_instant]
    intro alike
    have same := alike.equal (List.forall_mem_singleton.mpr trivial)
    revert same
    decide
  refine ⟨List.forall_mem_singleton.mpr trivial, finite, back, ?_⟩
  rw [ofJson_toJson_tagged finite]
  exact back

end Value

end TwinStore
