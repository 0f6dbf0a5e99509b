/-
**Equality of stored values.** Inside a column values are compared by the documents that hold their
tagged forms. Two documents are equal exactly if the values are equal and write their exact numbers
alike, with instants compared by the milliseconds that they are counted as.

* `Value.reckoned`: every instant is replaced by the one that has its place in the count, floored.
* `Value.WrittenAlike`: exact numbers at the same place have the same form. Equal numbers have many
  forms: with or without a sign, or as decimals that show more or fewer places.
* `Value.toJson_tagged_eq_document`: only a wrapped value is stored as a text under a tag; an object
  that looks like it is escaped.
* `Value.wrapping?_eq_iff`: tag and text determine a wrapped value up to the form of its number and
  the count of its instant.
* `Value.stored_equal_iff` joins them, at every depth; `Value.without_stored` draws from it which
  items are removed from an array, and `Value.without_stored_of_single` does so where every number
  is written in one way only.
-/

import TwinStore.Proofs.Json.Comparison
import TwinStore.Proofs.Value.Tagged
import TwinStore.Update

namespace TwinStore

/-! ### How numbers are written -/

/-- How an exact number is written: as a word with or without a sign, or as a decimal that shows so
many places. -/
inductive NumberForm where
  | signed
  | unsigned
  | decimal (places : Int)
  deriving DecidableEq

/-- The form of an exact number. -/
def Number.form? : Number → Option NumberForm
  | .signed _ => some .signed
  | .unsigned _ => some .unsigned
  | .float _ => none
  | .decimal value => some (.decimal value.shown.scale)

namespace Value

mutual

/-- Exact numbers at the same place are written in the same form. -/
def WrittenAlike : Value → Value → Prop
  | .number left, .number right => left.form? = right.form?
  | .array left, .array right => ItemsWrittenAlike left right
  | .object left, .object right => FieldsWrittenAlike left right
  | _, _ => True

/-- So are the numbers in the items of two arrays, one by one. -/
def ItemsWrittenAlike : List Value → List Value → Prop
  | left :: lefts, right :: rights => left.WrittenAlike right ∧ ItemsWrittenAlike lefts rights
  | _, _ => True

/-- So are the numbers in the entries of two objects, one by one. -/
def FieldsWrittenAlike : List (String × Value) → List (String × Value) → Prop
  | (_, left) :: lefts, (_, right) :: rights =>
    left.WrittenAlike right ∧ FieldsWrittenAlike lefts rights
  | _, _ => True

end

/-! ### Wrapped values -/

/-- The tag and the text of a value that is wrapped. -/
def wrapping? : Value → Option (Tag × List Char)
  | .number (.signed value) => some (.signed, Digits.ofInt value.toInt)
  | .number (.unsigned value) => some (.unsigned, Digits.ofNat value.toNat)
  | .number (.decimal value) => some (.decimal, value.chars)
  | .instant value => some (.instant, Digits.ofInt value.milliseconds)
  | .date value => some (.calendar, value.chars)
  | .time value => some (.calendar, value.chars)
  | .binary bytes => some (.binary, Base64.encode bytes)
  | _ => none

end Value

/-- The document of a text under a tag. -/
def Tag.document (tag : Tag) (text : List Char) : Json :=
  .object [(tag.name, .text (String.ofList text))]

/-- What is read back is written in one way only. -/
theorem written_inj {α β : Type} {write : α → β} {read? : β → Option α}
    (back : ∀ value, read? (write value) = some value) {left right : α} :
    write left = write right ↔ left = right := by
  refine ⟨fun same => ?_, congrArg write⟩
  have read := back left
  rw [same, back right] at read
  exact (Option.some.inj read).symm

theorem Tag.name_injective {left right : Tag} (same : left.name = right.name) : left = right :=
  (written_inj ofName?_name).mp same

theorem Tag.document_injective {left right : Tag} {text other : List Char}
    (same : left.document text = right.document other) : (left, text) = (right, other) := by
  simp only [document, Json.object.injEq, List.cons.injEq, Prod.mk.injEq, Json.text.injEq,
    String.ofList_inj, and_true] at same
  rw [name_injective same.1, same.2]

namespace Value

/-- No object is stored like a wrapped value: one that looks like it is escaped. -/
theorem toJson_tagged_object_ne (fields : List (String × Value)) (tag : Tag) (text : List Char) :
    (object fields).tagged.toJson ≠ tag.document text := by
  rw [tagged, Tag.document]
  split
  · simp [toJson, toJsonWith, fieldsToJsonWith]
  · next plain =>
    intro same
    match fields with
    | [] => simp [taggedFields, toJson, toJsonWith, fieldsToJsonWith] at same
    | [(name, value)] =>
      simp only [taggedFields, toJson, toJsonWith, fieldsToJsonWith, Json.object.injEq,
        List.cons.injEq, Prod.mk.injEq, and_true] at same
      rw [looksTagged, same.1, Tag.isReserved, Tag.ofName?_name] at plain
      exact plain rfl
    | _ :: _ :: _ => simp [taggedFields, toJson, toJsonWith, fieldsToJsonWith] at same

/-- **Exactly the wrapped values are stored as a text under a tag.** -/
theorem toJson_tagged_eq_document {value : Value} {tag : Tag} {text : List Char} :
    value.tagged.toJson = tag.document text ↔ value.wrapping? = some (tag, text) := by
  have same : ∀ {own : Tag} {content : List Char},
      own.document content = tag.document text ↔ some (own, content) = some (tag, text) := by
    intro own content
    constructor
    · exact fun documents => congrArg some (Tag.document_injective documents)
    · rintro ⟨⟩
      rfl
  cases value with
  | number number =>
    cases number with
    | float held =>
      simp only [tagged, toJson, toJsonWith, Number.toJsonWith, Json.ofFloat, Tag.document,
        wrapping?, reduceCtorEq, iff_false]
      split <;> simp
    | _ => exact same
  | instant | date | time | binary => exact same
  | null | boolean | text | array =>
    simp [tagged, toJson, toJsonWith, Tag.document, wrapping?]
  | object fields => simp [toJson_tagged_object_ne, wrapping?]

end Value

/-! ### Texts under a tag -/

theorem Digits.ofInt_inj {left right : Int} : ofInt left = ofInt right ↔ left = right :=
  written_inj integer?_ofInt

theorem Digits.ofNat_inj {left right : Nat} : ofNat left = ofNat right ↔ left = right :=
  written_inj natural?_ofNat

theorem Date.chars_inj {left right : Date} : left.chars = right.chars ↔ left = right :=
  written_inj ofChars?_chars

theorem TimeOfDay.chars_inj {left right : TimeOfDay} : left.chars = right.chars ↔ left = right :=
  written_inj ofChars?_chars

theorem Date.chars_ne_timeChars (date : Date) (time : TimeOfDay) : date.chars ≠ time.chars := by
  intro same
  have read := ofChars?_chars date
  rw [same, ofChars?_timeChars] at read
  cases read

theorem Base64.encode_inj {left right : List UInt8} : encode left = encode right ↔ left = right :=
  written_inj decode?_encode

namespace Instant

/-- The instant that has its place in the count, at the start of its millisecond. -/
def reckoned (instant : Instant) : Instant := instant.counted.floorMilliseconds

theorem reckoned_of_isWhole {instant : Instant} (whole : instant.IsWhole) :
    instant.reckoned = instant := by
  rw [reckoned, counted_of_not_isLeap whole.1, floorMilliseconds_of_isMillisecond whole.2]

/-- An instant that is counted within the range stands for its number of milliseconds. -/
theorem ofMilliseconds?_eq_reckoned {instant counted : Instant}
    (found : instant.counted? = some counted) :
    ofMilliseconds? instant.milliseconds = some instant.reckoned := by
  rw [ofMilliseconds?_milliseconds, reckoned, Instant.counted, found]
  rfl

theorem milliseconds_reckoned (instant : Instant) :
    instant.reckoned.milliseconds = instant.milliseconds := by
  cases found : instant.counted? with
  | some counted => exact (ofMilliseconds?_eq_some_iff.mp (ofMilliseconds?_eq_reckoned found)).2
  | none =>
    have floor : instant.subsecond / 1000000 * 1000000 / 1000000 = instant.subsecond / 1000000 :=
      Nat.mul_div_cancel _ (by decide)
    simp only [reckoned, counted, found, Option.getD_none, milliseconds, floorMilliseconds, floor]

/-- **Reckoned instants are told apart by their milliseconds.** -/
theorem milliseconds_inj {left right : Instant} :
    left.milliseconds = right.milliseconds ↔ left.reckoned = right.reckoned := by
  constructor
  · intro same
    have kept : left.counted?.map floorMilliseconds = right.counted?.map floorMilliseconds := by
      rw [← ofMilliseconds?_milliseconds, same, ofMilliseconds?_milliseconds]
    rw [reckoned, reckoned, counted, counted, ← Option.getD_map floorMilliseconds,
      ← Option.getD_map floorMilliseconds, ← kept]
    cases first : left.counted? with
    | some counted => rfl
    | none =>
      -- Both are in the leap second behind the range.
      rw [first, Option.map_none, eq_comm, Option.map_eq_none_iff] at kept
      have early := (counted?_eq_none_iff.mp first).2
      have late := (counted?_eq_none_iff.mp kept).2
      rw [milliseconds, milliseconds, early, late] at same
      have within : left.subsecond / 1000000 = right.subsecond / 1000000 := by omega
      simp only [Option.map_none, Option.getD_none, floorMilliseconds, early, late, within]
  · intro same
    rw [← milliseconds_reckoned left, same, milliseconds_reckoned]

end Instant

namespace Value

/-- A leaf with its instant reckoned. -/
def reckonedLeaf : Value → Value
  | .instant value => .instant value.reckoned
  | other => other

/-- The value with its instants reckoned. -/
def reckoned (value : Value) : Value := value.mapLeaves reckonedLeaf

/-- A value whose instants are whole numbers of milliseconds stays as it is. -/
theorem reckoned_of_whole {value : Value} (whole : value.Every WholeInstant) :
    value.reckoned = value := by
  apply mapLeaves_of_every
  intro part member
  have kept := whole part member
  cases part with
  | instant moment => exact congrArg instant (Instant.reckoned_of_isWhole kept)
  | _ => rfl

end Value

/-- Exact numbers are equal exactly if they denote the same number. -/
theorem Number.equal_of_toRat? {left right : Number} {first second : ℚ}
    (one : left.toRat? = some first) (two : right.toRat? = some second) :
    left.equal right = true ↔ first = second := by
  rw [equal_iff]
  constructor
  · rintro (⟨_, _, rfl, _⟩ | ⟨value, same, other⟩)
    · cases one
    · rw [one] at same
      rw [two] at other
      cases same
      cases other
      rfl
  · rintro rfl
    exact .inr ⟨first, one, two⟩

namespace Value

theorem number_wrapping?_eq_iff {left right : Number} (exact_ : left.form? ≠ none) :
    (number left).wrapping? = (number right).wrapping? ↔
      left.equal right = true ∧ left.form? = right.form? := by
  cases left with
  | float => exact absurd rfl exact_
  | signed first =>
    cases right with
    | signed second =>
      rw [Number.equal_of_toRat? rfl rfl, Decimal.toRat_ofInt, Decimal.toRat_ofInt]
      simp [wrapping?, Number.form?, Digits.ofInt_inj]
    | _ => simp [wrapping?, Number.form?]
  | unsigned first =>
    cases right with
    | unsigned second =>
      rw [Number.equal_of_toRat? rfl rfl, Decimal.toRat_ofInt, Decimal.toRat_ofInt]
      simp [wrapping?, Number.form?, Digits.ofNat_inj]
    | _ => simp [wrapping?, Number.form?]
  | decimal first =>
    cases right with
    | decimal second =>
      rw [Number.equal_of_toRat? rfl rfl]
      simp [wrapping?, Number.form?, Decimal.chars_eq_iff]
    | _ => simp [wrapping?, Number.form?]

section Wrapped

attribute [local simp] wrapping? reckoned mapLeaves reckonedLeaf equal WrittenAlike

/-- **A wrapped value is determined by its tag and its text**, up to equality, the form of its
number and the count of its instant. -/
theorem wrapping?_eq_iff {left right : Value} (wrapped : left.wrapping? ≠ none) :
    left.wrapping? = right.wrapping? ↔
      left.reckoned.equal right.reckoned = true ∧ left.WrittenAlike right := by
  cases left with
  | number left =>
    have exact_ : left.form? ≠ none := by
      cases left with
      | float => exact absurd rfl wrapped
      | _ => simp [Number.form?]
    cases right with
    | number right => exact number_wrapping?_eq_iff exact_
    | _ => cases left <;> simp_all
  | instant left =>
    cases right with
    | instant right => simp [Digits.ofInt_inj, Instant.milliseconds_inj]
    | number right => cases right <;> simp
    | _ => simp
  | date left =>
    cases right with
    | date right => simp [Date.chars_inj]
    | time right => simp [Date.chars_ne_timeChars left right]
    | number right => cases right <;> simp
    | _ => simp
  | time left =>
    cases right with
    | time right => simp [TimeOfDay.chars_inj]
    | date right => simp [(Date.chars_ne_timeChars right left).symm]
    | number right => cases right <;> simp
    | _ => simp
  | binary left =>
    cases right with
    | binary right => simp [Base64.encode_inj]
    | number right => cases right <;> simp
    | _ => simp
  | null | boolean | text | array | object => exact absurd rfl wrapped

end Wrapped

/-! ### Objects -/

/-- The documents of an object's entries, tagged. -/
def storedFields (fields : List (String × Value)) : List (String × Json) :=
  fieldsToJsonWith Decimal.toJsonText (taggedFields fields)

/-- The documents of an array's items, tagged. -/
def storedItems (items : List Value) : List Json :=
  itemsToJsonWith Decimal.toJsonText (taggedItems items)

theorem names_storedFields (fields : List (String × Value)) :
    (storedFields fields).map Prod.fst = fields.map Prod.fst := by
  induction fields with
  | nil => rfl
  | cons entry rest step => exact congrArg (entry.1 :: ·) step

theorem toJson_tagged_object (fields : List (String × Value)) :
    (object fields).tagged.toJson =
      if looksTagged fields then .object [(Tag.object.name, .object (storedFields fields))]
      else .object (storedFields fields) := by
  rw [tagged]
  split <;> rfl

/-- Whether fields look like a tagged value is a matter of their names. -/
theorem looksTagged_of_names {left right : List (String × Value)}
    (names : left.map Prod.fst = right.map Prod.fst) : looksTagged left = looksTagged right := by
  match left, right with
  | [], [] | [(_, _)], [(_, _)] | _ :: _ :: _, _ :: _ :: _ => simp_all [looksTagged]
  | [], _ :: _ | _ :: _, [] | [_], _ :: _ :: _ | _ :: _ :: _, [_] => simp at names

/-- Fields that do not look tagged are not stored like an escaped object. -/
theorem looksTagged_of_equalFields {fields : List (String × Value)} {document : Json}
    (same : Json.equalFields [(Tag.object.name, document)] (storedFields fields) = true ∨
      Json.equalFields (storedFields fields) [(Tag.object.name, document)] = true) :
    looksTagged fields = true := by
  have names : fields.map Prod.fst = [Tag.object.name] := by
    rw [← names_storedFields]
    rcases same with left | right
    · exact (Json.names_of_equalFields left).symm
    · exact Json.names_of_equalFields right
  rw [@looksTagged_of_names fields [(Tag.object.name, .null)] names]
  rfl

/-- **Objects are stored equally exactly if their entries are**, escaped or not. -/
theorem stored_equal_object (left right : List (String × Value)) :
    (object left).tagged.toJson.equal (object right).tagged.toJson =
      Json.equalFields (storedFields left) (storedFields right) := by
  -- If only one of the objects is escaped, their names differ: the names alone decide about that.
  rw [toJson_tagged_object, toJson_tagged_object, Bool.eq_iff_iff]
  split
  · next first =>
    split
    · next second =>
      rw [Json.equal, Json.equalFields_singleton]
      constructor
      · rintro ⟨other, ⟨⟩, same⟩
        rwa [Json.equal] at same
      · intro same
        exact ⟨_, rfl, by rwa [Json.equal]⟩
    · next second =>
      rw [Json.equal]
      constructor
      · exact fun same => absurd (looksTagged_of_equalFields (.inl same)) second
      · intro same
        have names := Json.names_of_equalFields same
        rw [names_storedFields, names_storedFields] at names
        exact absurd (looksTagged_of_names names ▸ first) second
  · next first =>
    split
    · next second =>
      rw [Json.equal]
      constructor
      · exact fun same => absurd (looksTagged_of_equalFields (.inr same)) first
      · intro same
        have names := Json.names_of_equalFields same
        rw [names_storedFields, names_storedFields] at names
        exact absurd ((looksTagged_of_names names).trans second) first
    · rw [Json.equal]

/-! ### At every depth -/

theorem stored_equal_of_wrapping {left right : Value} (wrapped : left.wrapping? ≠ none) :
    left.tagged.toJson.equal right.tagged.toJson = true ↔
      left.reckoned.equal right.reckoned = true ∧ left.WrittenAlike right := by
  obtain ⟨⟨tag, text⟩, found⟩ := Option.ne_none_iff_exists'.mp wrapped
  rw [← wrapping?_eq_iff wrapped, toJson_tagged_eq_document.mpr found, Tag.document,
    Json.equal_single_text, ← Tag.document, toJson_tagged_eq_document, found, eq_comm]

theorem not_stored_equal_of_wrapping {fields : List (String × Value)} {right : Value}
    (wrapped : right.wrapping? ≠ none) :
    (object fields).tagged.toJson.equal right.tagged.toJson = false := by
  obtain ⟨⟨tag, text⟩, found⟩ := Option.ne_none_iff_exists'.mp wrapped
  rw [toJson_tagged_eq_document.mpr found, ← Bool.not_eq_true, Tag.document,
    Json.equal_single_text_right]
  exact toJson_tagged_object_ne fields tag text

/-- What a value is that is stored as the document. -/
def StoredAs (value : Value) : Json → Prop
  | .null => value = .null ∨ ∃ held, value = .number (.float held) ∧ held.isFinite = false
  | .boolean found => value = .boolean found
  | .integer _ _ _ => False
  | .float held _ => value = .number (.float held)
  | .text content => value = .text content
  | .array documents => ∃ items, value = .array items ∧ storedItems items = documents
  | .object _ => value.wrapping? ≠ none ∨ ∃ fields, value = .object fields

/-- The kind of a stored document tells what the value is. -/
theorem storedAs (value : Value) : value.StoredAs value.tagged.toJson := by
  cases value with
  | number number =>
    cases number with
    | float held =>
      by_cases finite : held.isFinite = true
      · have document : (number (.float held)).tagged.toJson = .float held finite := dif_pos finite
        rw [document]
        rfl
      · have document : (number (.float held)).tagged.toJson = .null := dif_neg finite
        rw [document]
        exact .inr ⟨held, rfl, Bool.not_eq_true _ ▸ finite⟩
    | _ => exact .inl nofun
  | instant | date | time | binary => exact .inl nofun
  | null => exact .inl rfl
  | boolean | text => rfl
  | array items => exact ⟨items, rfl, rfl⟩
  | object fields =>
    rw [toJson_tagged_object]
    split <;> exact .inr ⟨fields, rfl⟩

/-- What is neither wrapped nor a container equals the same values when instants are reckoned. -/
theorem reckoned_equal_plain {left right : Value} (plain : left.IsPlain)
    (unwrapped : left.wrapping? = none) :
    left.reckoned.equal right.reckoned = left.equal right := by
  cases left with
  | null | boolean | text => cases right <;> rfl
  | number | array | object => exact plain.elim
  | instant | date | time | binary => cases unwrapped

theorem reckoned_equal_float (left : Binary64) (right : Value) :
    (number (.float left)).reckoned.equal right.reckoned = (number (.float left)).equal right := by
  cases right <;> rfl

/-- Neither wrapped nor a number nor a container: such a value is stored as it is. -/
theorem stored_equal_plain {left right : Value} (plain : left.IsPlain)
    (unwrapped : left.wrapping? = none) (finite : right.FiniteFloat) :
    left.tagged.toJson.equal right.tagged.toJson = true ↔
      left.reckoned.equal right.reckoned = true ∧ left.WrittenAlike right := by
  rw [reckoned_equal_plain plain unwrapped]
  constructor
  · intro same
    have known := right.storedAs
    cases left with
    | null =>
      rw [Json.equal_null.mp same] at known
      rcases known with rfl | ⟨held, rfl, infinite⟩
      · exact ⟨rfl, trivial⟩
      · rw [FiniteFloat, infinite] at finite
        cases finite
    | boolean =>
      rw [Json.equal_boolean.mp same] at known
      obtain rfl : right = _ := known
      exact ⟨equal_self_of_plain plain, trivial⟩
    | text =>
      rw [Json.equal_text.mp same] at known
      obtain rfl : right = _ := known
      exact ⟨equal_self_of_plain plain, trivial⟩
    | number | array | object => exact plain.elim
    | instant | date | time | binary => cases unwrapped
  · rintro ⟨same, -⟩
    obtain rfl := eq_of_equal_plain same plain
    cases right with
    | null => rfl
    | boolean => exact Json.equal_boolean.mpr rfl
    | text => exact Json.equal_text.mpr rfl
    | number | array | object => exact plain.elim
    | instant | date | time | binary => cases unwrapped

theorem stored_equal_float {left : Binary64} {right : Value}
    (first : left.isFinite = true) (second : right.FiniteFloat) :
    (number (.float left)).tagged.toJson.equal right.tagged.toJson = true ↔
      (number (.float left)).reckoned.equal right.reckoned = true ∧
        (number (.float left)).WrittenAlike right := by
  have document : ∀ {held : Binary64} (finite : held.isFinite = true),
      (number (.float held)).tagged.toJson = .float held finite := fun finite => dif_pos finite
  rw [document first, Json.equal_float, reckoned_equal_float]
  constructor
  · rintro ⟨held, finite, same, equal_⟩
    have known := right.storedAs
    rw [same] at known
    obtain rfl : right = _ := known
    exact ⟨equal_, rfl⟩
  · rintro ⟨same, written⟩
    obtain ⟨other, rfl, numbers⟩ := equal_number.mp same
    cases other with
    | float held => exact ⟨held, second, document second, numbers⟩
    | _ => cases numbers

mutual

/-- Stored documents are equal exactly if the reckoned values are equal and write their numbers
alike. -/
theorem stored_equal : ∀ {left right : Value}, left.Every FiniteFloat → right.Every FiniteFloat →
    (left.tagged.toJson.equal right.tagged.toJson = true ↔
      left.reckoned.equal right.reckoned = true ∧ left.WrittenAlike right)
  | .number (.signed _), _, _, _ | .number (.unsigned _), _, _, _ | .number (.decimal _), _, _, _
  | .instant _, _, _, _ | .date _, _, _, _ | .time _, _, _, _ | .binary _, _, _, _ =>
    stored_equal_of_wrapping nofun
  | .null, _, _, others | .boolean _, _, _, others | .text _, _, _, others =>
    stored_equal_plain trivial rfl others.self
  | .number (.float _), _, finite, others => stored_equal_float finite.self others.self
  | .array left, right, finite, others => by
    have document : (array left).tagged.toJson = .array (storedItems left) := rfl
    rw [document, Json.equal_array]
    constructor
    · -- What is stored as an array is one, so the right value has items to compare with.
      rintro ⟨documents, same, items⟩
      have known := right.storedAs
      rw [same] at known
      obtain ⟨right, rfl, rfl⟩ := known
      exact (storedItems_equal finite.items others.items).mp items
    · rintro ⟨same, written⟩
      cases right with
      | array right =>
        exact ⟨_, rfl, (storedItems_equal finite.items others.items).mpr ⟨same, written⟩⟩
      | _ => cases same
  | .object left, right, finite, others => by
    constructor
    · intro same
      have known := right.storedAs
      rw [toJson_tagged_object left] at same
      have object_ : ∃ entries, right.tagged.toJson = .object entries := by
        split at same <;> exact Json.exists_of_equal_object same
      obtain ⟨entries, document⟩ := object_
      rw [document] at known
      rw [← toJson_tagged_object] at same
      -- What is stored as an object may be a wrapped value, but no object is stored like it.
      rcases known with wrapped | ⟨right, rfl⟩
      · rw [not_stored_equal_of_wrapping wrapped] at same
        cases same
      · rw [stored_equal_object] at same
        exact (storedFields_equal finite.fields others.fields).mp same
    · rintro ⟨same, written⟩
      cases right with
      | object right =>
        rw [stored_equal_object]
        exact (storedFields_equal finite.fields others.fields).mpr ⟨same, written⟩
      | _ => cases same

theorem storedItems_equal : ∀ {left right : List Value}, EveryItem FiniteFloat left →
    EveryItem FiniteFloat right →
      (Json.equalItems (storedItems left) (storedItems right) = true ↔
        equalItems (mapItems reckonedLeaf left) (mapItems reckonedLeaf right) = true ∧
          ItemsWrittenAlike left right)
  | [], [], _, _ => by
    simp [storedItems, taggedItems, itemsToJsonWith, Json.equalItems, mapItems, equalItems,
      ItemsWrittenAlike]
  | [], _ :: _, _, _ | _ :: _, [], _, _ => by
    simp [storedItems, taggedItems, itemsToJsonWith, Json.equalItems, mapItems, equalItems]
  | left :: lefts, right :: rights, finite, others => by
    show (left.tagged.toJson.equal right.tagged.toJson &&
      Json.equalItems (storedItems lefts) (storedItems rights)) = true ↔ _
    rw [Bool.and_eq_true, stored_equal finite.head others.head,
      storedItems_equal finite.tail others.tail, mapItems, mapItems, equalItems,
      Bool.and_eq_true, ItemsWrittenAlike]
    exact and_and_and_comm

theorem storedFields_equal : ∀ {left right : List (String × Value)}, EveryField FiniteFloat left →
    EveryField FiniteFloat right →
      (Json.equalFields (storedFields left) (storedFields right) = true ↔
        equalFields (mapFields reckonedLeaf left) (mapFields reckonedLeaf right) = true ∧
          FieldsWrittenAlike left right)
  | [], [], _, _ => by
    simp [storedFields, taggedFields, fieldsToJsonWith, Json.equalFields, mapFields, equalFields,
      FieldsWrittenAlike]
  | [], _ :: _, _, _ | _ :: _, [], _, _ => by
    simp [storedFields, taggedFields, fieldsToJsonWith, Json.equalFields, mapFields, equalFields]
  | (name, left) :: lefts, (other, right) :: rights, finite, others => by
    have first := stored_equal finite.head others.head
    rw [reckoned, reckoned] at first
    show (name == other && left.tagged.toJson.equal right.tagged.toJson &&
      Json.equalFields (storedFields lefts) (storedFields rights)) = true ↔ _
    rw [Bool.and_eq_true, Bool.and_eq_true, first, storedFields_equal finite.tail others.tail,
      mapFields, mapFields, equalFields, Bool.and_eq_true, Bool.and_eq_true, FieldsWrittenAlike]
    tauto

end

/-- Where all instants are whole numbers of milliseconds, stored documents are equal exactly if the
values are equal and write their numbers alike. -/
theorem stored_equal_of_whole {left right : Value} (finite : left.Every FiniteFloat)
    (finiteToo : right.Every FiniteFloat) (whole : left.Every WholeInstant)
    (wholeToo : right.Every WholeInstant) :
    left.tagged.toJson.equal right.tagged.toJson = true ↔
      left.equal right = true ∧ left.WrittenAlike right := by
  rw [stored_equal finite finiteToo, reckoned_of_whole whole, reckoned_of_whole wholeToo]

/-- **Equality of stored values.** Finite values are stored as equal documents exactly if they are
equal, their instants reckoned, and their exact numbers, place by place, have the same form. Where
all instants are whole numbers of milliseconds, the values are compared as they are. -/
theorem stored_equal_iff (left right : Value) (finite : left.Every FiniteFloat)
    (finiteToo : right.Every FiniteFloat) :
    (left.tagged.toJson.equal right.tagged.toJson = true ↔
        left.reckoned.equal right.reckoned = true ∧ left.WrittenAlike right) ∧
      (left.Every WholeInstant → right.Every WholeInstant →
        (left.tagged.toJson.equal right.tagged.toJson = true ↔
          left.equal right = true ∧ left.WrittenAlike right)) :=
  ⟨stored_equal finite finiteToo, stored_equal_of_whole finite finiteToo⟩

/-- A time, an instant, a zero and a decimal under names that imitate tags. -/
def disguised (moment : Instant) (zero : Binary64) : Value :=
  .object
    [("$object",
      .array
        [.object [("$date", .number (.decimal ⟨-15, 1⟩))], .time .leapSecond,
          .instant moment, .number (.float zero), .number (.signed (-1))])]

/-- The zeros of both signs are equal at any depth, and the documents are equal. A leap second and
the second behind it have equal documents too. -/
theorem stored_equal_iff_disguised :
    (disguised .first ⟨0x8000000000000000⟩).tagged.toJson.equal
        (disguised .first ⟨0⟩).tagged.toJson = true ∧
      (disguised .leapSecond ⟨0⟩).tagged.toJson.equal
        (disguised Instant.leapSecond.reckoned ⟨0⟩).tagged.toJson = true := by
  have finite (moment : Instant) {zero : Binary64} (zeros : zero.isFinite = true) :
      (disguised moment zero).Every FiniteFloat := by
    simp [Every, disguised, parts, partsOfItems, partsOfFields, FiniteFloat, zeros]
  have whole (zero : Binary64) : (disguised .first zero).Every WholeInstant := by
    simp [Every, disguised, parts, partsOfItems, partsOfFields, WholeInstant]
    decide
  have written (first second : Instant) (zero other : Binary64) :
      (disguised first zero).WrittenAlike (disguised second other) := by
    simp [disguised, WrittenAlike, FieldsWrittenAlike, ItemsWrittenAlike, Number.form?]
  constructor
  · exact ((stored_equal_iff _ _ (finite _ (by decide)) (finite _ (by decide))).2 (whole _)
      (whole _)).mpr ⟨by decide +kernel, written _ _ _ _⟩
  · exact (stored_equal_iff _ _ (finite _ (by decide)) (finite _ (by decide))).1.mpr
      ⟨by decide +kernel, written _ _ _ _⟩

/-- One is one with or without a sign, and a decimal has its value at any scale, but the documents
differ. -/
theorem not_stored_equal_of_forms :
    (number (.signed 1)).equal (number (.unsigned 1)) = true ∧
      (number (.signed 1)).tagged.toJson.equal (number (.unsigned 1)).tagged.toJson = false ∧
        (number (.decimal ⟨15, 1⟩)).equal (number (.decimal ⟨150, 2⟩)) = true ∧
          (number (.decimal ⟨15, 1⟩)).tagged.toJson.equal
            (number (.decimal ⟨150, 2⟩)).tagged.toJson = false := by
  decide +kernel

/-! ### Removal from an array -/

/-- The items that are stored like none of the removed ones. -/
def withoutStored (removed items : List Value) : List Value :=
  items.filter fun item => !removed.any fun other => other.tagged.toJson.equal item.tagged.toJson

/-- **A store removes the items that the operation removes**, if equal items write their numbers
alike. -/
theorem without_stored {removed items : List Value} (finite : EveryItem FiniteFloat removed)
    (finiteToo : EveryItem FiniteFloat items) (whole : EveryItem WholeInstant removed)
    (wholeToo : EveryItem WholeInstant items)
    (alike : ∀ other ∈ removed, ∀ item ∈ items,
      other.equal item = true → other.WrittenAlike item) :
    UpdateOperation.without (.array removed) (some (.array items)) =
      some (.array (withoutStored removed items)) := by
  have same : ∀ item ∈ items, ∀ other ∈ removed,
      other.tagged.toJson.equal item.tagged.toJson = other.equal item := by
    intro item inside other member
    rw [Bool.eq_iff_iff, stored_equal_of_whole (finite.of_mem member) (finiteToo.of_mem inside)
      (whole.of_mem member) (wholeToo.of_mem inside), and_iff_left_iff_imp]
    exact alike other member item inside
  simp only [UpdateOperation.without, withoutStored, Option.some.injEq, Value.array.injEq]
  refine List.filter_congr fun item inside => ?_
  rw [Bool.eq_iff_iff, Bool.not_eq_true', Bool.not_eq_true', List.any_eq_false, List.any_eq_false]
  exact forall₂_congr fun other member => by rw [same item inside other member]

theorem storedItems_eq_map (items : List Value) :
    storedItems items = items.map fun item => item.tagged.toJson := by
  induction items with
  | nil => rfl
  | cons item rest step => exact congrArg (item.tagged.toJson :: ·) step

mutual

/-- Where numbers are written in one way only, equal values write them alike. -/
theorem writtenAlike_of_equal : ∀ {left right : Value}, left.Every SingleForm →
    right.Every SingleForm → left.equal right = true → left.WrittenAlike right
  | .number left, right, single, others, same => by
    obtain ⟨right, rfl, numbers⟩ := equal_number.mp same
    have first : (number left).SingleForm := single.self
    have second : (number right).SingleForm := others.self
    cases left with
    | signed | float =>
      cases right with
      | signed | float => first | rfl | cases numbers
      | unsigned | decimal => exact second.elim
    | unsigned | decimal => exact first.elim
  | .array _, right, single, others, same => by
    obtain ⟨right, rfl, items⟩ := equal_array.mp same
    exact itemsWrittenAlike_of_equal single.items others.items items
  | .object _, right, single, others, same => by
    obtain ⟨right, rfl, fields⟩ := equal_object.mp same
    exact fieldsWrittenAlike_of_equal single.fields others.fields fields
  | .null, right, _, _, _ | .boolean _, right, _, _, _ | .text _, right, _, _, _
  | .instant _, right, _, _, _ | .date _, right, _, _, _ | .time _, right, _, _, _
  | .binary _, right, _, _, _ => by cases right <;> trivial

theorem itemsWrittenAlike_of_equal : ∀ {left right : List Value}, EveryItem SingleForm left →
    EveryItem SingleForm right → equalItems left right = true → ItemsWrittenAlike left right
  | [], right, _, _, _ => by cases right <;> trivial
  | _ :: _, right, single, others, same => by
    obtain ⟨_, _, rfl, first, rest⟩ := equalItems_cons.mp same
    exact ⟨writtenAlike_of_equal single.head others.head first,
      itemsWrittenAlike_of_equal single.tail others.tail rest⟩

theorem fieldsWrittenAlike_of_equal : ∀ {left right : List (String × Value)},
    EveryField SingleForm left → EveryField SingleForm right → equalFields left right = true →
      FieldsWrittenAlike left right
  | [], right, _, _, _ => by cases right <;> trivial
  | (_, _) :: _, right, single, others, same => by
    obtain ⟨_, _, rfl, first, rest⟩ := equalFields_cons.mp same
    exact ⟨writtenAlike_of_equal single.head others.head first,
      fieldsWrittenAlike_of_equal single.tail others.tail rest⟩

end

/-- So a store removes what the operation removes where numbers are written in one way only. -/
theorem without_stored_of_single {removed items : List Value}
    (single : EveryItem SingleForm removed) (others : EveryItem SingleForm items) :
    UpdateOperation.without (.array removed) (some (.array items)) =
      some (.array (withoutStored removed items)) :=
  without_stored (single.mono SingleForm.finite) (others.mono SingleForm.finite)
    (single.mono SingleForm.whole) (others.mono SingleForm.whole)
    fun _ member _ inside same =>
      writtenAlike_of_equal (single.of_mem member) (others.of_mem inside) same

end Value

end TwinStore
