/-
**Reading, writing and reading again.** A value that was read from a document can be written back,
whatever wrote the document, and is read again as it was.

* `Value.AsRead` is what a part of a value looks like that was read: no unsigned word, decimals that
  Decimal128 has room for, whole milliseconds, fields in order. `every_of_ofBson`: all parts do.
* Nothing of such a value is changed on the way to a document and back (`storedLeaf_of_asRead`), so
  `reread_of_ofBson` follows from what is known of values that are stored first.
* `Bson.IsWritten`: of the kinds and subtypes of bytes that are read alike only one is written.
* `rewritten_of_isFinite`: a Decimal128 keeps its number on the way through both texts.
* `any_document_value_reread` joins them.
-/

import TwinStore.Proofs.Bson.Reading
import TwinStore.Proofs.Decimal.Spelling
import TwinStore.Proofs.Value.Document

namespace TwinStore

open Result Value

/-- The part has a kind that values are written as: of integers the long ones, of bytes plain ones
and calendar bytes, and no identifier, undefined value or foreign kind. -/
def Bson.IsWritten : Bson → Prop
  | .undefined | .int32 _ | .objectId _ | .foreign _ => False
  | .binary subtype _ => subtype = plainSubtype ∨ subtype = calendarSubtype
  | _ => True

namespace Value

/-! ### Values as they are read -/

/-- The part looks as one that was read from a document. -/
def AsRead : Value → Prop
  | .number (.unsigned _) => False
  | .number (.decimal value) =>
    value.coefficient.natAbs < 10 ^ 34 ∧ -6111 ≤ value.scale ∧ value.scale ≤ 6176
  | .instant value => value.IsWhole
  | .object fields => Fields.Sorted fields
  | _ => True

theorem AsRead.short {part : Value} (asRead : part.AsRead) : part.ShortDecimal := by
  cases part with
  | number held =>
    cases held with
    | decimal => exact asRead
    | _ => trivial
  | _ => trivial

theorem AsRead.ordered {part : Value} (asRead : part.AsRead) : part.OrderedFields := by
  cases part with
  | object => exact asRead
  | _ => trivial

/-- A leaf that was read comes back as it is. -/
theorem storedLeaf_of_asRead {part : Value} (asRead : part.AsRead) : storedLeaf part = part := by
  cases part with
  | number held =>
    cases held with
    | unsigned => cases asRead
    | _ => rfl
  | instant moment =>
    rw [← instant_clampMilliseconds, Instant.clampMilliseconds_milliseconds_eq_iff.mpr asRead]
  | _ => rfl

theorem asRead_of_ofDecimal128 {stored : Decimal128} {value : Value}
    (read : ofDecimal128 stored = .ok value) : value.Every AsRead := by
  cases stored with
  | finite negative coefficient exponent short low high =>
    cases read
    refine List.forall_mem_singleton.mpr ⟨?_, ?_, ?_⟩
    · cases negative <;> simpa using short
    · show (-6111 : Int) ≤ -exponent
      omega
    · show -exponent ≤ (6176 : Int)
      omega
  | infinity negative => cases read
  | nan => cases read

theorem asRead_of_ofBinary {subtype : UInt8} {bytes : List UInt8} {value : Value}
    (read : ofBinary subtype bytes = .ok value) : value.Every AsRead := by
  cases ofBinary_ok_iff.mp read <;> exact List.forall_mem_singleton.mpr trivial

mutual

/-- **Every part of a value that was read looks so.** -/
theorem every_of_ofBson : ∀ {stored : Bson} {value : Value},
    (∀ part ∈ stored.parts, part.InRange) → ofBson stored = .ok value → value.Every AsRead
  | .array _, _, inRange, read => by
    obtain ⟨values, each, wrapped⟩ := bind_eq_ok.mp read
    cases wrapped
    have inside := fun part member => inRange part (List.mem_cons_of_mem _ member)
    exact List.forall_mem_cons.mpr ⟨trivial, every_of_itemsOfBson inside each⟩
  | .document _, _, inRange, read => by
    obtain ⟨named, each, wrapped⟩ := bind_eq_ok.mp read
    cases wrapped
    have inside := fun part member => inRange part (List.mem_cons_of_mem _ member)
    have every := everyField_iff.mp (every_of_entriesOfBson inside each)
    refine List.forall_mem_cons.mpr ⟨Fields.sorted_ofEntries named, everyField_iff.mpr ?_⟩
    intro entry member
    exact every entry (Fields.mem_of_mem_ofEntries member)
  | .binary _ _, _, _, read => asRead_of_ofBinary read
  | .decimal128 _, _, _, read => asRead_of_ofDecimal128 read
  | .instant _, _, inRange, read => by
    cases read
    have whole := (clampMilliseconds_of_inRange (inRange _ List.mem_cons_self)).1
    exact List.forall_mem_singleton.mpr whole
  | .null, _, _, read | .undefined, _, _, read | .boolean _, _, _, read | .text _, _, _, read
  | .int32 _, _, _, read | .int64 _, _, _, read | .double _, _, _, read
  | .objectId _, _, _, read => by
    cases read
    exact List.forall_mem_singleton.mpr trivial
  | .foreign _, _, _, read => by cases read

theorem every_of_itemsOfBson : ∀ {items : List Bson} {values : List Value},
    (∀ part ∈ Bson.partsOfItems items, part.InRange) → itemsOfBson items = .ok values →
      EveryItem AsRead values
  | [], _, _, read => by
    cases read
    exact List.forall_mem_nil _
  | _ :: _, _, inRange, read => by
    obtain ⟨first, firstRead, more⟩ := bind_eq_ok.mp read
    obtain ⟨rest, restRead, joined⟩ := bind_eq_ok.mp more
    cases joined
    have here := fun part member => inRange part (List.mem_append_left _ member)
    have later := fun part member => inRange part (List.mem_append_right _ member)
    exact List.forall_mem_append.mpr
      ⟨every_of_ofBson here firstRead, every_of_itemsOfBson later restRead⟩

theorem every_of_entriesOfBson : ∀ {entries : List (String × Bson)}
    {named : List (String × Value)}, (∀ part ∈ Bson.partsOfEntries entries, part.InRange) →
      entriesOfBson entries = .ok named → EveryField AsRead named
  | [], _, _, read => by
    cases read
    exact List.forall_mem_nil _
  | (_, _) :: _, _, inRange, read => by
    obtain ⟨first, firstRead, more⟩ := bind_eq_ok.mp read
    obtain ⟨rest, restRead, joined⟩ := bind_eq_ok.mp more
    cases joined
    have here := fun part member => inRange part (List.mem_append_left _ member)
    have later := fun part member => inRange part (List.mem_append_right _ member)
    exact List.forall_mem_append.mpr
      ⟨every_of_ofBson here firstRead, every_of_entriesOfBson later restRead⟩

end

/-- **What was read can be written, and is read again as it was.** -/
theorem reread_of_ofBson {stored : Bson} {value : Value}
    (inRange : ∀ part ∈ stored.parts, part.InRange) (read : ofBson stored = .ok value) :
    ∃ again reread, value.toBson = .ok again ∧ ofBson again = .ok reread ∧ Alike reread value := by
  have every := every_of_ofBson inRange read
  obtain ⟨again, done⟩ := toBson_short (every.mono AsRead.short)
  obtain ⟨reread, back, alike⟩ := ofBson_toBson (every.mono AsRead.ordered) done
  rw [mapLeaves_of_every (every.mono storedLeaf_of_asRead)] at alike
  exact ⟨again, reread, done, back, alike⟩

/-! ### The kinds that are written -/

theorem written_of_decimal {number : Decimal} {stored : Bson} (done : number.toBson = .ok stored) :
    ∀ part ∈ stored.parts, part.IsWritten := by
  unfold Decimal.toBson at done
  split at done
  · cases done
    exact List.forall_mem_singleton.mpr trivial
  · cases done

theorem written_of_number {number : Number} {stored : Bson} (done : number.toBson = .ok stored) :
    ∀ part ∈ stored.parts, part.IsWritten := by
  cases number with
  | unsigned word =>
    rw [Number.toBson] at done
    split at done
    · cases done
      exact List.forall_mem_singleton.mpr trivial
    · exact written_of_decimal done
  | decimal held => exact written_of_decimal done
  | signed word | float held =>
    cases done
    exact List.forall_mem_singleton.mpr trivial

mutual

theorem written_of_toBson : ∀ {value : Value} {stored : Bson}, value.toBson = .ok stored →
    ∀ part ∈ stored.parts, part.IsWritten
  | .number _, _, done => written_of_number done
  | .array _, _, done => by
    obtain ⟨items, each, wrapped⟩ := bind_eq_ok.mp done
    cases wrapped
    exact List.forall_mem_cons.mpr ⟨trivial, written_of_itemsToBson each⟩
  | .object _, _, done => by
    obtain ⟨entries, each, wrapped⟩ := bind_eq_ok.mp done
    cases wrapped
    exact List.forall_mem_cons.mpr ⟨trivial, written_of_fieldsToBson each⟩
  | .binary _, _, done => by
    cases done
    exact List.forall_mem_singleton.mpr (.inl rfl)
  | .date _, _, done | .time _, _, done => by
    cases done
    exact List.forall_mem_singleton.mpr (.inr rfl)
  | .null, _, done | .boolean _, _, done | .text _, _, done | .instant _, _, done => by
    cases done
    exact List.forall_mem_singleton.mpr trivial

theorem written_of_itemsToBson : ∀ {items : List Value} {stored : List Bson},
    itemsToBson items = .ok stored → ∀ part ∈ Bson.partsOfItems stored, part.IsWritten
  | [], _, done => by
    cases done
    exact List.forall_mem_nil _
  | _ :: _, _, done => by
    obtain ⟨first, firstDone, more⟩ := bind_eq_ok.mp done
    obtain ⟨rest, restDone, joined⟩ := bind_eq_ok.mp more
    cases joined
    exact List.forall_mem_append.mpr
      ⟨written_of_toBson firstDone, written_of_itemsToBson restDone⟩

theorem written_of_fieldsToBson : ∀ {stored : List (String × Bson)}
    {fields : List (String × Value)}, fieldsToBson fields = .ok stored →
      ∀ part ∈ Bson.partsOfEntries stored, part.IsWritten
  | _, [], done => by
    cases done
    exact List.forall_mem_nil _
  | _, (_, _) :: _, done => by
    obtain ⟨first, firstDone, more⟩ := bind_eq_ok.mp done
    obtain ⟨rest, restDone, joined⟩ := bind_eq_ok.mp more
    cases joined
    exact List.forall_mem_append.mpr
      ⟨written_of_toBson firstDone, written_of_fieldsToBson restDone⟩

end

/-! ### Numbers through both texts -/

/-- **Every finite Decimal128 can be written again.** Its text is read as an exact decimal, and the
text of that as a Decimal128 of the same number. -/
theorem rewritten_of_isFinite {stored : Decimal128} (finite : stored.IsFinite) :
    ∃ number again, Decimal.ofText? stored.text = some number ∧
      Decimal128.ofText? number.text = some again ∧ number.toBson = .ok (.decimal128 again) ∧
      (Bson.decimal128 stored).Denotes (.number (.decimal number)) ∧
      (Bson.decimal128 again).Denotes (.number (.decimal number)) := by
  obtain ⟨number, exact_⟩ : ∃ number, stored.toDecimal? = some number := by
    cases stored with
    | finite => exact ⟨_, rfl⟩
    | infinity => cases finite
    | nan => cases finite
  have read : ofDecimal128 stored = .ok (.number (.decimal number)) := by
    rw [ofDecimal128, exact_]
  obtain ⟨digits, low, high⟩ : _ ∧ _ ∧ _ := (asRead_of_ofDecimal128 read).self
  obtain ⟨again, fitted⟩ :=
    Option.ne_none_iff_exists'.mp (Decimal128.ofDecimal?_of_range digits low high)
  obtain ⟨reread, back, same⟩ := Decimal128.ofDecimal?_denotes fitted
  have denotes : (Bson.decimal128 again).Denotes (.number (.decimal reread)) := by
    apply denotes_of_ofDecimal128
    rw [ofDecimal128, back]
  refine ⟨number, again, ?_, ?_, ?_, denotes_of_ofDecimal128 read, denotes.of_toRat same.symm⟩
  · rw [Decimal128.decimal_ofText?_text, exact_]
  · rw [Decimal128.ofText?_text, fitted]
  · rw [Decimal.toBson, fitted]

/-- **Any document value can be read, written and read again**, if its instants are within the range
of instants. It cannot be read exactly if one of its parts is of a foreign kind, a Decimal128 that
is no number, or calendar bytes without a date and a time. Otherwise it is read as the value that it
stands for, and that value can be written, in the kinds that are written only, and is read again as
it was. Every finite Decimal128 goes through its text and that of an exact decimal, and denotes the
same number behind both. -/
theorem any_document_value_reread (stored : Bson)
    (inRange : ∀ part ∈ stored.parts, part.InRange) :
    ((∃ cause, ofBson stored = .error cause) ↔ ∃ part ∈ stored.parts, part.Unreadable) ∧
      ((∀ part ∈ stored.parts, ¬part.Unreadable) →
        ∃ value again reread, ofBson stored = .ok value ∧ stored.Denotes value ∧
          value.toBson = .ok again ∧ (∀ part ∈ again.parts, part.IsWritten) ∧
          ofBson again = .ok reread ∧ Alike reread value) ∧
      ∀ held : Decimal128, held.IsFinite →
        ∃ number again, Decimal.ofText? held.text = some number ∧
          Decimal128.ofText? number.text = some again ∧ number.toBson = .ok (.decimal128 again) ∧
          (Bson.decimal128 held).Denotes (.number (.decimal number)) ∧
          (Bson.decimal128 again).Denotes (.number (.decimal number)) := by
  refine ⟨ofBson_error_iff, ?_, fun held => rewritten_of_isFinite⟩
  intro readable
  cases read : ofBson stored with
  | error cause =>
    obtain ⟨part, member, unreadable⟩ := ofBson_error_iff.mp ⟨cause, read⟩
    exact absurd unreadable (readable part member)
  | ok value =>
    obtain ⟨again, reread, done, back, alike⟩ := reread_of_ofBson inRange read
    exact ⟨value, again, reread, rfl, denotes_of_ofBson inRange read, done,
      written_of_toBson done, back, alike⟩

/-- A document of no store of values: a short integer, an identifier and an undefined value, bytes
of another subtype, calendar bytes with both flags, the least Decimal128 and the greatest one, and a
name that comes twice. -/
def foreignDocument : Bson :=
  .document
    [("b", .int32 (-7)), ("a", .array [.undefined, .objectId [0xAB, 0x01], .binary 5 [1, 2]]),
      ("d", .binary calendarSubtype
        (CalendarComponents.mk (some .beforeYearZero) (some .leapSecond)).bytes),
      ("c", .array
        [.decimal128 (.finite true 1 (-6176) (by decide) (by decide) (by decide)),
          .decimal128 (.finite false (10 ^ 34 - 1) 6111 (by decide) (by decide) (by decide)),
          .double ⟨0x7FF8000000000001⟩, .instant (-1)]),
      ("b", .null)]

theorem any_document_value_reread_foreign :
    (∀ part ∈ foreignDocument.parts, part.InRange) ∧
      (∀ part ∈ foreignDocument.parts, ¬part.Unreadable) ∧
        ∃ value again reread, ofBson foreignDocument = .ok value ∧ foreignDocument.Denotes value ∧
          value.toBson = .ok again ∧ (∀ part ∈ again.parts, part.IsWritten) ∧
          ofBson again = .ok reread ∧ Alike reread value := by
  have inRange : ∀ part ∈ foreignDocument.parts, part.InRange := by
    simp [foreignDocument, Bson.parts, Bson.partsOfItems, Bson.partsOfEntries, Bson.InRange]
    decide
  have held : CalendarComponents.HoldsDate
      (CalendarComponents.mk (some .beforeYearZero) (some .leapSecond)).bytes .beforeYearZero :=
    ⟨_, _, rfl, rfl, by decide⟩
  have readable : ∀ part ∈ foreignDocument.parts, ¬part.Unreadable := by
    simp [foreignDocument, Bson.parts, Bson.partsOfItems, Bson.partsOfEntries, Bson.Unreadable,
      Decimal128.IsFinite]
    exact ⟨by decide, rfl, fun dateless => absurd held (dateless _)⟩
  obtain ⟨_, rewritten, _⟩ := any_document_value_reread foreignDocument inRange
  exact ⟨inRange, readable, rewritten readable⟩

end Value

end TwinStore
