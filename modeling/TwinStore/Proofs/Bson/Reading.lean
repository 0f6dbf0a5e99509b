/-
**What a document value is read as.** Any document value may be read, also one that no store of
values has written: of every kind, of either subtype of bytes, with a name twice.

* `Bson.Unreadable` says of one part why it cannot be read, without reading it;
  `ofBson_error_iff`: a document value fails exactly if one of its parts is such.
* `Bson.Denotes` says what a document value stands for: `denotes_of_ofBson`, if its instants are
  within the range of instants.
-/

import TwinStore.Proofs.Calendar.Reading
import TwinStore.Proofs.Decimal.Value
import TwinStore.Proofs.Fields
import TwinStore.Value.Document

namespace TwinStore

open Result Value CalendarComponents

/-- The number is neither an infinity nor undefined. -/
def Decimal128.IsFinite : Decimal128 → Prop
  | .finite .. => True
  | _ => False

namespace Bson

mutual

/-- The document value and everything inside it. -/
def parts : Bson → List Bson
  | .array items => .array items :: partsOfItems items
  | .document entries => .document entries :: partsOfEntries entries
  | leaf => [leaf]

/-- The items and everything inside them. -/
def partsOfItems : List Bson → List Bson
  | [] => []
  | item :: rest => item.parts ++ partsOfItems rest

/-- The values of entries and everything inside them. -/
def partsOfEntries : List (String × Bson) → List Bson
  | [] => []
  | (_, value) :: rest => value.parts ++ partsOfEntries rest

end

/-- The part has a kind that no value corresponds to, is a Decimal128 that is no number, or calendar
bytes of a wrong number or with neither a date nor a time. -/
def Unreadable : Bson → Prop
  | .foreign _ => True
  | .decimal128 held => ¬held.IsFinite
  | .binary subtype bytes =>
    subtype = calendarSubtype ∧
      (bytes.length ≠ 14 ∨ (∀ date, ¬HoldsDate bytes date) ∧ ∀ time, ¬HoldsTime bytes time)
  | _ => False

/-- The part is no instant, or one within the range of instants. -/
def InRange : Bson → Prop
  | .instant milliseconds =>
    Instant.first.milliseconds ≤ milliseconds.toInt ∧
      milliseconds.toInt ≤ Instant.last.milliseconds
  | _ => True

mutual

/-- The value that a document value stands for. A date goes before a time, of several entries of one
name the last one counts, and an object has its entries in the order of their names. -/
inductive Denotes : Bson → Value → Prop where
  | null : Denotes .null .null
  | undefined : Denotes .undefined .null
  | boolean (value : Bool) : Denotes (.boolean value) (.boolean value)
  | text (value : String) : Denotes (.text value) (.text value)
  | int32 {stored : Int32} {read : Int64} (same : read.toInt = stored.toInt) :
      Denotes (.int32 stored) (.number (.signed read))
  | int64 (value : Int64) : Denotes (.int64 value) (.number (.signed value))
  | double (value : Binary64) : Denotes (.double value) (.number (.float value))
  | decimal128 {negative : Bool} {coefficient : Nat} {exponent : Int}
      {short : coefficient < 10 ^ 34} {low : -6176 ≤ exponent} {high : exponent ≤ 6111}
      {read : Decimal}
      (same : read.toRat = (if negative then -1 else 1) * coefficient * 10 ^ exponent) :
      Denotes (.decimal128 (.finite negative coefficient exponent short low high))
        (.number (.decimal read))
  | instant {milliseconds : Int64} {read : Instant} (whole : read.IsWhole)
      (same : read.milliseconds = milliseconds.toInt) :
      Denotes (.instant milliseconds) (.instant read)
  | date {bytes : List UInt8} {date : Date} (held : HoldsDate bytes date) :
      Denotes (.binary calendarSubtype bytes) (.date date)
  | time {bytes : List UInt8} {time : TimeOfDay} (dateless : ∀ date, ¬HoldsDate bytes date)
      (held : HoldsTime bytes time) : Denotes (.binary calendarSubtype bytes) (.time time)
  | binary {subtype : UInt8} (plain : subtype ≠ calendarSubtype) (bytes : List UInt8) :
      Denotes (.binary subtype bytes) (.binary bytes)
  | objectId (bytes : List UInt8) :
      Denotes (.objectId bytes) (.text (String.ofList (Hex.encode bytes)))
  | array {items : List Bson} {values : List Value} (each : DenotesItems items values) :
      Denotes (.array items) (.array values)
  | document {entries : List (String × Bson)} {named : List (String × Value)}
      {fields : Fields Value} (each : DenotesEntries entries named) (sorted : fields.Sorted)
      (last : ∀ name, fields.get? name = Fields.get? named.reverse name) :
      Denotes (.document entries) (.object fields)

/-- Item by item, in the same order. -/
inductive DenotesItems : List Bson → List Value → Prop where
  | nil : DenotesItems [] []
  | cons {item : Bson} {value : Value} {items : List Bson} {values : List Value}
      (first : Denotes item value) (rest : DenotesItems items values) :
      DenotesItems (item :: items) (value :: values)

/-- Entry by entry, under the same names. -/
inductive DenotesEntries : List (String × Bson) → List (String × Value) → Prop where
  | nil : DenotesEntries [] []
  | cons {name : String} {stored : Bson} {value : Value} {entries : List (String × Bson)}
      {named : List (String × Value)} (first : Denotes stored value)
      (rest : DenotesEntries entries named) :
      DenotesEntries ((name, stored) :: entries) ((name, value) :: named)

end

/-- How the exact decimal is written does not matter. -/
theorem Denotes.of_toRat {stored : Decimal128} {read number : Decimal}
    (denotes : (Bson.decimal128 stored).Denotes (.number (.decimal read)))
    (same : number.toRat = read.toRat) :
    (Bson.decimal128 stored).Denotes (.number (.decimal number)) := by
  cases denotes with
  | decimal128 value => exact .decimal128 (same.trans value)

end Bson

namespace Value

/-! ### Leaves -/

/-- **Bytes are read as what they stand for**, calendar bytes as the date or the time that they
hold. -/
theorem ofBinary_ok_iff {subtype : UInt8} {bytes : List UInt8} {value : Value} :
    ofBinary subtype bytes = .ok value ↔ (Bson.binary subtype bytes).Denotes value := by
  by_cases calendar : subtype = calendarSubtype
  · subst calendar
    rw [ofBinary, if_pos rfl]
    constructor
    · intro found
      obtain ⟨⟨date, time⟩, read, chosen⟩ := bind_eq_ok.mp found
      cases date with
      | some date =>
        cases chosen
        exact .date ((date_of_ofBytes read date).mp rfl)
      | none =>
        cases time with
        | some time =>
          cases chosen
          refine .time ?_ ((time_of_ofBytes read time).mp rfl)
          intro date held
          cases (date_of_ofBytes read date).mpr held
        | none => cases chosen
    · intro denotes
      cases denotes with
      | @date _ date held =>
        obtain ⟨⟨dated, timed⟩, read⟩ := ofBytes_ok_iff.mpr held.length
        obtain rfl : dated = some date := (date_of_ofBytes read date).mpr held
        rw [read]
        rfl
      | @time _ time dateless held =>
        obtain ⟨⟨dated, timed⟩, read⟩ := ofBytes_ok_iff.mpr held.length
        obtain rfl : timed = some time := (time_of_ofBytes read time).mpr held
        cases dated with
        | none =>
          rw [read]
          rfl
        | some date => exact absurd ((date_of_ofBytes read date).mp rfl) (dateless date)
      | binary plain => exact absurd rfl plain
  · rw [ofBinary, if_neg calendar]
    constructor
    · intro found
      cases found
      exact .binary calendar bytes
    · intro denotes
      cases denotes with
      | date => exact absurd rfl calendar
      | time => exact absurd rfl calendar
      | binary => rfl

theorem ofBinary_error_iff {subtype : UInt8} {bytes : List UInt8} :
    (∃ cause, ofBinary subtype bytes = .error cause) ↔ (Bson.binary subtype bytes).Unreadable := by
  constructor
  · rintro ⟨cause, failed⟩
    have unread : ∀ value, ¬(Bson.binary subtype bytes).Denotes value := by
      intro value denotes
      rw [ofBinary_ok_iff.mpr denotes] at failed
      cases failed
    by_cases calendar : subtype = calendarSubtype
    · subst calendar
      have dateless : ∀ date, ¬HoldsDate bytes date := fun date held => unread _ (.date held)
      exact ⟨rfl, .inr ⟨dateless, fun time held => unread _ (.time dateless held)⟩⟩
    · exact absurd (.binary calendar bytes) (unread _)
  · rintro ⟨rfl, unheld⟩
    cases outcome : ofBinary calendarSubtype bytes with
    | error cause => exact ⟨cause, rfl⟩
    | ok value =>
      cases ofBinary_ok_iff.mp outcome with
      | @date _ date held =>
        rcases unheld with short | ⟨dateless, _⟩
        · exact absurd held.length short
        · exact absurd held (dateless date)
      | @time _ time _ held =>
        rcases unheld with short | ⟨_, timeless⟩
        · exact absurd held.length short
        · exact absurd held (timeless time)
      | binary plain => exact absurd rfl plain

theorem ofDecimal128_error_iff {number : Decimal128} :
    (∃ cause, ofDecimal128 number = .error cause) ↔ (Bson.decimal128 number).Unreadable := by
  cases number <;> simp [ofDecimal128, Decimal128.toDecimal?, Bson.Unreadable, Decimal128.IsFinite]

theorem denotes_of_ofDecimal128 {number : Decimal128} {value : Value}
    (read : ofDecimal128 number = .ok value) : (Bson.decimal128 number).Denotes value := by
  cases number with
  | finite negative coefficient exponent short low high =>
    cases read
    apply Bson.Denotes.decimal128
    cases negative <;> simp [Decimal.toRat]
  | infinity negative => cases read
  | nan => cases read

/-- An instant within the range is not moved. -/
theorem clampMilliseconds_of_inRange {milliseconds : Int64}
    (inRange : (Bson.instant milliseconds).InRange) :
    (Instant.clampMilliseconds milliseconds.toInt).IsWhole ∧
      (Instant.clampMilliseconds milliseconds.toInt).milliseconds = milliseconds.toInt := by
  obtain ⟨read, found⟩ := Instant.ofMilliseconds?_of_range inRange.1 inRange.2
  rw [Instant.clampMilliseconds, found]
  exact Instant.ofMilliseconds?_eq_some_iff.mp found

/-! ### What cannot be read -/

mutual

/-- **A document value cannot be read exactly if one of its parts cannot.** -/
theorem ofBson_error_iff : ∀ {stored : Bson},
    (∃ cause, ofBson stored = .error cause) ↔ ∃ part ∈ stored.parts, part.Unreadable
  | .array items => by
    rw [ofBson, error_wrapped_iff, itemsOfBson_error_iff]
    simp [Bson.parts, Bson.Unreadable]
  | .document entries => by
    rw [ofBson]
    refine error_wrapped_iff.trans ?_
    rw [entriesOfBson_error_iff]
    simp [Bson.parts, Bson.Unreadable]
  | .binary subtype bytes => by
    rw [ofBson, ofBinary_error_iff]
    simp [Bson.parts]
  | .decimal128 _ => by
    rw [ofBson, ofDecimal128_error_iff]
    simp [Bson.parts]
  | .null | .undefined | .boolean _ | .text _ | .int32 _ | .int64 _ | .double _ | .instant _
  | .objectId _ | .foreign _ => by
    simp [ofBson, Bson.parts, Bson.Unreadable]

theorem itemsOfBson_error_iff : ∀ {items : List Bson},
    (∃ cause, itemsOfBson items = .error cause) ↔
      ∃ part ∈ Bson.partsOfItems items, part.Unreadable
  | [] => by simp [itemsOfBson, Bson.partsOfItems]
  | item :: rest => by
    rw [itemsOfBson, error_joined_iff, ofBson_error_iff, itemsOfBson_error_iff]
    simp only [Bson.partsOfItems, List.mem_append, or_and_right, exists_or]

theorem entriesOfBson_error_iff : ∀ {entries : List (String × Bson)},
    (∃ cause, entriesOfBson entries = .error cause) ↔
      ∃ part ∈ Bson.partsOfEntries entries, part.Unreadable
  | [] => by simp [entriesOfBson, Bson.partsOfEntries]
  | (name, value) :: rest => by
    rw [entriesOfBson]
    refine error_joined_iff.trans ?_
    rw [ofBson_error_iff, entriesOfBson_error_iff]
    simp only [Bson.partsOfEntries, List.mem_append, or_and_right, exists_or]

end

/-! ### What is read -/

mutual

/-- **A document value is read as the value that it stands for.** -/
theorem denotes_of_ofBson : ∀ {stored : Bson} {value : Value},
    (∀ part ∈ stored.parts, part.InRange) → ofBson stored = .ok value → stored.Denotes value
  | .array _, _, inRange, read => by
    obtain ⟨values, each, wrapped⟩ := bind_eq_ok.mp read
    cases wrapped
    have inside := fun part member => inRange part (List.mem_cons_of_mem _ member)
    exact .array (denotes_of_itemsOfBson inside each)
  | .document _, _, inRange, read => by
    obtain ⟨named, each, wrapped⟩ := bind_eq_ok.mp read
    cases wrapped
    have inside := fun part member => inRange part (List.mem_cons_of_mem _ member)
    refine .document (denotes_of_entriesOfBson inside each) (Fields.sorted_ofEntries named) ?_
    intro name
    exact (Fields.get?_overlay [] named name).trans Option.or_none
  | .binary _ _, _, _, read => ofBinary_ok_iff.mp read
  | .decimal128 _, _, _, read => denotes_of_ofDecimal128 read
  | .instant _, _, inRange, read => by
    cases read
    obtain ⟨whole, same⟩ := clampMilliseconds_of_inRange (inRange _ List.mem_cons_self)
    exact .instant whole same
  | .int32 stored, _, _, read => by
    cases read
    exact .int32 stored.toInt_toInt64
  | .null, _, _, read => by cases read; exact .null
  | .undefined, _, _, read => by cases read; exact .undefined
  | .boolean held, _, _, read => by cases read; exact .boolean held
  | .text held, _, _, read => by cases read; exact .text held
  | .int64 held, _, _, read => by cases read; exact .int64 held
  | .double held, _, _, read => by cases read; exact .double held
  | .objectId bytes, _, _, read => by cases read; exact .objectId bytes
  | .foreign _, _, _, read => by cases read

theorem denotes_of_itemsOfBson : ∀ {items : List Bson} {values : List Value},
    (∀ part ∈ Bson.partsOfItems items, part.InRange) → itemsOfBson items = .ok values →
      Bson.DenotesItems items values
  | [], _, _, read => by
    cases read
    exact .nil
  | _ :: _, _, inRange, read => by
    obtain ⟨first, firstRead, more⟩ := bind_eq_ok.mp read
    obtain ⟨rest, restRead, joined⟩ := bind_eq_ok.mp more
    cases joined
    have here := fun part member => inRange part (List.mem_append_left _ member)
    have later := fun part member => inRange part (List.mem_append_right _ member)
    exact .cons (denotes_of_ofBson here firstRead) (denotes_of_itemsOfBson later restRead)

theorem denotes_of_entriesOfBson : ∀ {entries : List (String × Bson)}
    {named : List (String × Value)}, (∀ part ∈ Bson.partsOfEntries entries, part.InRange) →
      entriesOfBson entries = .ok named → Bson.DenotesEntries entries named
  | [], _, _, read => by
    cases read
    exact .nil
  | (_, _) :: _, _, inRange, read => by
    obtain ⟨first, firstRead, more⟩ := bind_eq_ok.mp read
    obtain ⟨rest, restRead, joined⟩ := bind_eq_ok.mp more
    cases joined
    have here := fun part member => inRange part (List.mem_append_left _ member)
    have later := fun part member => inRange part (List.mem_append_right _ member)
    exact .cons (denotes_of_ofBson here firstRead) (denotes_of_entriesOfBson later restRead)

end

end Value

end TwinStore
