/-
**The parts of a value.** A value is a tree; what is said of all of it is said of its parts.

* `Value.Every`: a property holds of the value and of everything inside it, at any depth.
* `Value.mapLeaves`: the leaves are replaced and the shape stays.
* The properties of one part that stores depend on: finite numbers, decimals that a text or a
  document has room for, instants of whole milliseconds, fields in order, what is written in one way
  only.
* `Value.countedLeaf` is what becomes of an instant that is kept as a count of milliseconds.
  `Value.countedLeaf_of_plain` and `Value.countedLeaf_of_whole`: outside leap seconds it is floored,
  and whole milliseconds are kept.
-/

import TwinStore.Proofs.Decimal.Text
import TwinStore.Decimal.Decimal128
import TwinStore.Value.Basic

namespace TwinStore

/-- Half of a leap second before midnight. -/
def TimeOfDay.leapSecond : TimeOfDay := ⟨23, 59, 59, 1500000000, by decide⟩

/-- A day in a year before the year zero. -/
def Date.beforeYearZero : Date := ⟨-44, 3, 15, by decide⟩

/-- The milliseconds of an instant fit a signed word. -/
theorem Instant.milliseconds_range (instant : Instant) :
    -2 ^ 63 ≤ instant.milliseconds ∧ instant.milliseconds < 2 ^ 63 := by
  obtain ⟨seconds, subsecond, low, high, short⟩ := instant
  simp only [firstSecond, lastSecond] at low high
  simp only [milliseconds]
  omega

namespace Value

mutual

/-- The value and everything inside it. -/
def parts : Value → List Value
  | .array items => .array items :: partsOfItems items
  | .object fields => .object fields :: partsOfFields fields
  | leaf => [leaf]

/-- The items and everything inside them. -/
def partsOfItems : List Value → List Value
  | [] => []
  | item :: rest => item.parts ++ partsOfItems rest

/-- The values of entries and everything inside them. -/
def partsOfFields : List (String × Value) → List Value
  | [] => []
  | (_, value) :: rest => value.parts ++ partsOfFields rest

end

mutual

/-- The value with its leaves replaced. -/
def mapLeaves (leaf : Value → Value) : Value → Value
  | .array items => .array (mapItems leaf items)
  | .object fields => .object (mapFields leaf fields)
  | other => leaf other

/-- The items with their leaves replaced. -/
def mapItems (leaf : Value → Value) : List Value → List Value
  | [] => []
  | item :: rest => item.mapLeaves leaf :: mapItems leaf rest

/-- The entries with the leaves of their values replaced. -/
def mapFields (leaf : Value → Value) : List (String × Value) → List (String × Value)
  | [] => []
  | (name, value) :: rest => (name, value.mapLeaves leaf) :: mapFields leaf rest

end

/-! ### A property of all parts -/

section Every

variable (property : Value → Prop)

/-- The value and everything inside it have the property. -/
def Every (value : Value) : Prop := ∀ part ∈ value.parts, property part

/-- The items and everything inside them have the property. -/
def EveryItem (items : List Value) : Prop := ∀ part ∈ partsOfItems items, property part

/-- The values of entries and everything inside them have the property. -/
def EveryField (fields : List (String × Value)) : Prop :=
  ∀ part ∈ partsOfFields fields, property part

variable {property}

attribute [local simp] parts partsOfItems partsOfFields

theorem self_mem_parts (value : Value) : value ∈ value.parts := by
  cases value <;> simp

theorem Every.self {value : Value} (every : value.Every property) : property value :=
  every value value.self_mem_parts

theorem Every.mono {weaker : Value → Prop} (implies : ∀ {part : Value}, property part → weaker part)
    {value : Value} (every : value.Every property) : value.Every weaker :=
  fun part member => implies (every part member)

theorem Every.items {items : List Value} (every : (array items).Every property) :
    EveryItem property items :=
  fun part member => every part (by simp [member])

theorem Every.fields {fields : List (String × Value)} (every : (object fields).Every property) :
    EveryField property fields :=
  fun part member => every part (by simp [member])

theorem every_array_iff {items : List Value} :
    (array items).Every property ↔ property (array items) ∧ EveryItem property items := by
  rw [Every, parts, List.forall_mem_cons]
  rfl

theorem every_object_iff {fields : List (String × Value)} :
    (object fields).Every property ↔ property (object fields) ∧ EveryField property fields := by
  rw [Every, parts, List.forall_mem_cons]
  rfl

theorem everyItem_cons_iff {item : Value} {rest : List Value} :
    EveryItem property (item :: rest) ↔ item.Every property ∧ EveryItem property rest :=
  List.forall_mem_append

theorem everyField_cons_iff {name : String} {value : Value} {rest : List (String × Value)} :
    EveryField property ((name, value) :: rest) ↔
      value.Every property ∧ EveryField property rest :=
  List.forall_mem_append

theorem EveryItem.mono {weaker : Value → Prop}
    (implies : ∀ {part : Value}, property part → weaker part) {items : List Value}
    (every : EveryItem property items) : EveryItem weaker items :=
  fun part member => implies (every part member)

theorem EveryItem.head {item : Value} {rest : List Value}
    (every : EveryItem property (item :: rest)) : item.Every property :=
  fun part member => every part (by simp [member])

theorem EveryItem.tail {item : Value} {rest : List Value}
    (every : EveryItem property (item :: rest)) : EveryItem property rest :=
  fun part member => every part (by simp [member])

theorem EveryItem.of_mem {items : List Value} (every : EveryItem property items) {item : Value}
    (member : item ∈ items) : item.Every property := by
  induction items with
  | nil => cases member
  | cons first rest step =>
    rcases List.mem_cons.mp member with rfl | later
    · exact every.head
    · exact step every.tail later

theorem EveryField.head {name : String} {value : Value} {rest : List (String × Value)}
    (every : EveryField property ((name, value) :: rest)) : value.Every property :=
  fun part member => every part (by simp [member])

theorem EveryField.tail {name : String} {value : Value} {rest : List (String × Value)}
    (every : EveryField property ((name, value) :: rest)) : EveryField property rest :=
  fun part member => every part (by simp [member])

theorem everyField_iff {fields : List (String × Value)} :
    EveryField property fields ↔ ∀ entry ∈ fields, entry.2.Every property := by
  induction fields with
  | nil => simp [EveryField]
  | cons entry rest step =>
    constructor
    · intro every other member
      rcases List.mem_cons.mp member with rfl | later
      · exact every.head
      · exact step.mp every.tail other later
    · intro each part member
      rcases List.mem_append.mp member with first | later
      · exact each entry List.mem_cons_self part first
      · exact step.mpr (fun other inside => each other (List.mem_cons_of_mem _ inside)) part later

mutual

/-- Leaves that are replaced alike make the same value. -/
theorem mapLeaves_congr {leaf other : Value → Value} : ∀ {value : Value},
    value.Every (fun part => leaf part = other part) → value.mapLeaves leaf = value.mapLeaves other
  | .array _, same => by
    rw [mapLeaves, mapLeaves, mapItems_congr same.items]
  | .object _, same => by
    rw [mapLeaves, mapLeaves, mapFields_congr same.fields]
  | .null, same | .boolean _, same | .text _, same | .number _, same | .instant _, same
  | .date _, same | .time _, same | .binary _, same =>
    same.self

theorem mapItems_congr {leaf other : Value → Value} : ∀ {items : List Value},
    EveryItem (fun part => leaf part = other part) items →
      mapItems leaf items = mapItems other items
  | [], _ => rfl
  | _ :: _, same => by
    rw [mapItems, mapItems, mapLeaves_congr same.head, mapItems_congr same.tail]

theorem mapFields_congr {leaf other : Value → Value} : ∀ {fields : List (String × Value)},
    EveryField (fun part => leaf part = other part) fields →
      mapFields leaf fields = mapFields other fields
  | [], _ => rfl
  | (_, _) :: _, same => by
    rw [mapFields, mapFields, mapLeaves_congr same.head, mapFields_congr same.tail]

end

mutual

/-- **Leaves that are kept keep the value.** -/
theorem mapLeaves_of_every {leaf : Value → Value} : ∀ {value : Value},
    value.Every (fun part => leaf part = part) → value.mapLeaves leaf = value
  | .array _, kept => by
    rw [mapLeaves, mapItems_of_every kept.items]
  | .object _, kept => by
    rw [mapLeaves, mapFields_of_every kept.fields]
  | .null, kept | .boolean _, kept | .text _, kept | .number _, kept | .instant _, kept
  | .date _, kept | .time _, kept | .binary _, kept =>
    kept.self

theorem mapItems_of_every {leaf : Value → Value} : ∀ {items : List Value},
    EveryItem (fun part => leaf part = part) items → mapItems leaf items = items
  | [], _ => rfl
  | _ :: _, kept => by
    rw [mapItems, mapLeaves_of_every kept.head, mapItems_of_every kept.tail]

theorem mapFields_of_every {leaf : Value → Value} : ∀ {fields : List (String × Value)},
    EveryField (fun part => leaf part = part) fields → mapFields leaf fields = fields
  | [], _ => rfl
  | (_, _) :: _, kept => by
    rw [mapFields, mapLeaves_of_every kept.head, mapFields_of_every kept.tail]

end

end Every

/-! ### Properties of one part -/

/-- The part is no double precision number, or a finite one. -/
def FiniteFloat : Value → Prop
  | .number (.float value) => value.isFinite = true
  | _ => True

/-- The part is no double precision number, or one that is a number. -/
def NumericFloat : Value → Prop
  | .number (.float value) => value.isNaN = false
  | _ => True

/-- The part is no decimal, or one whose places fit a signed word. -/
def FittingDecimal : Value → Prop
  | .number (.decimal value) => value.FitsWord
  | _ => True

/-- The part is no decimal, or one that Decimal128 has room for. -/
def StorableDecimal : Value → Prop
  | .number (.decimal value) => Decimal128.ofDecimal? value ≠ none
  | _ => True

/-- The part is no instant, or one at the start of a millisecond. -/
def MillisecondInstant : Value → Prop
  | .instant value => value.IsMillisecond
  | _ => True

/-- The part is no instant, or one outside leap seconds. -/
def PlainInstant : Value → Prop
  | .instant value => ¬value.IsLeap
  | _ => True

/-- The part is no instant, or a whole number of milliseconds. -/
def WholeInstant : Value → Prop
  | .instant value => value.IsWhole
  | _ => True

/-- The part is no object, or one whose fields are in order. -/
def OrderedFields : Value → Prop
  | .object fields => Fields.Sorted fields
  | _ => True

theorem FiniteFloat.numeric {part : Value} (finite : part.FiniteFloat) : part.NumericFloat := by
  unfold FiniteFloat at finite
  unfold NumericFloat
  split
  · next value =>
    simp only [Binary64.isFinite, decide_eq_true_eq] at finite
    simp only [Binary64.isNaN, decide_eq_false_iff_not]
    omega
  · trivial

/-- The part is written in one way only: a number is a signed word or finite, and an instant is a
whole number of milliseconds. -/
def SingleForm : Value → Prop
  | .number (.signed _) => True
  | .number (.float value) => value.isFinite = true
  | .number (.unsigned _) | .number (.decimal _) => False
  | .instant value => value.IsWhole
  | _ => True

theorem SingleForm.finite {part : Value} (single : part.SingleForm) : part.FiniteFloat := by
  unfold FiniteFloat
  split
  · exact single
  · trivial

theorem SingleForm.whole {part : Value} (single : part.SingleForm) : part.WholeInstant := by
  unfold WholeInstant
  split
  · exact single
  · trivial

/-! ### Instants kept as a count of milliseconds -/

/-- An instant floored to the millisecond, any other leaf as it is. -/
def floorLeaf : Value → Value
  | .instant value => .instant value.floorMilliseconds
  | other => other

/-- The value with its instants floored to the millisecond. -/
def floored (value : Value) : Value := value.mapLeaves floorLeaf

/-- An instant as a count of milliseconds keeps it, any other leaf as it is. What a leap second that
is counted beyond the range becomes is given. -/
def countedLeaf (beyond : Instant → Value) : Value → Value
  | .instant value =>
    match value.counted? with
    | some counted => .instant counted.floorMilliseconds
    | none => beyond value
  | other => other

variable {beyond : Instant → Value}

/-- Outside leap seconds the count floors an instant. -/
theorem countedLeaf_of_plain {part : Value} (plain : part.PlainInstant) :
    countedLeaf beyond part = floorLeaf part := by
  cases part with
  | instant moment => rw [countedLeaf, Instant.counted?_of_not_isLeap plain, floorLeaf]
  | _ => rfl

/-- The count keeps a whole number of milliseconds. -/
theorem countedLeaf_of_whole {part : Value} (whole : part.WholeInstant) :
    countedLeaf beyond part = part := by
  cases part with
  | instant moment =>
    rw [countedLeaf, Instant.counted?_of_not_isLeap whole.1]
    exact congrArg Value.instant (Instant.floorMilliseconds_of_isMillisecond whole.2)
  | _ => rfl

/-- The count floors a value without leap seconds. -/
theorem mapLeaves_counted_of_plain {value : Value} (plain : value.Every PlainInstant) :
    value.mapLeaves (countedLeaf beyond) = value.floored :=
  mapLeaves_congr (plain.mono countedLeaf_of_plain)

/-- The count keeps a value whose instants are whole numbers of milliseconds. -/
theorem mapLeaves_counted_of_whole {value : Value} (whole : value.Every WholeInstant) :
    value.mapLeaves (countedLeaf beyond) = value :=
  mapLeaves_of_every (whole.mono countedLeaf_of_whole)

end Value

end TwinStore
