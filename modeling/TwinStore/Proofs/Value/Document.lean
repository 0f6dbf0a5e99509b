/-
**Values read back from documents.** A document has no unsigned kind and keeps instants as a count
of milliseconds, which leaves leap seconds out; everything else of a value comes back as it was.

* `afterDocument` is what comes back: `ofBson_toBson`, at every depth.
* `decimal_of_toBson_error`: nothing but a decimal is refused, and `toBson_short` says which
  decimals never are.
* `afterDocument_equal_iff`: what comes back equals a value without undefined numbers exactly if its
  instants are whole numbers of milliseconds.
* `document_round_trip` joins them.
-/

import TwinStore.Proofs.Calendar.Components
import TwinStore.Proofs.Decimal.Decimal128
import TwinStore.Proofs.Fields
import TwinStore.Proofs.Result
import TwinStore.Proofs.Value.Equality
import TwinStore.Value.Document

namespace TwinStore

open Result

/-- A decimal of thirty-four digits at places in range is never refused. -/
theorem Decimal.toBson_of_range {number : Decimal} (short : number.coefficient.natAbs < 10 ^ 34)
    (low : -6111 ≤ number.scale) (high : number.scale ≤ 6176) :
    ∃ stored, number.toBson = .ok stored := by
  unfold toBson
  split
  · exact ⟨_, rfl⟩
  · next none_ => exact absurd none_ (Decimal128.ofDecimal?_of_range short low high)

/-- An unsigned word is never refused: it has twenty digits at most. -/
theorem Decimal.toBson_unsigned (word : UInt64) :
    ∃ stored, (Decimal.ofInt word.toNat).toBson = .ok stored := by
  have high := word.toNat_lt
  have short : ((word.toNat : Nat) : Int).natAbs < 10 ^ 34 := by omega
  exact toBson_of_range short (show (-6111 : Int) ≤ 0 by decide) (show (0 : Int) ≤ 6176 by decide)

namespace Value

/-- What a leaf comes back as. -/
def storedLeaf : Value → Value
  | .number (.unsigned word) =>
    if word.toNat < 2 ^ 63 then .number (.signed (.ofInt word.toNat))
    else .number (.decimal (.ofInt word.toNat))
  | other => countedLeaf (fun _ => .instant .last) other

/-- What a value comes back as: small unsigned words signed, large ones as decimals, and instants
floored to the millisecond. A leap second comes back as the second behind it, or as the end of the
range. -/
def afterDocument (value : Value) : Value := value.mapLeaves storedLeaf

/-- The part is no decimal, or one of thirty-four digits at places in range. -/
def ShortDecimal : Value → Prop
  | .number (.decimal value) =>
    value.coefficient.natAbs < 10 ^ 34 ∧ -6111 ≤ value.scale ∧ value.scale ≤ 6176
  | _ => True

/-! ### Leaves -/

/-- The instant of a stored number of milliseconds is the one that the count keeps. -/
theorem instant_clampMilliseconds (moment : Instant) :
    instant (.clampMilliseconds moment.milliseconds) = storedLeaf (.instant moment) := by
  rw [Instant.clampMilliseconds_milliseconds, storedLeaf, countedLeaf]
  · cases moment.counted? <;> rfl
  all_goals simp

theorem ofBson_decimal {number : Decimal} {stored : Bson} (done : number.toBson = .ok stored) :
    ∃ read, ofBson stored = .ok (.number (.decimal read)) ∧ read.toRat = number.toRat := by
  unfold Decimal.toBson at done
  split at done
  · next fitted found =>
    cases done
    obtain ⟨read, back, same⟩ := Decimal128.ofDecimal?_denotes found
    refine ⟨read, ?_, same⟩
    rw [ofBson, ofDecimal128, back]
  · cases done

theorem ofBson_number {number : Number} {stored : Bson} (done : number.toBson = .ok stored) :
    ∃ read, ofBson stored = .ok read ∧ Alike read (storedLeaf (.number number)) := by
  cases number with
  | signed word =>
    cases done
    exact ⟨_, rfl, .refl _⟩
  | float held =>
    cases done
    exact ⟨_, rfl, .refl _⟩
  | decimal held =>
    obtain ⟨read, back, same⟩ := ofBson_decimal done
    exact ⟨_, back, .decimal same⟩
  | unsigned word =>
    rw [Number.toBson] at done
    rw [storedLeaf]
    by_cases small : word.toNat < 2 ^ 63
    · rw [if_pos small] at done ⊢
      cases done
      exact ⟨_, rfl, .refl _⟩
    · rw [if_neg small] at done ⊢
      obtain ⟨read, back, same⟩ := ofBson_decimal done
      exact ⟨_, back, .decimal same⟩

theorem ofBson_components (components : CalendarComponents) :
    ofBson components.toBson = components.toValue := by
  rw [CalendarComponents.toBson, ofBson, ofBinary, if_pos rfl, CalendarComponents.ofBytes_bytes]
  rfl

/-! ### What comes back -/

mutual

/-- **What is stored is read**, as the value with its leaves changed. -/
theorem ofBson_toBson : ∀ {value : Value} {stored : Bson}, value.Every OrderedFields →
    value.toBson = .ok stored →
      ∃ read, ofBson stored = .ok read ∧ Alike read (value.mapLeaves storedLeaf)
  | .number _, _, _, done => ofBson_number done
  | .instant moment, _, _, done => by
    cases done
    obtain ⟨low, high⟩ := moment.milliseconds_range
    rw [ofBson, Int64.toInt_ofInt_of_le low high, instant_clampMilliseconds]
    exact ⟨_, rfl, .refl _⟩
  | .date _, _, _, done | .time _, _, _, done => by
    cases done
    rw [ofBson_components]
    exact ⟨_, rfl, .refl _⟩
  | .array _, _, ordered, done => by
    obtain ⟨storedItems, inner, wrapped⟩ := bind_eq_ok.mp done
    cases wrapped
    obtain ⟨read, back, alike⟩ := itemsOfBson_toBson ordered.items inner
    refine ⟨.array read, ?_, .array alike⟩
    rw [ofBson, back]
    rfl
  | .object fields, _, ordered, done => by
    obtain ⟨storedFields, inner, wrapped⟩ := bind_eq_ok.mp done
    cases wrapped
    obtain ⟨read, back, names, alike⟩ := entriesOfBson_toBson ordered.fields inner
    have sorted : Fields.Sorted read := by
      have before : Fields.Sorted fields := ordered.self
      rw [Fields.Sorted, ← List.pairwise_map (f := Prod.fst)] at before ⊢
      rwa [names]
    refine ⟨.object read, ?_, .object alike⟩
    rw [ofBson, back]
    show Except.ok (Value.object (Fields.ofEntries read)) = _
    rw [Fields.ofEntries_of_sorted sorted]
  | .null, _, _, done | .boolean _, _, _, done | .text _, _, _, done | .binary _, _, _, done => by
    cases done
    exact ⟨_, rfl, .refl _⟩

theorem itemsOfBson_toBson : ∀ {items : List Value} {stored : List Bson},
    EveryItem OrderedFields items → itemsToBson items = .ok stored →
      ∃ read, itemsOfBson stored = .ok read ∧ AlikeItems read (mapItems storedLeaf items)
  | [], _, _, done => by
    cases done
    exact ⟨_, rfl, .nil⟩
  | _ :: _, _, ordered, done => by
    obtain ⟨storedFirst, firstDone, more⟩ := bind_eq_ok.mp done
    obtain ⟨storedRest, restDone, joined⟩ := bind_eq_ok.mp more
    cases joined
    obtain ⟨first, firstBack, firstAlike⟩ := ofBson_toBson ordered.head firstDone
    obtain ⟨rest, restBack, restAlike⟩ := itemsOfBson_toBson ordered.tail restDone
    refine ⟨first :: rest, ?_, .cons firstAlike restAlike⟩
    rw [itemsOfBson, firstBack, restBack]
    rfl

theorem entriesOfBson_toBson : ∀ {fields : List (String × Value)} {stored : List (String × Bson)},
    EveryField OrderedFields fields → fieldsToBson fields = .ok stored →
      ∃ read, entriesOfBson stored = .ok read ∧ read.map Prod.fst = fields.map Prod.fst ∧
        AlikeFields read (mapFields storedLeaf fields)
  | [], _, _, done => by
    cases done
    exact ⟨_, rfl, rfl, .nil⟩
  | (name, _) :: _, _, ordered, done => by
    obtain ⟨storedFirst, firstDone, more⟩ := bind_eq_ok.mp done
    obtain ⟨storedRest, restDone, joined⟩ := bind_eq_ok.mp more
    cases joined
    obtain ⟨first, firstBack, firstAlike⟩ := ofBson_toBson ordered.head firstDone
    obtain ⟨rest, restBack, names, restAlike⟩ := entriesOfBson_toBson ordered.tail restDone
    refine ⟨(name, first) :: rest, ?_, ?_, .cons firstAlike restAlike⟩
    · rw [entriesOfBson, firstBack, restBack]
      rfl
    · rw [List.map_cons, List.map_cons, names]

end

/-! ### What is refused -/

/-- A number that is refused is a decimal: an unsigned word always fits. -/
theorem decimal_of_number_error {number : Number} {cause : Unsupported}
    (failed : number.toBson = .error cause) :
    ∃ decimal, number = .decimal decimal ∧ decimal.toBson = .error cause := by
  cases number with
  | signed word => cases failed
  | float held => cases failed
  | decimal held => exact ⟨held, rfl, failed⟩
  | unsigned word =>
    rw [Number.toBson] at failed
    by_cases small : word.toNat < 2 ^ 63
    · rw [if_pos small] at failed
      cases failed
    · rw [if_neg small] at failed
      obtain ⟨stored, done⟩ := Decimal.toBson_unsigned word
      rw [done] at failed
      cases failed

mutual

/-- **Nothing but a decimal is refused.** -/
theorem decimal_of_toBson_error : ∀ {value : Value} {cause : Unsupported},
    value.toBson = .error cause →
      ∃ number, .number (.decimal number) ∈ value.parts ∧ number.toBson = .error cause
  | .number _, _, failed => by
    obtain ⟨decimal, rfl, refused⟩ := decimal_of_number_error failed
    exact ⟨decimal, self_mem_parts _, refused⟩
  | .array _, _, failed => by
    rcases bind_eq_error.mp failed with inner | ⟨_, _, wrapped⟩
    · obtain ⟨number, member, refused⟩ := decimal_of_itemsToBson_error inner
      exact ⟨number, List.mem_cons_of_mem _ member, refused⟩
    · exact absurd wrapped pure_ne_error
  | .object _, _, failed => by
    rcases bind_eq_error.mp failed with inner | ⟨_, _, wrapped⟩
    · obtain ⟨number, member, refused⟩ := decimal_of_fieldsToBson_error inner
      exact ⟨number, List.mem_cons_of_mem _ member, refused⟩
    · exact absurd wrapped pure_ne_error
  | .null, _, failed | .boolean _, _, failed | .text _, _, failed | .instant _, _, failed
  | .date _, _, failed | .time _, _, failed | .binary _, _, failed => by
    cases failed

theorem decimal_of_itemsToBson_error : ∀ {items : List Value} {cause : Unsupported},
    itemsToBson items = .error cause →
      ∃ number, .number (.decimal number) ∈ partsOfItems items ∧ number.toBson = .error cause
  | [], _, failed => by cases failed
  | _ :: _, _, failed => by
    rcases bind_eq_error.mp failed with first | ⟨_, _, more⟩
    · obtain ⟨number, member, refused⟩ := decimal_of_toBson_error first
      exact ⟨number, List.mem_append_left _ member, refused⟩
    · rcases bind_eq_error.mp more with later | ⟨_, _, joined⟩
      · obtain ⟨number, member, refused⟩ := decimal_of_itemsToBson_error later
        exact ⟨number, List.mem_append_right _ member, refused⟩
      · exact absurd joined pure_ne_error

theorem decimal_of_fieldsToBson_error : ∀ {fields : List (String × Value)} {cause : Unsupported},
    fieldsToBson fields = .error cause →
      ∃ number, .number (.decimal number) ∈ partsOfFields fields ∧ number.toBson = .error cause
  | [], _, failed => by cases failed
  | (_, _) :: _, _, failed => by
    rcases bind_eq_error.mp failed with first | ⟨_, _, more⟩
    · obtain ⟨number, member, refused⟩ := decimal_of_toBson_error first
      exact ⟨number, List.mem_append_left _ member, refused⟩
    · rcases bind_eq_error.mp more with later | ⟨_, _, joined⟩
      · obtain ⟨number, member, refused⟩ := decimal_of_fieldsToBson_error later
        exact ⟨number, List.mem_append_right _ member, refused⟩
      · exact absurd joined pure_ne_error

end

theorem toBson_of_decimals {value : Value}
    (each : ∀ number, .number (.decimal number) ∈ value.parts →
      ∃ stored, number.toBson = .ok stored) : ∃ stored, value.toBson = .ok stored := by
  cases outcome : value.toBson with
  | ok stored => exact ⟨stored, rfl⟩
  | error cause =>
    obtain ⟨number, member, refused⟩ := decimal_of_toBson_error outcome
    obtain ⟨stored, done⟩ := each number member
    rw [done] at refused
    cases refused

/-- Decimals of thirty-four digits at places in range never keep a value from being stored. -/
theorem toBson_short {value : Value} (short : value.Every ShortDecimal) :
    ∃ stored, value.toBson = .ok stored := by
  apply toBson_of_decimals
  intro number member
  obtain ⟨digits, low, high⟩ : _ ∧ _ ∧ _ := short _ member
  exact Decimal.toBson_of_range digits low high

/-! ### What comes back is equal -/

mutual

/-- **What comes back equals a defined value** exactly if its instants are whole numbers of
milliseconds. -/
theorem afterDocument_equal_iff : ∀ {value : Value}, value.Every NumericFloat →
    ((value.mapLeaves storedLeaf).equal value = true ↔ value.Every WholeInstant)
  | .number (.unsigned word), _ => by
    refine iff_of_true ?_ (List.forall_mem_singleton.mpr trivial)
    rw [mapLeaves, storedLeaf]
    · split
      · next small =>
        have low : -2 ^ 63 ≤ ((word.toNat : Nat) : Int) := by omega
        have high : ((word.toNat : Nat) : Int) < 2 ^ 63 := by omega
        refine equal_number.mpr ⟨_, rfl, (Number.equal_iff _ _).mpr (.inr ⟨_, rfl, ?_⟩)⟩
        rw [Number.toRat?, Number.toDecimal?, Int64.toInt_ofInt_of_le low high]
        rfl
      · exact equal_number.mpr ⟨_, rfl, (Number.equal_iff _ _).mpr (.inr ⟨_, rfl, rfl⟩)⟩
    all_goals simp
  | .instant moment, _ => by
    have alone : (instant moment).Every WholeInstant ↔ moment.IsWhole := List.forall_mem_singleton
    rw [alone, mapLeaves, ← instant_clampMilliseconds, equal, beq_iff_eq,
      Instant.clampMilliseconds_milliseconds_eq_iff]
    all_goals simp
  | .array _, numeric => by
    rw [mapLeaves, equal, afterDocumentItems_equal_iff numeric.items, every_array_iff]
    exact (and_iff_right trivial).symm
  | .object _, numeric => by
    rw [mapLeaves, equal, afterDocumentFields_equal_iff numeric.fields, every_object_iff]
    exact (and_iff_right trivial).symm
  | .number (.signed _), numeric | .number (.float _), numeric | .number (.decimal _), numeric
  | .null, numeric | .boolean _, numeric | .text _, numeric | .date _, numeric
  | .time _, numeric | .binary _, numeric =>
    iff_of_true (equal_refl numeric) (List.forall_mem_singleton.mpr trivial)

theorem afterDocumentItems_equal_iff : ∀ {items : List Value}, EveryItem NumericFloat items →
    (equalItems (mapItems storedLeaf items) items = true ↔ EveryItem WholeInstant items)
  | [], _ => iff_of_true rfl (List.forall_mem_nil _)
  | _ :: _, numeric => by
    rw [mapItems, equalItems, Bool.and_eq_true, afterDocument_equal_iff numeric.head,
      afterDocumentItems_equal_iff numeric.tail, everyItem_cons_iff]

theorem afterDocumentFields_equal_iff : ∀ {fields : List (String × Value)},
    EveryField NumericFloat fields →
      (equalFields (mapFields storedLeaf fields) fields = true ↔ EveryField WholeInstant fields)
  | [], _ => iff_of_true rfl (List.forall_mem_nil _)
  | (_, _) :: _, numeric => by
    rw [mapFields, equalFields, beq_self_eq_true, Bool.true_and, Bool.and_eq_true,
      afterDocument_equal_iff numeric.head, afterDocumentFields_equal_iff numeric.tail,
      everyField_cons_iff]

end

/-- The two sides of the greatest signed word, the greatest coefficient at both ends of the places,
a negative zero, a leap second, a year before zero and an instant. -/
def boundaries (moment : Instant) : Value :=
  .object
    [("a", .array
        [.number (.unsigned 9223372036854775807), .number (.unsigned 9223372036854775808)]),
      ("b", .number (.decimal ⟨10 ^ 34 - 1, -6111⟩)),
      ("c", .object [("d", .number (.decimal ⟨-(10 ^ 34 - 1), 6176⟩))]),
      ("e", .array
        [.number (.float ⟨0x8000000000000000⟩), .time .leapSecond, .date .beforeYearZero,
          .instant moment])]

section Boundaries

variable (moment : Instant)

theorem boundaries_ordered : (boundaries moment).Every OrderedFields := by
  have names : ["a", "b", "c", "e"].Pairwise (· < ·) := by decide
  refine every_object_iff.mpr ⟨List.pairwise_map.mp names, ?_⟩
  simp [EveryField, parts, partsOfItems, partsOfFields, OrderedFields, Fields.Sorted]

theorem boundaries_short : (boundaries moment).Every ShortDecimal := by
  simp [Every, boundaries, parts, partsOfItems, partsOfFields, ShortDecimal]

theorem boundaries_numeric : (boundaries moment).Every NumericFloat := by
  simp [Every, boundaries, parts, partsOfItems, partsOfFields, NumericFloat]
  decide

end Boundaries

end Value

end TwinStore
