/-
**Repeated upserts.** The record that an upsert inserts starts from the equalities of the filter. A
repetition of the upsert finds it if it satisfies them.

* `Repeatable`: the filter is a conjunction of equalities on fields that neither the update nor the
  insert-only fields touch.
* `Condition.HeldBy`: the value at the condition's path equals its operand.
* `UpsertPlan.get_insert`: at the head of a path stands the operand of the condition on the head.
* `repetition_finds`: conditions on plain fields hold; a condition on a path holds only if the
  operand on its head has the value there, since a path by itself puts nothing into the record.
-/

import Mathlib.Data.List.Nodup
import TwinStore.Proofs.Path
import TwinStore.Proofs.Plan.Insertion
import TwinStore.Proofs.Predicate
import TwinStore.Proofs.Update
import TwinStore.Proofs.Value.Equality

namespace TwinStore

/-- The record has the operand at the condition's path. -/
def Condition.HeldBy (condition : Condition) (record : Record) : Prop :=
  (record.atPath condition.field).equal condition.operand = true

/-- The operand of the condition on a field, null if there is none. -/
def operandOn (conditions : List Condition) (field : String) : Value :=
  (Fields.get? (conditions.map fun test => (test.field, test.operand)) field).getD .null

/-- The filters are equalities on different fields of the user, and nothing else of the upsert
touches the heads of these fields. -/
structure Repeatable (query : FindQuery) (update : UpdateSet) (setOnInsert : Fields Value) :
    Prop where
  conjunction : Predicate.AreConjunctions query.filters
  distinct : ((Predicate.conditionsOfAll query.filters).map Condition.field).Nodup
  plain : ∀ test ∈ Predicate.conditionsOfAll query.filters, isReserved test.field = false
  numeric : ∀ test ∈ Predicate.conditionsOfAll query.filters,
    test.operand.Every Value.NumericFloat
  kept : ∀ test ∈ Predicate.conditionsOfAll query.filters,
    update.get? (fieldHead test.field) = none ∧ setOnInsert.get? (fieldHead test.field) = none

/-! ### Equalities of conditions -/

namespace Predicate

/-- An equality of a plain field of the user is read from its condition unless it is with null. -/
theorem equalityOf_of_plain {condition : Condition} (equal : condition.comparison = .equal)
    (plain : isReserved condition.field = false) (undotted : isDotted condition.field = false) :
    equalityOf condition =
      if condition.operand.isNull then [] else [(condition.field, condition.operand)] := by
  unfold equalityOf
  cases condition.operand.isNull <;> simp [equal, plain, undotted]

theorem mem_equalities {conditions : List Condition} {entry : String × Value}
    (member : entry ∈ conditions.flatMap equalityOf) :
    ∃ test ∈ conditions, entry ∈ equalityOf test ∧ test.field = entry.1 := by
  obtain ⟨test, inside, read⟩ := List.mem_flatMap.mp member
  refine ⟨test, inside, read, ?_⟩
  unfold equalityOf at read
  split at read
  · rw [List.mem_singleton.mp read]
  · cases read

theorem names_equalities_sublist (conditions : List Condition) :
    ((conditions.flatMap equalityOf).map Prod.fst).Sublist (conditions.map Condition.field) := by
  induction conditions with
  | nil => exact .slnil
  | cons test rest step =>
    rw [List.flatMap_cons, List.map_append, List.map_cons]
    unfold equalityOf
    split
    · exact step.cons_cons _
    · exact step.cons _

theorem operandOn_of_mem {conditions : List Condition}
    (distinct : (conditions.map Condition.field).Nodup) {test : Condition}
    (member : test ∈ conditions) : operandOn conditions test.field = test.operand := by
  have names : ((conditions.map fun test => (test.field, test.operand)).map Prod.fst).Nodup := by
    rw [List.map_map]
    exact distinct
  have found := Fields.get?_of_mem names (List.mem_map_of_mem member)
  rw [operandOn, found]
  rfl

theorem operandOn_of_not_mem {conditions : List Condition} {field : String}
    (absent : field ∉ conditions.map Condition.field) : operandOn conditions field = .null := by
  have nowhere :
      Fields.get? (conditions.map fun test => (test.field, test.operand)) field = none := by
    rw [Fields.get?_eq_none, List.map_map]
    exact absent
  rw [operandOn, nowhere]
  rfl

/-- **The equalities of conditions on different fields hold their operands**, as far as the fields
are plain fields of the user. -/
theorem get?_equalities {conditions : List Condition}
    (equal : ∀ test ∈ conditions, test.comparison = .equal)
    (distinct : (conditions.map Condition.field).Nodup) {field : String}
    (plain : isReserved field = false) (undotted : isDotted field = false) :
    ((Fields.ofEntries (conditions.flatMap equalityOf)).get? field).getD .null =
      operandOn conditions field := by
  by_cases named : field ∈ conditions.map Condition.field
  · obtain ⟨test, member, rfl⟩ := List.mem_map.mp named
    have read := equalityOf_of_plain (equal test member) plain undotted
    rw [operandOn_of_mem distinct member]
    split at read
    · next isNull =>
      -- The equality with null is left out, and no other condition names the field.
      have absent : test.field ∉ (conditions.flatMap equalityOf).map Prod.fst := by
        intro inside
        obtain ⟨entry, found, same⟩ := List.mem_map.mp inside
        obtain ⟨other, otherMember, wrote, field⟩ := mem_equalities found
        obtain rfl : other = test :=
          List.inj_on_of_nodup_map distinct otherMember member (field.trans same)
        rw [read] at wrote
        cases wrote
      rw [Fields.ofEntries, Fields.get?_overlay_of_not_mem absent]
      cases operand : test.operand with
      | null => rfl
      | _ =>
        rw [operand] at isNull
        cases isNull
    · have inside : (test.field, test.operand) ∈ conditions.flatMap equalityOf :=
        List.mem_flatMap.mpr ⟨test, member, by rw [read]; exact List.mem_singleton_self _⟩
      have names := (names_equalities_sublist conditions).nodup distinct
      rw [Fields.ofEntries, Fields.get?_overlay_of_mem names inside]
      rfl
  · have absent : field ∉ (conditions.flatMap equalityOf).map Prod.fst :=
      fun inside => named ((names_equalities_sublist conditions).subset inside)
    rw [Fields.ofEntries, Fields.get?_overlay_of_not_mem absent, operandOn_of_not_mem named]
    rfl

end Predicate

/-! ### The record to insert -/

namespace UpsertPlan

/-- An upsert is planned if its conditions name fields of the user. -/
theorem of_plain {query : FindQuery}
    (plain : ∀ test ∈ Predicate.conditionsOfAll query.filters, isReserved test.field = false)
    (update : UpdateSet) (setOnInsert : Fields Value) (id : String) (now : Instant) :
    UpsertPlan.of query update setOnInsert id now =
      .ok ⟨update.stamped now, setOnInsert,
        .of (seed query.predicate? (update.stamped now) setOnInsert) id now⟩ := by
  have free : pinnedId? query.predicate? = none := by
    unfold pinnedId? FindQuery.predicate?
    cases together : Predicate.all? query.filters with
    | none => rfl
    | some predicate =>
      have unpinned : ∀ name, isReserved name = true → predicate.pins name = false := by
        intro name reserved
        rw [Predicate.pinsAny_of_all? together, Bool.eq_false_iff]
        intro pinned
        obtain ⟨test, member, rfl⟩ := Predicate.exists_of_pinsAny pinned
        rw [plain test member] at reserved
        cases reserved
      show List.find? _ _ = none
      simp [unpinned idName rfl, unpinned documentIdName rfl]
  rw [UpsertPlan.of, free]

variable {query : FindQuery} {update : UpdateSet} {setOnInsert : Fields Value}

/-- **At the head of a path stands the operand of the condition on the head.** -/
theorem get_insert (repeatable : Repeatable query update setOnInsert) {test : Condition}
    (member : test ∈ Predicate.conditionsOfAll query.filters) (id : String) (now : Instant)
    (className : String) :
    ((InsertPlan.of (seed query.predicate? (update.stamped now) setOnInsert) id now).toRecord
        className).get (fieldHead test.field) =
      operandOn (Predicate.conditionsOfAll query.filters) (fieldHead test.field) := by
  obtain ⟨updateKept, insertKept⟩ := repeatable.kept test member
  have selected := Fields.get?_filter (fun name => !isReserved name)
    (seed query.predicate? (update.stamped now) setOnInsert) (fieldHead test.field)
  show Option.getD (Fields.get? (List.filter _ _) _) _ = _
  rw [selected]
  by_cases reserved : isReserved (fieldHead test.field) = true
  · have unnamed : fieldHead test.field ∉
        (Predicate.conditionsOfAll query.filters).map Condition.field := by
      intro named
      obtain ⟨other, inside, same⟩ := List.mem_map.mp named
      have plain := repeatable.plain other inside
      rw [same, reserved] at plain
      cases plain
    rw [Predicate.operandOn_of_not_mem unnamed, reserved]
    rfl
  · have plain : isReserved (fieldHead test.field) = false := Bool.not_eq_true _ ▸ reserved
    have seeded := (update.get?_stamped_of_plain now plain).trans updateKept
    have only : fieldHead test.field ∉
        (untouched (update.stamped now) setOnInsert).map Prod.fst := by
      rw [← Fields.get?_eq_none, untouched,
        Fields.get?_filter fun name => !(update.stamped now).contains name, insertKept, ite_self]
    rw [plain, Bool.not_false, if_pos rfl, seed, UpdateSet.get?_applyTo_of_untouched seeded,
      Fields.get?_overlay_of_not_mem only, FindQuery.predicate?, Predicate.equalities_all?,
      Predicate.equalitiesOfAll_of_conjunctions repeatable.conjunction]
    exact Predicate.get?_equalities
      (Predicate.comparison_of_conjunctions repeatable.conjunction) repeatable.distinct plain
      (isDotted_fieldHead test.field)

/-- **Repeated upserts.** The upsert is planned, and the record to insert has, at the path of each
condition, what the operand of the condition on the head has there. So the conditions on plain
fields hold, and those on paths where that operand agrees. -/
theorem repetition_finds (repeatable : Repeatable query update setOnInsert) (id : String)
    (now : Instant) (className : String) :
    ∃ plan, UpsertPlan.of query update setOnInsert id now = .ok plan ∧
      ∀ test ∈ Predicate.conditionsOfAll query.filters,
        (plan.insert.toRecord className).atPath test.field =
            (operandOn (Predicate.conditionsOfAll query.filters) (fieldHead test.field)).at
              (fieldSegments test.field).tail ∧
          (isDotted test.field = false → test.HeldBy (plan.insert.toRecord className)) := by
  refine ⟨_, of_plain repeatable.plain update setOnInsert id now, ?_⟩
  intro test member
  have path : ((InsertPlan.of (seed query.predicate? (update.stamped now) setOnInsert) id
      now).toRecord className).atPath test.field = _ := Record.atPath_eq _ _
  rw [get_insert repeatable member] at path
  refine ⟨path, fun undotted => ?_⟩
  have alone := fieldSegments_of_plain undotted
  have head : fieldHead test.field = test.field := by rw [fieldHead, alone]; rfl
  rw [head, alone, Predicate.operandOn_of_mem repeatable.distinct member] at path
  show Value.equal (Record.atPath _ _) _ = true
  rw [path]
  exact Value.equal_refl (repeatable.numeric test member)

/-- A query for the given filters. -/
def queryFor (filters : List Predicate) : FindQuery :=
  { FindQuery.empty with className := some "Person", filters := filters }

/-- The city in an address, a condition on a path. -/
def inOslo : Predicate := .compare "address.city" .equal (.text "Oslo")

/-- Equalities in a group inside a group, one of them with null, and a condition on a path whose
head is fixed as well. -/
def addressed : List Predicate :=
  [.group .all
      [.compare "name" .equal (.text "John"),
        .group .all [.compare "address" .equal (.object [("city", .text "Oslo")])]],
    .compare "nickname" .equal .null, inOslo]

theorem repetition_finds_addressed :
    ∃ plan, UpsertPlan.of (queryFor addressed) [("age", .increment (.signed 1))]
        [("country", .text "Norway")] "id1" .fine = .ok plan ∧
      ∀ test ∈ Predicate.conditionsOfAll addressed,
        test.HeldBy (plan.insert.toRecord "Person") := by
  have repeatable : Repeatable (queryFor addressed) [("age", .increment (.signed 1))]
      [("country", .text "Norway")] := by
    refine ⟨?_, by decide, by decide, ?_, by decide⟩
    · simp [queryFor, addressed, inOslo, Predicate.compare, Predicate.AreConjunctions,
        Predicate.IsConjunction]
    · simp [queryFor, addressed, inOslo, Predicate.compare, Predicate.conditionsOfAll,
        Predicate.conditions, Value.Every, Value.parts, Value.partsOfFields, Value.NumericFloat]
  obtain ⟨plan, planned, finds⟩ := repetition_finds repeatable "id1"
    .fine "Person"
  refine ⟨plan, planned, fun test member => ?_⟩
  obtain ⟨path, plain⟩ := finds test member
  simp only [addressed, inOslo, Predicate.compare, Predicate.conditionsOfAll,
    Predicate.conditions, List.append_nil, List.cons_append, List.nil_append, List.mem_cons,
    List.not_mem_nil, or_false] at member
  rcases member with rfl | rfl | rfl | rfl
  · exact plain (by decide)
  · exact plain (by decide)
  · exact plain (by decide)
  · rw [Condition.HeldBy, path]
    decide

/-- The record for a condition on a path alone does not satisfy it, so every repetition inserts
another one. -/
theorem not_repetition_finds_path :
    Repeatable (queryFor [inOslo]) [] [] ∧
      ∃ plan, UpsertPlan.of (queryFor [inOslo]) [] [] "id1" .fine =
          .ok plan ∧
        ∃ test ∈ Predicate.conditionsOfAll [inOslo],
          ¬test.HeldBy (plan.insert.toRecord "Person") := by
  refine ⟨⟨?_, by decide, by decide, ?_, by decide⟩, _, rfl, _, List.mem_cons_self, ?_⟩
  · simp [queryFor, inOslo, Predicate.compare, Predicate.AreConjunctions, Predicate.IsConjunction]
  · simp [queryFor, inOslo, Predicate.compare, Predicate.conditionsOfAll, Predicate.conditions,
      Value.Every, Value.parts, Value.NumericFloat]
  · rw [Condition.HeldBy]
    decide

end UpsertPlan

end TwinStore
