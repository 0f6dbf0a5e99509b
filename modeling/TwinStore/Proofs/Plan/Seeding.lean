/-
**What a filter fixes.** A store that inserts for an upsert reads equalities off the filter
document, at the top and inside `$and`. A plan reads them off the predicate.

* `Selector.equalities`: the fields that a filter tests for equality, with their operands, as a
  store finds them.
* `Predicate.fixed`: the conditions they come from. An alternative of one member is compiled as that
  member, so its equalities are among them.
* `Predicate.fixes_closed`: that the two lists correspond is carried on by every shape of a filter,
  so that they do for each predicate.
* `Predicate.Branching`: no alternative has just one member. Then plans and stores read the same,
  by `seeding_agrees`.
-/

import TwinStore.Plan.Write
import TwinStore.Proofs.Bson.Selector
import TwinStore.Proofs.Query.IdNames

namespace TwinStore

/-! ### Equalities of a filter -/

/-- The operand of a test for equality; a null alone is one. -/
def FieldTest.equality? (test : FieldTest) : Option Bson :=
  match test.criteria with
  | .null => some .null
  | .document [(operator, operand)] => if operator = "$eq" then some operand else none
  | _ => none

namespace Selector

mutual

/-- The tests for equality that a matching document passes for sure, in their order. -/
def equalities : Selector → List (String × Bson)
  | .test asked => (asked.equality?.map fun operand => (asked.name, operand)).toList
  | .group .every members => equalitiesOfAll members
  | .group .any _ => []
  | .group .neither _ => []

/-- The equalities of all members of a group. -/
def equalitiesOfAll : List Selector → List (String × Bson)
  | [] => []
  | member :: rest => member.equalities ++ equalitiesOfAll rest

end

end Selector

/-! ### Equalities of a predicate -/

namespace Predicate

mutual

/-- The equalities that the filter document fixes. A lone alternative counts as its member. -/
def fixed : Predicate → List Condition
  | .condition test => if test.comparison = .equal then [test] else []
  | .group .all members => fixedOfAll members
  | .group .any [member] => member.fixed
  | .group .any _ => []
  | .negation _ => []

/-- The equalities of all members of a group. -/
def fixedOfAll : List Predicate → List Condition
  | [] => []
  | member :: rest => member.fixed ++ fixedOfAll rest

end

mutual

/-- No alternative that has to hold for sure has just one member. -/
def Branching : Predicate → Prop
  | .condition _ => True
  | .group .all members => AllBranching members
  | .group .any members => members.length ≠ 1
  | .negation _ => True

/-- So it is for every member. -/
def AllBranching : List Predicate → Prop
  | [] => True
  | member :: rest => member.Branching ∧ AllBranching rest

end

mutual

/-- Only conditions for equality fix a field. -/
theorem comparison_of_fixed : ∀ {predicate : Predicate}, ∀ test ∈ predicate.fixed,
    test.comparison = .equal
  | .condition asked, test, member => by
    rw [fixed] at member
    split at member
    · next equal => exact List.mem_singleton.mp member ▸ equal
    · cases member
  | .group .all _, test, member => comparison_of_fixedOfAll test member
  | .group .any [member], test, inside => @comparison_of_fixed member test inside
  | .group .any [], _, member => by cases member
  | .group .any (_ :: _ :: _), _, member => by cases member
  | .negation _, _, member => by cases member

theorem comparison_of_fixedOfAll : ∀ {members : List Predicate}, ∀ test ∈ fixedOfAll members,
    test.comparison = .equal
  | _ :: _, test, member => by
    rcases List.mem_append.mp member with first | later
    · exact comparison_of_fixed test first
    · exact comparison_of_fixedOfAll test later

end

mutual

/-- Without lone alternatives the equalities are those that the plan reads. -/
theorem equalities_of_branching : ∀ {predicate : Predicate}, predicate.Branching →
    predicate.equalities = predicate.fixed.flatMap equalityOf
  | .condition test, _ => by
    rw [equalities, fixed]
    split
    · exact (List.append_nil _).symm
    · next other => simp [equalityOf, other]
  | .group .all _, branching => equalitiesOfAll_of_branching branching
  | .group .any [], _ => rfl
  | .group .any [_], branching => absurd rfl branching
  | .group .any (_ :: _ :: _), _ => rfl
  | .negation _, _ => rfl

theorem equalitiesOfAll_of_branching : ∀ {members : List Predicate}, AllBranching members →
    equalitiesOfAll members = (fixedOfAll members).flatMap equalityOf
  | [], _ => rfl
  | _ :: _, branching => by
    rw [equalitiesOfAll, fixedOfAll, List.flatMap_append, equalities_of_branching branching.1,
      equalitiesOfAll_of_branching branching.2]

end

mutual

/-- Without lone alternatives the fields that the filter fixes are those that the plan knows of. -/
theorem pins_of_branching (field : String) : ∀ {predicate : Predicate}, predicate.Branching →
    predicate.pins field = predicate.fixed.any fun test => test.field == field
  | .condition test, _ => by
    rw [pins, fixed]
    split
    · next equal => simp [equal]
    · next other => simp [other]
  | .group .all _, branching => pinsAny_of_branching field branching
  | .group .any [], _ => rfl
  | .group .any [_], branching => absurd rfl branching
  | .group .any (_ :: _ :: _), _ => rfl
  | .negation _, _ => rfl

theorem pinsAny_of_branching (field : String) : ∀ {members : List Predicate},
    AllBranching members →
      pinsAny field members = (fixedOfAll members).any fun test => test.field == field
  | [], _ => rfl
  | _ :: _, branching => by
    rw [pinsAny, fixedOfAll, List.any_append, pins_of_branching field branching.1,
      pinsAny_of_branching field branching.2]

end

/-! ### Conditions and entries -/

end Predicate

/-- The entry is the condition's field, as documents name it, with its stored operand. -/
def Condition.Fixes (condition : Condition) (entry : String × Bson) : Prop :=
  entry.1 = documentField condition.field ∧ condition.operand.toBson = .ok entry.2

/-- The filter fixes the equalities of the predicate. -/
def FixedIn (selector : Selector) (predicate : Predicate) : Prop :=
  List.Forall₂ Condition.Fixes predicate.fixed selector.equalities

theorem Comparison.operator_eq_iff {comparison : Comparison} :
    comparison.operator = "$eq" ↔ comparison = .equal := by
  cases comparison <;> decide

namespace Predicate

/-- The test that a condition asks for is one for equality exactly if the condition is. -/
theorem fixes_of_asks {condition : Condition} {test : FieldTest} (asks : condition.Asks test) :
    List.Forall₂ Condition.Fixes (fixed (.condition condition))
      (Selector.test test).equalities := by
  obtain ⟨named, operand, stored, criteria⟩ := asks
  rw [fixed, Selector.equalities, FieldTest.equality?, criteria]
  by_cases equal : condition.comparison = .equal
  · by_cases null : condition.operand.isNull = true
    · have written : operand = .null := by
        cases known : condition.operand with
        | null =>
          rw [known] at stored
          cases stored
          rfl
        | _ =>
          rw [known] at null
          cases null
      subst written
      rw [if_pos equal, if_pos ⟨equal, null⟩]
      exact .cons ⟨named, stored⟩ .nil
    · rw [if_pos equal, if_neg fun both => null both.2]
      simp only [equal, Comparison.operator, if_true]
      exact .cons ⟨named, stored⟩ .nil
  · rw [if_neg equal, if_neg fun both => equal both.1]
    simp only [Comparison.operator_eq_iff, equal, if_false]
    exact .nil

theorem fixes_of_members {selectors : List Selector} {members : List Predicate}
    (fixes : List.Forall₂ FixedIn selectors members) :
    List.Forall₂ Condition.Fixes (fixedOfAll members) (Selector.equalitiesOfAll selectors) := by
  induction fixes with
  | nil => exact .nil
  | cons one _ step => exact List.rel_append one step

theorem fixes_of_single {selector : Selector} {predicate : Predicate}
    (fixes : List.Forall₂ Condition.Fixes predicate.fixed selector.equalities) :
    FixedIn (.group .every [selector]) predicate := by
  show List.Forall₂ _ _ (selector.equalities ++ [])
  rw [List.append_nil]
  exact fixes

/-- **The filter fixes the equalities of the predicate**, lone alternatives counted as their
members. -/
theorem fixes_closed : FilterClosed FixedIn where
  condition asks := fixes_of_single (fixes_of_asks asks)
  everything := .nil
  nothing := .nil
  single connective selector member fixes := by
    cases connective with
    | all =>
      show List.Forall₂ _ (member.fixed ++ []) _
      rw [List.append_nil]
      exact fixes
    | any => exact fixes
  group connective _ _ _ _ fixes := by
    refine fixes_of_single ?_
    cases connective with
    | all => exact fixes_of_members fixes
    | any => exact .nil
  negation _ := .nil

end Predicate

/-! ### Seeds -/

/-- The entry of a document holds the value under the same name. -/
def Stores : String × Value → String × Bson → Prop :=
  Fields.Paired fun value stored => value.toBson = .ok stored

/-- An equality with null. -/
def Bson.isNull : Bson → Bool
  | .null => true
  | _ => false

/-- The equality is one with something but null, of a plain field of the user. -/
def seeds (entry : String × Bson) : Bool :=
  !entry.2.isNull && !isReserved entry.1 && !isDotted entry.1

theorem Decimal.isNull_of_toBson {number : Decimal} {stored : Bson}
    (done : number.toBson = .ok stored) : stored.isNull = false := by
  rw [toBson] at done
  split at done
  · cases done
    rfl
  · cases done

theorem Number.isNull_of_toBson {number : Number} {stored : Bson}
    (done : number.toBson = .ok stored) : stored.isNull = false := by
  cases number with
  | signed | float =>
    cases done
    rfl
  | unsigned value =>
    rw [toBson] at done
    split at done
    · cases done
      rfl
    · exact Decimal.isNull_of_toBson done
  | decimal value => exact Decimal.isNull_of_toBson done

/-- Nothing but null is stored as null. -/
theorem Value.isNull_of_toBson {value : Value} {stored : Bson} (done : value.toBson = .ok stored) :
    stored.isNull = value.isNull := by
  cases value with
  | number number => exact Number.isNull_of_toBson done
  | array | object =>
    obtain ⟨_, -, made⟩ := Result.bind_eq_ok.mp done
    cases made
    rfl
  | _ =>
    cases done
    rfl

namespace Predicate

/-- A condition seeds a field exactly if its entry does. -/
theorem stores_of_fixes {test : Condition} {entry : String × Bson}
    (equal : test.comparison = .equal) (fixes : test.Fixes entry) :
    List.Forall₂ Stores (equalityOf test) ([entry].filter seeds) := by
  obtain ⟨named, stored⟩ := fixes
  have kept : seeds entry =
      (!test.operand.isNull && !isReserved test.field && !isDotted test.field) := by
    rw [seeds, Value.isNull_of_toBson stored, named, isReserved_documentField,
      isDotted_documentField]
  by_cases seeded : seeds entry = true
  · rw [List.filter_singleton, seeded]
    rw [kept, Bool.and_eq_true, Bool.and_eq_true, Bool.not_eq_true', Bool.not_eq_true',
      Bool.not_eq_true'] at seeded
    obtain ⟨⟨some_, plain⟩, undotted⟩ := seeded
    have written : entry.1 = test.field := by
      rw [named, documentField, if_neg (Record.isReserved_eq_false.mp plain).1]
    rw [equalityOf, if_pos (by simp [equal, some_, plain, undotted])]
    exact .cons ⟨written.symm, stored⟩ .nil
  · have skipped : equalityOf test = [] := by
      rw [equalityOf, if_neg]
      rintro ⟨-, some_, plain, undotted⟩
      rw [kept, some_, plain, undotted] at seeded
      exact seeded rfl
    rw [skipped, List.filter_singleton, Bool.eq_false_iff.mpr seeded]
    exact .nil

theorem stores_of_forall_fixes {tests : List Condition} {entries : List (String × Bson)}
    (equal : ∀ test ∈ tests, test.comparison = .equal)
    (fixes : List.Forall₂ Condition.Fixes tests entries) :
    List.Forall₂ Stores (tests.flatMap equalityOf) (entries.filter seeds) := by
  induction fixes with
  | nil => exact .nil
  | @cons test entry tests entries first _ step =>
    have here := stores_of_fixes (equal test List.mem_cons_self) first
    have rest := step fun other member => equal other (List.mem_cons_of_mem _ member)
    rw [List.flatMap_cons, ← List.singleton_append, List.filter_append]
    exact List.rel_append here rest

/-- The id is among the names of the entries exactly if a condition names it. -/
theorem pinned_of_forall_fixes {tests : List Condition} {entries : List (String × Bson)}
    (fixes : List.Forall₂ Condition.Fixes tests entries) :
    documentIdName ∈ entries.map Prod.fst ↔
      ∃ test ∈ tests, test.field = idName ∨ test.field = documentIdName := by
  induction fixes with
  | nil => simp
  | cons first _ step =>
    rw [List.map_cons, List.mem_cons, step, first.1, eq_comm, documentField_eq_id]
    simp

end Predicate

/-- An upsert is refused exactly if its predicate pins the id. -/
theorem UpsertPlan.of_eq_error_iff {query : FindQuery} {predicate : Predicate}
    (together : query.predicate? = some predicate) (update : UpdateSet)
    (setOnInsert : Fields Value) (id : String) (now : Instant) :
    (∃ cause, UpsertPlan.of query update setOnInsert id now = .error cause) ↔
      predicate.pins idName = true ∨ predicate.pins documentIdName = true := by
  have pinned : pinnedId? query.predicate? = [idName, documentIdName].find? predicate.pins := by
    rw [together]
    rfl
  have found : (pinnedId? query.predicate?).isSome = true ↔
      predicate.pins idName = true ∨ predicate.pins documentIdName = true := by
    rw [pinned, List.find?_isSome]
    simp
  rw [← found, UpsertPlan.of]
  cases pinnedId? query.predicate? <;> simp

namespace Predicate

/-- **Plans and stores read the same off a filter**, if no alternative has just one member. The
seeds that a store finds in the filter document are the stored equality fields, and it finds the id
exactly if the predicate pins it, which is when no upsert is planned. -/
theorem seeding_agrees {predicate : Predicate} {document : Document}
    (branching : predicate.Branching) (named : predicate.Named)
    (written : predicate.toFilter = .ok document) :
    ∃ selector, Selector.ofDocument? document = some selector ∧
      List.Forall₂ Stores predicate.equalityFields
        (Fields.ofEntries (selector.equalities.filter seeds)) ∧
      (documentIdName ∈ selector.equalities.map Prod.fst ↔
        predicate.pins idName = true ∨ predicate.pins documentIdName = true) ∧
      ∀ (query : FindQuery) (update : UpdateSet) (setOnInsert : Fields Value) (id : String)
        (now : Instant), query.predicate? = some predicate →
          ((∃ cause, UpsertPlan.of query update setOnInsert id now = .error cause) ↔
            documentIdName ∈ selector.equalities.map Prod.fst) := by
  obtain ⟨selector, read, fixes⟩ := reads_of_toFilter fixes_closed written named
  have pinned : documentIdName ∈ selector.equalities.map Prod.fst ↔
      predicate.pins idName = true ∨ predicate.pins documentIdName = true := by
    rw [pinned_of_forall_fixes fixes, pins_of_branching idName branching,
      pins_of_branching documentIdName branching, List.any_eq_true, List.any_eq_true]
    simp only [beq_iff_eq]
    constructor
    · rintro ⟨test, member, first | second⟩
      · exact .inl ⟨test, member, first⟩
      · exact .inr ⟨test, member, second⟩
    · rintro (⟨test, member, first⟩ | ⟨test, member, second⟩)
      · exact ⟨test, member, .inl first⟩
      · exact ⟨test, member, .inr second⟩
  refine ⟨selector, read, ?_, pinned, ?_⟩
  · rw [equalityFields, equalities_of_branching branching]
    exact Fields.forall₂_overlay (stores_of_forall_fixes comparison_of_fixed fixes) .nil
  · intro query update setOnInsert id now together
    rw [pinned, UpsertPlan.of_eq_error_iff together]

/-- Groups in groups, two equalities on one field, one with null, one on a path, an alternative of
two members, and an id behind a negation. -/
def nestedFilter : Predicate :=
  .group .all
    [.group .all [.compare "name" .equal (.text "John")],
      .group .any [.compare "id" .equal (.text "a"), .compare "age" .less (.number (.signed 3))],
      .negation (.compare "id" .equal (.text "b")),
      .group .all
        [.compare "nickname" .equal .null, .compare "name" .equal (.number (.unsigned 7)),
          .compare "address.city" .equal (.text "Oslo")]]

theorem seeding_agrees_nestedFilter :
    ∃ document selector, nestedFilter.toFilter = .ok document ∧
      Selector.ofDocument? document = some selector ∧
      List.Forall₂ Stores [("name", .number (.unsigned 7))]
        (Fields.ofEntries (selector.equalities.filter seeds)) ∧
      documentIdName ∉ selector.equalities.map Prod.fst := by
  obtain ⟨document, written⟩ : ∃ document, nestedFilter.toFilter = .ok document := ⟨_, rfl⟩
  have branching : nestedFilter.Branching := by
    simp [nestedFilter, compare, Branching, AllBranching]
  obtain ⟨selector, read, seeded, pinned, -⟩ := seeding_agrees branching (by decide) written
  have free : ¬(nestedFilter.pins idName = true ∨ nestedFilter.pins documentIdName = true) := by
    decide
  exact ⟨document, selector, written, read, seeded, fun found => free (pinned.mp found)⟩

/-- An id as the only alternative. -/
def loneFilter : Predicate := .group .any [.compare "id" .equal (.text "abc")]

/-- A lone alternative is compiled as its member, so a store finds the id in the filter, but the
predicate does not pin it and the upsert is planned. -/
theorem not_seeding_agrees_loneFilter :
    ∃ document selector, loneFilter.toFilter = .ok document ∧ loneFilter.Named ∧
      Selector.ofDocument? document = some selector ∧
      documentIdName ∈ selector.equalities.map Prod.fst ∧
      ¬(loneFilter.pins idName = true ∨ loneFilter.pins documentIdName = true) ∧
      ∃ plan, UpsertPlan.of { FindQuery.empty with filters := [loneFilter] } [] [] "id1"
        .fine = .ok plan :=
  ⟨_, _, rfl, by decide, rfl, by decide, by decide, _, rfl⟩

end Predicate

end TwinStore
