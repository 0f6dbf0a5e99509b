/-
**Filter documents mean what predicates mean.** How a document store reads a filter document, and
what it finds in the filter of a predicate.

* `Selector.ofDocument?` reads a filter: `$and`, `$or` and `$nor` join filters, any other name tests
  one field, and every entry of a document has to match.
* `Selector.accepts` is what a filter comes to when it is known which tests of single fields
  succeed; `Selector.tests` are these tests in their order.
* `Predicate.leaves` are the conditions of a predicate in their order. An alternative without
  members is a leaf too: it asks for a document without an id, and there is none.
* `FilterClosed`: a relation of selectors and predicates that every shape of a filter carries on.
  `Predicate.reads_of_toFilter`, by induction on the predicate: the filter of a predicate is read as
  a selector that stands in any such relation to it.
* `Predicate.means_closed`: to ask what the leaves ask, and to accept where the predicate is
  satisfied, is one. `Predicate.filter_means_predicate` is the main result.
-/

import Mathlib.Data.List.Forall2
import Mathlib.Data.List.ReduceOption
import TwinStore.Bson.Filter
import TwinStore.Proofs.Predicate
import TwinStore.Proofs.Result

namespace TwinStore

/-! ### How a document store reads a filter -/

/-- A test of one field. -/
structure FieldTest where
  name : String
  /-- What the field is tested for: operators with their operands, or a value to equal. -/
  criteria : Bson

/-- How many members of a group have to match. -/
inductive Quantifier where
  | every
  | any
  | neither
  deriving DecidableEq

/-- A filter as a document store understands it. -/
inductive Selector where
  | test (test : FieldTest)
  | group (quantifier : Quantifier) (members : List Selector)

namespace Selector

/-- A name that is kept for operators. -/
def isOperator (name : String) : Bool := name.toList.head? == some '$'

/-- The operators that join filters. -/
def quantifier? (name : String) : Option Quantifier :=
  if name = "$and" then some .every
  else if name = "$or" then some .any
  else if name = "$nor" then some .neither
  else none

mutual

/-- Reads the entries of a filter. -/
def ofEntries? : List (String × Bson) → Option (List Selector)
  | [] => some []
  | (name, criteria) :: rest => do
    return (← ofItem? name criteria) :: (← ofEntries? rest)

/-- Reads an entry: an operator with one or more filters that it joins, or the test of a field. -/
def ofItem? (name : String) : Bson → Option Selector
  | .array members =>
    if isOperator name then do
      let quantifier ← quantifier? name
      let joined ← ofMembers? members
      if joined.isEmpty then none else some (.group quantifier joined)
    else some (.test ⟨name, .array members⟩)
  | criteria => if isOperator name then none else some (.test ⟨name, criteria⟩)

/-- Reads the filters that an operator joins. -/
def ofMembers? : List Bson → Option (List Selector)
  | [] => some []
  | .document entries :: rest => do
    return .group .every (← ofEntries? entries) :: (← ofMembers? rest)
  | _ :: _ => none

end

/-- Reads a filter, every entry of which has to match. -/
def ofDocument? (document : Document) : Option Selector :=
  (ofEntries? document).map (.group .every)

mutual

/-- The filter accepts a document, given the tests that succeed on it. -/
def accepts (succeeds : FieldTest → Bool) : Selector → Bool
  | .test asked => succeeds asked
  | .group .every members => acceptsAll succeeds members
  | .group .any members => acceptsAny succeeds members
  | .group .neither members => !acceptsAny succeeds members

/-- Every member accepts. -/
def acceptsAll (succeeds : FieldTest → Bool) : List Selector → Bool
  | [] => true
  | member :: rest => member.accepts succeeds && acceptsAll succeeds rest

/-- Some member accepts. -/
def acceptsAny (succeeds : FieldTest → Bool) : List Selector → Bool
  | [] => false
  | member :: rest => member.accepts succeeds || acceptsAny succeeds rest

end

mutual

/-- The tests of single fields, from left to right. -/
def tests : Selector → List FieldTest
  | .test asked => [asked]
  | .group _ members => testsOfAll members

/-- The tests of all members of a group. -/
def testsOfAll : List Selector → List FieldTest
  | [] => []
  | member :: rest => member.tests ++ testsOfAll rest

end

theorem ofItem?_field {name : String} (plain : isOperator name = false) (criteria : Bson) :
    ofItem? name criteria = some (.test ⟨name, criteria⟩) := by
  cases criteria <;> simp [ofItem?, plain]

end Selector

/-! ### What a predicate asks -/

namespace Predicate

mutual

/-- The conditions from left to right, and `none` for an alternative without members. -/
def leaves : Predicate → List (Option Condition)
  | .condition test => [some test]
  | .group .any [] => [none]
  | .group _ members => leavesOfAll members
  | .negation inner => inner.leaves

/-- The leaves of all members of a group. -/
def leavesOfAll : List Predicate → List (Option Condition)
  | [] => []
  | member :: rest => member.leaves ++ leavesOfAll rest

end

mutual

/-- The predicate holds, given the conditions that do. -/
def satisfied (holds : Condition → Bool) : Predicate → Bool
  | .condition test => holds test
  | .group .all members => satisfiedAll holds members
  | .group .any members => satisfiedAny holds members
  | .negation inner => !inner.satisfied holds

/-- Every member holds. -/
def satisfiedAll (holds : Condition → Bool) : List Predicate → Bool
  | [] => true
  | member :: rest => member.satisfied holds && satisfiedAll holds rest

/-- Some member holds. -/
def satisfiedAny (holds : Condition → Bool) : List Predicate → Bool
  | [] => false
  | member :: rest => member.satisfied holds || satisfiedAny holds rest

end

end Predicate

/-- The test that no document with an id passes. -/
def FieldTest.withoutId : FieldTest :=
  ⟨documentIdName, .document [("$exists", .boolean false)]⟩

/-- The condition asks for the test: under the field's name in documents, its operator with the
stored operand. Equality with null is a bare null. -/
def Condition.Asks (condition : Condition) (test : FieldTest) : Prop :=
  test.name = documentField condition.field ∧
    ∃ operand, condition.operand.toBson = .ok operand ∧
      test.criteria =
        if condition.comparison = .equal ∧ condition.operand.isNull then .null
        else .document [(condition.comparison.operator, operand)]

/-- What a leaf of a predicate asks for. -/
def LeafAsks : Option Condition → FieldTest → Prop
  | some condition, test => condition.Asks test
  | none, test => test = .withoutId

/-- The tests succeed where the conditions hold that ask for them, and no document is without id. -/
def Corresponds (succeeds : FieldTest → Bool) (holds : Condition → Bool)
    (leaves : List (Option Condition)) : Prop :=
  ∀ leaf ∈ leaves, ∀ test, LeafAsks leaf test → succeeds test = leaf.any holds

/-! ### Conditions -/

theorem Value.compile_eq_ok {value : Value} {stored : Bson} :
    value.compile = .ok stored ↔ value.toBson = .ok stored :=
  Result.mapError_eq_ok

/-- The criteria of a condition are its operator with its operand. -/
theorem Condition.asks_of_criteria {condition : Condition} {criteria : Bson}
    (written : condition.criteria = .ok criteria) :
    condition.Asks ⟨documentField condition.field, criteria⟩ := by
  refine ⟨rfl, ?_⟩
  have compiled : ∀ {comparison : Comparison} {value : Value},
      (do return operatorDocument comparison (← value.compile)) = Except.ok criteria →
        ∃ operand, value.toBson = .ok operand ∧
          criteria = .document [(comparison.operator, operand)] := by
    intro comparison value sequence
    obtain ⟨operand, stored, made⟩ := Result.bind_eq_ok.mp sequence
    cases made
    exact ⟨operand, Value.compile_eq_ok.mp stored, rfl⟩
  obtain ⟨field, comparison, operand⟩ := condition
  cases comparison with
  | equal =>
    cases null : operand.isNull with
    | true =>
      cases operand with
      | null =>
        cases written
        exact ⟨.null, rfl, rfl⟩
      | _ => cases null
    | false =>
      simp only [Condition.criteria, null, Bool.false_eq_true, if_false] at written
      simpa using compiled written
  | oneOf =>
    cases items : operand.items? with
    | none => simp [Condition.criteria, items] at written
    | some values =>
      simp only [Condition.criteria, items] at written
      simpa using compiled written
  | present =>
    cases operand with
    | boolean there =>
      cases written
      exact ⟨.boolean there, rfl, by simp [operatorDocument, Document.single]⟩
    | _ => cases written
  | different | greater | atLeast | less | atMost => simpa using compiled written

theorem Condition.asks_of_toFilter {condition : Condition} {document : Document}
    (written : condition.toFilter = .ok document) :
    ∃ test, condition.Asks test ∧ document = [(test.name, test.criteria)] := by
  obtain ⟨criteria, made, single⟩ := Result.bind_eq_ok.mp written
  cases single
  exact ⟨_, asks_of_criteria made, rfl⟩

/-- Only a field whose name begins like an operator is taken for one. -/
theorem isOperator_documentField {field : String} (named : field.toList.head? ≠ some '$') :
    Selector.isOperator (documentField field) = false := by
  rw [documentField]
  split
  · rfl
  · rw [Selector.isOperator, beq_eq_false_iff_ne]
    exact named

/-! ### Groups -/

/-- How many members of a group of predicates have to hold. -/
def Connective.quantifier : Connective → Quantifier
  | .all => .every
  | .any => .any

/-- A relation of selectors and predicates is carried on by every shape of a filter: it holds of the
filter of a predicate, read as a selector, if it holds of those of the members. -/
structure FilterClosed (related : Selector → Predicate → Prop) : Prop where
  condition : ∀ {asked : Condition} {test : FieldTest}, asked.Asks test →
    related (.group .every [.test test]) (.condition asked)
  everything : related (.group .every []) (.group .all [])
  nothing : related (.group .every [.test .withoutId]) (.group .any [])
  single : ∀ (connective : Connective) {selector : Selector} {member : Predicate},
    related selector member → related selector (.group connective [member])
  group : ∀ (connective : Connective) {selectors : List Selector} {first second : Predicate}
    {rest : List Predicate}, List.Forall₂ related selectors (first :: second :: rest) →
      related (.group .every [.group connective.quantifier selectors])
        (.group connective (first :: second :: rest))
  negation : ∀ {selector : Selector} {inner : Predicate}, related selector inner →
    related (.group .every [.group .neither [selector]]) (.negation inner)

/-- The selector asks what the leaves of the predicate ask, and accepts where the predicate is
satisfied. -/
structure Selector.Means (selector : Selector) (predicate : Predicate) : Prop where
  asks : List.Forall₂ LeafAsks predicate.leaves selector.tests
  accepts : ∀ succeeds holds, Corresponds succeeds holds predicate.leaves →
    selector.accepts succeeds = predicate.satisfied holds

namespace Predicate

theorem leaves_group (connective : Connective) (member : Predicate) (members : List Predicate) :
    leaves (.group connective (member :: members)) = leavesOfAll (member :: members) := by
  cases connective <;> rfl

/-- The leaves hold no condition but those of the predicate. -/
theorem reduceOption_leaves : ∀ predicate : Predicate,
    predicate.leaves.reduceOption = predicate.conditions
  | .condition _ => rfl
  | .group .all [] | .group .any [] => rfl
  | .group connective (member :: members) => by
    rw [leaves_group, conditions]
    exact reduceOption_leavesOfAll (member :: members)
  | .negation inner => by
    rw [leaves, conditions]
    exact reduceOption_leaves inner
where
  reduceOption_leavesOfAll : ∀ members : List Predicate,
      (leavesOfAll members).reduceOption = conditionsOfAll members
    | [] => rfl
    | member :: rest => by
      rw [leavesOfAll, conditionsOfAll, List.reduceOption_append, reduceOption_leaves member,
        reduceOption_leavesOfAll rest]

theorem mem_conditions_of_leaf {predicate : Predicate} {condition : Condition}
    (leaf : some condition ∈ predicate.leaves) : condition ∈ predicate.conditions := by
  rw [← reduceOption_leaves]
  exact List.reduceOption_mem_iff.mpr leaf

variable {selectors : List Selector} {members : List Predicate}

theorem asks_of_members (means : List.Forall₂ Selector.Means selectors members) :
    List.Forall₂ LeafAsks (leavesOfAll members) (Selector.testsOfAll selectors) := by
  induction means with
  | nil => exact .nil
  | cons first _ step => exact List.rel_append first.asks step

/-- Groups of selectors accept as the groups of predicates are satisfied. -/
theorem accepts_of_members (means : List.Forall₂ Selector.Means selectors members)
    {succeeds : FieldTest → Bool} {holds : Condition → Bool}
    (corresponds : Corresponds succeeds holds (leavesOfAll members)) :
    Selector.acceptsAll succeeds selectors = satisfiedAll holds members ∧
      Selector.acceptsAny succeeds selectors = satisfiedAny holds members := by
  induction means with
  | nil => exact ⟨rfl, rfl⟩
  | cons first _ step =>
    obtain ⟨here, later⟩ := List.forall_mem_append.mp corresponds
    obtain ⟨all, any⟩ := step later
    have same := first.accepts succeeds holds here
    exact ⟨by rw [Selector.acceptsAll, satisfiedAll, same, all],
      by rw [Selector.acceptsAny, satisfiedAny, same, any]⟩

/-- **A group of selectors means the group of predicates.** -/
theorem means_group (connective : Connective) {selector : Selector} {member : Predicate}
    (means : List.Forall₂ Selector.Means (selector :: selectors) (member :: members)) :
    Selector.Means (.group .every [.group connective.quantifier (selector :: selectors)])
      (.group connective (member :: members)) := by
  constructor
  · rw [leaves_group]
    show List.Forall₂ LeafAsks _ (Selector.testsOfAll (selector :: selectors) ++ [])
    rw [List.append_nil]
    exact asks_of_members means
  · intro succeeds holds corresponds
    rw [leaves_group] at corresponds
    obtain ⟨all, any⟩ := accepts_of_members means corresponds
    cases connective with
    | all =>
      show (Selector.acceptsAll succeeds (selector :: selectors) && true) = _
      rw [Bool.and_true, all, satisfied]
    | any =>
      show (Selector.acceptsAny succeeds (selector :: selectors) && true) = _
      rw [Bool.and_true, any, satisfied]

theorem means_single (connective : Connective) {selector : Selector} {member : Predicate}
    (means : selector.Means member) : selector.Means (.group connective [member]) := by
  constructor
  · rw [leaves_group, leavesOfAll, leavesOfAll, List.append_nil]
    exact means.asks
  · intro succeeds holds corresponds
    rw [leaves_group, leavesOfAll, leavesOfAll, List.append_nil] at corresponds
    rw [means.accepts succeeds holds corresponds]
    cases connective <;> simp [satisfied, satisfiedAll, satisfiedAny]

theorem means_negation {selector : Selector} {inner : Predicate} (means : selector.Means inner) :
    Selector.Means (.group .every [.group .neither [selector]]) (.negation inner) := by
  constructor
  · show List.Forall₂ LeafAsks inner.leaves (selector.tests ++ [] ++ [])
    rw [List.append_nil, List.append_nil]
    exact means.asks
  · intro succeeds holds corresponds
    have same := means.accepts succeeds holds corresponds
    simp [Selector.accepts, Selector.acceptsAll, Selector.acceptsAny, satisfied, same]

/-- A filter of one test means the leaf that asks for it, if the predicate is no more. -/
theorem means_leaf {predicate : Predicate} {leaf : Option Condition} {test : FieldTest}
    (single : predicate.leaves = [leaf]) (asks : LeafAsks leaf test)
    (same : ∀ holds, predicate.satisfied holds = leaf.any holds) :
    Selector.Means (.group .every [.test test]) predicate := by
  constructor
  · rw [single]
    exact .cons asks .nil
  · intro succeeds holds corresponds
    rw [single] at corresponds
    have succeeds_ := corresponds leaf List.mem_cons_self test asks
    simp [Selector.accepts, Selector.acceptsAll, same, succeeds_]

/-! ### Predicates -/

/-- No condition is on a field whose name is that of an operator. -/
def Named (predicate : Predicate) : Prop :=
  ∀ condition ∈ predicate.conditions, condition.field.toList.head? ≠ some '$'

instance (predicate : Predicate) : Decidable predicate.Named :=
  inferInstanceAs (Decidable (∀ condition ∈ predicate.conditions, _))

theorem reads_of_field {name : String} (plain : Selector.isOperator name = false)
    (criteria : Bson) :
    Selector.ofDocument? [(name, criteria)] = some (.group .every [.test ⟨name, criteria⟩]) := by
  simp [Selector.ofDocument?, Selector.ofEntries?, Selector.ofItem?_field plain]

/-- A group's filter is read as the group of what its members are read as. -/
theorem reads_of_group (connective : Connective) {items : List Bson} {selector : Selector}
    {selectors : List Selector}
    (read : Selector.ofMembers? items = some (selector :: selectors)) :
    Selector.ofDocument? (Document.single connective.operator (.array items)) =
      some (.group .every [.group connective.quantifier (selector :: selectors)]) := by
  cases connective <;>
    simp [Selector.ofDocument?, Selector.ofEntries?, Selector.ofItem?, Document.single, read,
      Connective.operator, Selector.isOperator, Selector.quantifier?, Connective.quantifier]

theorem reads_of_negation {document : Document} {selector : Selector}
    (read : Selector.ofDocument? document = some selector) :
    Selector.ofDocument? (Document.single "$nor" (.array [.document document])) =
      some (.group .every [.group .neither [selector]]) := by
  obtain ⟨entries, entriesRead, rfl⟩ := Option.map_eq_some_iff.mp read
  simp [Selector.ofDocument?, Selector.ofEntries?, Selector.ofItem?, Selector.ofMembers?,
    Document.single, entriesRead, Selector.isOperator, Selector.quantifier?]

/-- Filters that are joined are read one by one. -/
theorem reads_of_member {document : Document} {selector : Selector} {items : List Bson}
    {selectors : List Selector} (read : Selector.ofDocument? document = some selector)
    (others : Selector.ofMembers? items = some selectors) :
    Selector.ofMembers? (.document document :: items) = some (selector :: selectors) := by
  obtain ⟨entries, entriesRead, rfl⟩ := Option.map_eq_some_iff.mp read
  simp [Selector.ofMembers?, entriesRead, others]

theorem means_closed : FilterClosed Selector.Means where
  condition asks := means_leaf rfl asks fun _ => rfl
  everything := ⟨.nil, fun _ _ _ => rfl⟩
  nothing := means_leaf rfl rfl fun _ => rfl
  single := means_single
  group connective _ _ _ _ means := by
    cases means with
    | cons one others => exact means_group connective (.cons one others)
  negation := means_negation

section Reading

variable {related : Selector → Predicate → Prop}

mutual

/-- **The filter of a predicate is read as a selector**, related to it as the members of its groups
are to theirs. -/
theorem reads_of_toFilter (closed : FilterClosed related) :
    ∀ {predicate : Predicate} {document : Document},
      predicate.toFilter = .ok document → predicate.Named →
        ∃ selector, Selector.ofDocument? document = some selector ∧ related selector predicate
  | .condition asked, document, written, named => by
    rw [toFilter] at written
    obtain ⟨test, asks, rfl⟩ := Condition.asks_of_toFilter written
    have plain : Selector.isOperator test.name = false := by
      rw [asks.1]
      exact isOperator_documentField (named asked List.mem_cons_self)
    exact ⟨_, reads_of_field plain _, closed.condition asks⟩
  | .group .all [], document, written, _ => by
    cases written
    exact ⟨.group .every [], rfl, closed.everything⟩
  | .group .any [], document, written, _ => by
    cases written
    exact ⟨_, reads_of_field rfl _, closed.nothing⟩
  | .group connective [member], document, written, named => by
    rw [toFilter] at written
    have inner : member.Named := fun condition known =>
      named condition (List.mem_append_left _ known)
    -- The filter of a group of one is that of its member, whichever the connective.
    obtain ⟨selector, read, same⟩ := reads_of_toFilter closed written inner
    exact ⟨selector, read, closed.single connective same⟩
  | .group connective (first :: second :: rest), document, written, named => by
    rw [toFilter] at written
    · obtain ⟨items, compiled, made⟩ := Result.bind_eq_ok.mp written
      cases made
      obtain ⟨selectors, read, same⟩ := reads_of_toFilters closed compiled named
      cases same with
      | cons one others =>
        exact ⟨_, reads_of_group connective read, closed.group connective (.cons one others)⟩
    all_goals nofun
  | .negation inner, document, written, named => by
    rw [toFilter] at written
    obtain ⟨negated, compiled, made⟩ := Result.bind_eq_ok.mp written
    cases made
    obtain ⟨selector, read, same⟩ := reads_of_toFilter closed compiled named
    exact ⟨_, reads_of_negation read, closed.negation same⟩

/-- So are the filters of a group's members. -/
theorem reads_of_toFilters (closed : FilterClosed related) :
    ∀ {members : List Predicate} {items : List Bson}, toFilters members = .ok items →
      (∀ condition ∈ conditionsOfAll members, condition.field.toList.head? ≠ some '$') →
        ∃ selectors, Selector.ofMembers? items = some selectors ∧
          List.Forall₂ related selectors members
  | [], _, written, _ => by
    cases written
    exact ⟨[], rfl, .nil⟩
  | member :: rest, items, written, named => by
    rw [toFilters] at written
    obtain ⟨document, compiled, more⟩ := Result.bind_eq_ok.mp written
    obtain ⟨others, compiledRest, made⟩ := Result.bind_eq_ok.mp more
    cases made
    obtain ⟨here, later⟩ := List.forall_mem_append.mp named
    obtain ⟨selector, read, one⟩ := reads_of_toFilter closed compiled here
    obtain ⟨selectors, readRest, more⟩ := reads_of_toFilters closed compiledRest later
    exact ⟨_, reads_of_member read readRest, .cons one more⟩

end

end Reading

/-- **The filter of a predicate asks for its conditions one by one, and accepts exactly the
documents with an id of which the predicate holds**, whichever tests of single fields succeed.
Besides the conditions it asks for nothing but the lack of an id, once for each alternative without
members. -/
theorem filter_means_predicate {predicate : Predicate} {document : Document}
    (named : predicate.Named) (written : predicate.toFilter = .ok document) :
    ∃ selector, Selector.ofDocument? document = some selector ∧
      List.Forall₂ LeafAsks predicate.leaves selector.tests ∧
      predicate.leaves.reduceOption = predicate.conditions ∧
      ∀ (record : Document) (succeeds : FieldTest → Bool) (holds : Condition → Bool),
        (record.get? documentIdName).isSome = true →
        succeeds .withoutId = (record.get? documentIdName).isNone →
        (∀ condition ∈ predicate.conditions, ∀ test, condition.Asks test →
          succeeds test = holds condition) →
        selector.accepts succeeds = predicate.satisfied holds := by
  obtain ⟨selector, read, means⟩ := reads_of_toFilter means_closed written named
  refine ⟨selector, read, means.asks, reduceOption_leaves predicate, ?_⟩
  intro record succeeds holds identified presence agree
  refine means.accepts succeeds holds ?_
  intro leaf member test asks
  cases leaf with
  | none =>
    cases asks
    rw [presence, Option.isNone_eq_false_iff.mpr identified]
    rfl
  | some condition => exact agree condition (mem_conditions_of_leaf member) test asks

/-- Neither younger than 18, nor without an id, nor one of no alternatives. -/
def sampleFilter : Predicate :=
  .negation (.group .any
    [.compare "age" .less (.number (.signed 18)), .compare "id" .equal .null, .group .any []])

theorem filter_means_predicate_sampleFilter :
    ∃ document selector, sampleFilter.Named ∧ sampleFilter.toFilter = .ok document ∧
      Selector.ofDocument? document = some selector ∧
      List.Forall₂ LeafAsks sampleFilter.leaves selector.tests ∧
      selector.accepts (fun _ => false) = true := by
  obtain ⟨document, written⟩ : ∃ document, sampleFilter.toFilter = .ok document := ⟨_, rfl⟩
  have named : sampleFilter.Named := by decide
  obtain ⟨selector, read, asks, -, accepts⟩ := filter_means_predicate named written
  have accepted := accepts [(documentIdName, .text "a")] (fun _ => false) (fun _ => false) rfl rfl
    fun _ _ _ _ => rfl
  exact ⟨document, selector, named, written, read, asks, accepted⟩

/-- A filter may ask for more than the conditions of its predicate: an alternative without members
has none, but its filter tests the id. -/
theorem empty_alternative_asks_for_id :
    ∃ document selector, (Predicate.group .any []).toFilter = .ok document ∧
      (Predicate.group .any []).Named ∧ Selector.ofDocument? document = some selector ∧
      selector.tests = [.withoutId] ∧
      ¬ List.Forall₂ Condition.Asks (Predicate.group .any []).conditions selector.tests := by
  refine ⟨_, _, rfl, by decide, rfl, rfl, ?_⟩
  intro asked
  cases asked

end Predicate

end TwinStore
