/-
**Filters together.** However filters are put together that all have to hold, the query is the same.

* `satisfied_conjoin`, `certain_conjoin` and the lemmas beside them: what the operators on
  predicates mean and fix, whatever groups their operands are.
* `Conjunction` is the way in which a caller puts filters together: one filter, two parts that are
  conjoined, or a group by hand. `Conjunction.filters` are the single filters, from left to right.
* By induction on the conjunction, `satisfied_predicate` and `certain_predicate`: its predicate
  means and fixes what the single filters do together.
* `FindQuery.accepts`, `equalityFields` and `Pins` depend on the filters one by one, so a query does
  not see how they were put together.
-/

import TwinStore.Proofs.Bson.Selector
import TwinStore.Proofs.Plan.Precedence

namespace TwinStore

namespace Predicate

/-! ### Groups and their members -/

variable (holds : Condition → Bool)

theorem satisfiedAll_eq (members : List Predicate) :
    satisfiedAll holds members = members.all fun member => member.satisfied holds := by
  induction members with
  | nil => rfl
  | cons member rest step => rw [satisfiedAll, List.all_cons, step]

theorem satisfiedAny_eq (members : List Predicate) :
    satisfiedAny holds members = members.any fun member => member.satisfied holds := by
  induction members with
  | nil => rfl
  | cons member rest step => rw [satisfiedAny, List.any_cons, step]

theorem certainOfAll_eq (members : List Predicate) :
    certainOfAll members = members.flatMap certain := by
  induction members with
  | nil => rfl
  | cons member rest step => rw [certainOfAll, List.flatMap_cons, step]

/-! ### Operators -/

/-- **A conjunction holds exactly if both sides do**, also if it extends the left one. -/
@[simp] theorem satisfied_conjoin (left right : Predicate) :
    (left.conjoin right).satisfied holds = (left.satisfied holds && right.satisfied holds) := by
  unfold conjoin
  split
  · simp [satisfied, satisfiedAll_eq]
  · simp [satisfied, satisfiedAll]

/-- **A disjunction holds exactly if one of its sides does**, also if it extends the left one. -/
@[simp] theorem satisfied_disjoin (left right : Predicate) :
    (left.disjoin right).satisfied holds = (left.satisfied holds || right.satisfied holds) := by
  unfold disjoin
  split
  · simp [satisfied, satisfiedAny_eq]
  · simp [satisfied, satisfiedAny]

/-- Filters together hold exactly if each of them does; no filter refuses nothing. -/
theorem satisfied_all? (filters : List Predicate) :
    (all? filters).all (fun predicate => predicate.satisfied holds) =
      filters.all fun filter => filter.satisfied holds := by
  match filters with
  | [] => rfl
  | [filter] => simp [all?]
  | first :: second :: rest => simp [all?, satisfied, satisfiedAll_eq]

/-- **Every match of a conjunction satisfies what every match of its sides does.** -/
theorem certain_conjoin (left right : Predicate) :
    (left.conjoin right).certain = left.certain ++ right.certain := by
  unfold conjoin
  split
  · simp [certain, certainOfAll_eq]
  · simp [certain, certainOfAll]

theorem certain_disjoin (left right : Predicate) : (left.disjoin right).certain = [] := by
  unfold disjoin
  split <;> rfl

/-- The values that a conjunction fixes are those of its left side, replaced by those of its right
one. -/
theorem equalityFields_conjoin (left right : Predicate) :
    (left.conjoin right).equalityFields =
      left.equalityFields.overlay right.equalityFields := by
  simp only [equalityFields, equalities_eq, certain_conjoin, List.flatMap_append,
    Fields.ofEntries_append]

theorem pins_conjoin (left right : Predicate) (field : String) :
    (left.conjoin right).pins field = (left.pins field || right.pins field) := by
  simp only [pins_eq, certain_conjoin, List.any_append]

/-- A predicate without certain conditions fixes no field. -/
theorem fixes_nothing {predicate : Predicate} (nothing : predicate.certain = []) :
    predicate.equalityFields = [] ∧ ∀ field, predicate.pins field = false := by
  constructor
  · rw [equalityFields, equalities_eq, nothing]
    rfl
  · intro field
    rw [pins_eq, nothing]
    rfl

end Predicate

/-! ### Queries -/

namespace FindQuery

/-- The query matches, given the conditions that hold. -/
def accepts (holds : Condition → Bool) (query : FindQuery) : Bool :=
  query.predicate?.all fun predicate => predicate.satisfied holds

theorem accepts_eq (holds : Condition → Bool) (query : FindQuery) :
    query.accepts holds = query.filters.all fun filter => filter.satisfied holds :=
  Predicate.satisfied_all? holds query.filters

theorem equalityFields_eq (query : FindQuery) :
    query.equalityFields =
      Fields.ofEntries
        ((query.filters.flatMap Predicate.certain).flatMap Predicate.equalityOf) := by
  rw [equalityFields, predicate?, Predicate.equalities_all?, Predicate.equalitiesOfAll_eq,
    Predicate.certainOfAll_eq]

/-- The name of the id that a query fixes, read off the certain conditions. -/
theorem pinnedId?_eq (query : FindQuery) :
    UpsertPlan.pinnedId? query.predicate? = [idName, documentIdName].find? fun name =>
      (query.filters.flatMap Predicate.certain).any fun test =>
        test.comparison == .equal && test.field == name := by
  have fixed (name : String) := Predicate.pinsAny_eq name query.filters
  simp only [Predicate.certainOfAll_eq] at fixed
  simp only [← fixed]
  rw [predicate?]
  cases together : Predicate.all? query.filters with
  | some predicate => simp [UpsertPlan.pinnedId?, Predicate.pinsAny_of_all? together]
  | none =>
    have nothing : query.filters = [] := by
      unfold Predicate.all? at together
      split at together <;> first | assumption | cases together
    simp [nothing, UpsertPlan.pinnedId?, Predicate.pinsAny]

/-- Filters that come one after the other are appended. -/
theorem foldl_filtered (query : FindQuery) (filters : List Predicate) :
    filters.foldl filtered query = { query with filters := query.filters ++ filters } := by
  induction filters generalizing query with
  | nil => simp
  | cons filter rest step => simp [step, filtered]

/-- The queries match the same records, start an upsert from the same fields, fix the same names and
make the same plans. -/
structure Indistinct (left right : FindQuery) : Prop where
  accepts : ∀ holds, left.accepts holds = right.accepts holds
  equalityFields : left.equalityFields = right.equalityFields
  pins : ∀ field, left.Pins field ↔ right.Pins field
  plan : ∀ update setOnInsert id now, UpsertPlan.of left update setOnInsert id now =
    UpsertPlan.of right update setOnInsert id now

/-- **A query depends on the meaning and on the certain conditions of its filters.** -/
theorem indistinct_of_filters {left right : FindQuery}
    (accepts : ∀ holds : Condition → Bool, left.accepts holds = right.accepts holds)
    (certain : left.filters.flatMap Predicate.certain = right.filters.flatMap Predicate.certain) :
    Indistinct left right := by
  have equalities : left.equalityFields = right.equalityFields := by
    rw [equalityFields_eq, equalityFields_eq, certain]
  refine ⟨accepts, equalities, fun field => ?_, fun update setOnInsert id now => ?_⟩
  · rw [pins_iff, pins_iff, Predicate.certainOfAll_eq, Predicate.certainOfAll_eq, certain]
  · have pinned : UpsertPlan.pinnedId? left.predicate? = UpsertPlan.pinnedId? right.predicate? := by
      rw [pinnedId?_eq, pinnedId?_eq, certain]
    have seeds (stamped : UpdateSet) : UpsertPlan.seed left.predicate? stamped setOnInsert =
        UpsertPlan.seed right.predicate? stamped setOnInsert :=
      congrArg (fun fields : Fields Value =>
        stamped.applyTo (fields.overlay (UpsertPlan.untouched stamped setOnInsert))) equalities
    unfold UpsertPlan.of
    rw [pinned]
    split
    · rfl
    · simp only [seeds]

end FindQuery

/-! ### Ways to put filters together -/

/-- Filters that all have to hold, as a caller puts them together. -/
inductive Conjunction where
  | filter (predicate : Predicate)
  /-- Two conjunctions, conjoined. -/
  | both (left right : Conjunction)
  /-- A group, made by hand. -/
  | group (members : List Conjunction)

namespace Conjunction

mutual

/-- The predicate that comes of it. -/
def predicate : Conjunction → Predicate
  | .filter predicate => predicate
  | .both left right => left.predicate.conjoin right.predicate
  | .group members => .group .all (predicates members)

/-- The predicates of all members of a group. -/
def predicates : List Conjunction → List Predicate
  | [] => []
  | member :: rest => member.predicate :: predicates rest

end

mutual

/-- The single filters, from left to right. -/
def filters : Conjunction → List Predicate
  | .filter predicate => [predicate]
  | .both left right => left.filters ++ right.filters
  | .group members => filtersOfAll members

/-- The single filters of all members of a group. -/
def filtersOfAll : List Conjunction → List Predicate
  | [] => []
  | member :: rest => member.filters ++ filtersOfAll rest

end

mutual

/-- **A conjunction holds exactly if each of its filters does.** -/
theorem satisfied_predicate (holds : Condition → Bool) : ∀ conjunction : Conjunction,
    conjunction.predicate.satisfied holds =
      conjunction.filters.all fun filter => filter.satisfied holds
  | .filter single => by simp [predicate, filters]
  | .both left right => by
    rw [predicate, filters, Predicate.satisfied_conjoin, List.all_append,
      satisfied_predicate holds left, satisfied_predicate holds right]
  | .group members => satisfiedAll_predicates holds members

theorem satisfiedAll_predicates (holds : Condition → Bool) : ∀ members : List Conjunction,
    Predicate.satisfiedAll holds (predicates members) =
      (filtersOfAll members).all fun filter => filter.satisfied holds
  | [] => rfl
  | member :: rest => by
    rw [predicates, Predicate.satisfiedAll, filtersOfAll, List.all_append,
      satisfied_predicate holds member, satisfiedAll_predicates holds rest]

end

mutual

/-- **The certain conditions of a conjunction are those of its filters.** -/
theorem certain_predicate : ∀ conjunction : Conjunction,
    conjunction.predicate.certain = conjunction.filters.flatMap Predicate.certain
  | .filter single => by simp [predicate, filters]
  | .both left right => by
    rw [predicate, filters, Predicate.certain_conjoin, List.flatMap_append,
      certain_predicate left, certain_predicate right]
  | .group members => certainOfAll_predicates members

theorem certainOfAll_predicates : ∀ members : List Conjunction,
    Predicate.certainOfAll (predicates members) =
      (filtersOfAll members).flatMap Predicate.certain
  | [] => rfl
  | member :: rest => by
    rw [predicates, Predicate.certainOfAll, filtersOfAll, List.flatMap_append,
      certain_predicate member, certainOfAll_predicates rest]

end

end Conjunction

/-- Conjunctions as filters of a query are indistinct from their single filters. -/
theorem FindQuery.indistinct_of_conjunctions (query : FindQuery)
    (conjunctions : List Conjunction) :
    Indistinct ((conjunctions.map Conjunction.predicate).foldl filtered query)
      ((conjunctions.flatMap Conjunction.filters).foldl filtered query) := by
  rw [foldl_filtered, foldl_filtered]
  refine indistinct_of_filters (fun holds => ?_) ?_
  · simp only [accepts_eq, List.all_append, List.all_map, List.all_flatMap, Function.comp_def,
      Conjunction.satisfied_predicate]
  · simp only [List.flatMap_append, List.flatMap_map, List.flatMap_assoc,
      Conjunction.certain_predicate]

/-- **The operators on predicates are homomorphisms.** A conjunction, a disjunction, a negation and
filters together mean what they say, of whatever groups they are made. The right side of a
conjunction overrides the values that the left one fixes, and it fixes the fields of both;
disjunctions and negations fix nothing. So a query that chains single filters, one that conjoins
them in any association and one that has groups made by hand are indistinct. -/
theorem combinators_are_homomorphic :
    (∀ (left right : Predicate) (holds : Condition → Bool),
      (left.conjoin right).satisfied holds = (left.satisfied holds && right.satisfied holds) ∧
      (left.disjoin right).satisfied holds = (left.satisfied holds || right.satisfied holds) ∧
      (Predicate.negation left).satisfied holds = !left.satisfied holds) ∧
    (∀ (filters : List Predicate) (holds : Condition → Bool),
      (Predicate.all? filters).all (fun predicate => predicate.satisfied holds) =
        filters.all fun filter => filter.satisfied holds) ∧
    (∀ left right : Predicate,
      (left.conjoin right).equalityFields = left.equalityFields.overlay right.equalityFields ∧
      (left.disjoin right).equalityFields = [] ∧
      (Predicate.negation left).equalityFields = [] ∧
      ∀ field, (left.conjoin right).pins field = (left.pins field || right.pins field) ∧
        (left.disjoin right).pins field = false ∧
        (Predicate.negation left).pins field = false) ∧
    ∀ (query : FindQuery) (conjunctions : List Conjunction),
      FindQuery.Indistinct ((conjunctions.map Conjunction.predicate).foldl .filtered query)
        ((conjunctions.flatMap Conjunction.filters).foldl .filtered query) := by
  refine ⟨fun left right holds => ?_, fun filters holds => Predicate.satisfied_all? holds filters,
    fun left right => ?_, FindQuery.indistinct_of_conjunctions⟩
  · exact ⟨Predicate.satisfied_conjoin holds left right,
      Predicate.satisfied_disjoin holds left right, rfl⟩
  · obtain ⟨noFields, noPins⟩ := Predicate.fixes_nothing (Predicate.certain_disjoin left right)
    exact ⟨Predicate.equalityFields_conjoin left right, noFields, rfl, fun field =>
      ⟨Predicate.pins_conjoin left right field, noPins field, rfl⟩⟩

end TwinStore
