/-
**The record to insert, field by field.** An upsert has three sources for a field of the record to
insert: the operation on the field, its insert-only value and the equality that the filter fixes.

* `Predicate.certain`: the conditions that every match satisfies. `pins_eq` and `equalities_eq`: a
  plan finds the fixed fields and the equalities among them.
* `FindQuery.fixedValue?`: the operand of the last equality on a plain field.
* `plannedValue?`: an operation works on the fixed value and hides the insert-only value, which
  itself hides the fixed value; names that the store keeps for itself have no value.
* `plan_field_by_field`: every plan is made so, the insertion of a document store starts from the
  same insert-only fields, and the update carries the instant of the plan.
-/

import TwinStore.Proofs.Plan.Delivery
import TwinStore.Proofs.Predicate

namespace TwinStore

/-! ### Conditions of every match -/

namespace Predicate

mutual

/-- The conditions that every match satisfies, from left to right. -/
def certain : Predicate → List Condition
  | .condition test => [test]
  | .group .all members => certainOfAll members
  | .group .any _ => []
  | .negation _ => []

/-- The conditions of all members of a group. -/
def certainOfAll : List Predicate → List Condition
  | [] => []
  | member :: rest => member.certain ++ certainOfAll rest

end

mutual

/-- A field is fixed by an equality that every match satisfies. -/
theorem pins_eq (field : String) : ∀ predicate : Predicate, predicate.pins field =
    predicate.certain.any fun test => test.comparison == .equal && test.field == field
  | .condition _ => (Bool.or_false _).symm
  | .group .all members => pinsAny_eq field members
  | .group .any _ => rfl
  | .negation _ => rfl

theorem pinsAny_eq (field : String) : ∀ members : List Predicate, pinsAny field members =
    (certainOfAll members).any fun test => test.comparison == .equal && test.field == field
  | [] => rfl
  | member :: rest => by
    rw [pinsAny, certainOfAll, List.any_append, pins_eq field member, pinsAny_eq field rest]

end

mutual

/-- The equalities are read from the conditions that every match satisfies. -/
theorem equalities_eq : ∀ predicate : Predicate,
    predicate.equalities = predicate.certain.flatMap equalityOf
  | .condition _ => (List.append_nil _).symm
  | .group .all members => equalitiesOfAll_eq members
  | .group .any _ => rfl
  | .negation _ => rfl

theorem equalitiesOfAll_eq : ∀ members : List Predicate,
    equalitiesOfAll members = (certainOfAll members).flatMap equalityOf
  | [] => rfl
  | member :: rest => by
    rw [equalitiesOfAll, certainOfAll, List.flatMap_append, equalities_eq member,
      equalitiesOfAll_eq rest]

end

end Predicate

/-- The filters together fix the field. -/
def FindQuery.Pins (query : FindQuery) (field : String) : Prop :=
  ∃ predicate, query.predicate? = some predicate ∧ predicate.pins field = true

/-- **The filters fix a field by an equality that every match satisfies.** -/
theorem FindQuery.pins_iff (query : FindQuery) (field : String) :
    query.Pins field ↔ ∃ test ∈ Predicate.certainOfAll query.filters,
      test.comparison = .equal ∧ test.field = field := by
  have some_of_all : (∃ test ∈ Predicate.certainOfAll query.filters,
      test.comparison = .equal ∧ test.field = field) ↔
        Predicate.pinsAny field query.filters = true := by
    rw [Predicate.pinsAny_eq, List.any_eq_true]
    simp
  rw [some_of_all, Pins]
  cases together : query.predicate? with
  | none =>
    have nothing : query.filters = [] := by
      unfold predicate? Predicate.all? at together
      split at together
      · next empty => exact empty
      · cases together
      · cases together
    simp [nothing, Predicate.pinsAny]
  | some predicate => simp [Predicate.pinsAny_of_all? together]

/-- The condition fixes the field, with something but null. -/
def Condition.fixes (condition : Condition) (field : String) : Bool :=
  condition.comparison == .equal && condition.field == field && !condition.operand.isNull

/-- The equalities of a predicate, of a query or of none. -/
def FindQuery.equalityFields (query : FindQuery) : Fields Value :=
  (query.predicate?.map Predicate.equalityFields).getD []

/-- The value that every match of a query has in a field: the operand of the last condition that
fixes it. A path fixes no field. -/
def FindQuery.fixedValue? (query : FindQuery) (field : String) : Option Value :=
  if isDotted field then none
  else
    ((Predicate.certainOfAll query.filters).reverse.find? fun test => test.fixes field).map
      Condition.operand

namespace Predicate

/-- A condition has an equality on the plain field that it fixes, and on no other. -/
theorem get?_equalityOf {field : String} (plain : isReserved field = false) (test : Condition) :
    Fields.get? (equalityOf test) field =
      if isDotted field = false ∧ test.fixes field = true then some test.operand else none := by
  unfold equalityOf Condition.fixes
  by_cases named : test.field = field
  · subst named
    by_cases equal : test.comparison = .equal
    · cases test.operand.isNull <;> cases isDotted test.field <;>
        simp [equal, plain, Fields.get?]
    · simp [equal, Fields.get?]
  · split <;> simp [named, Fields.get?]

/-- The equalities of conditions have the operand of the first one that fixes a plain field. -/
theorem get?_equalitiesOf {field : String} (plain : isReserved field = false)
    (tests : List Condition) :
    Fields.get? (tests.flatMap equalityOf) field =
      if isDotted field then none
      else (tests.find? fun test => test.fixes field).map Condition.operand := by
  induction tests with
  | nil => simp [Fields.get?]
  | cons test rest step =>
    rw [List.flatMap_cons, Fields.get?_append, step, get?_equalityOf plain, List.find?_cons]
    cases isDotted field <;> cases test.fixes field <;> rfl

theorem reverse_equalityOf (test : Condition) : (equalityOf test).reverse = equalityOf test := by
  unfold equalityOf
  split <;> rfl

end Predicate

/-- **The equality of a plain field is the last one in the order of the filters.** -/
theorem FindQuery.get?_equalityFields (query : FindQuery) {field : String}
    (plain : isReserved field = false) :
    query.equalityFields.get? field = query.fixedValue? field := by
  have single : List.reverse ∘ Predicate.equalityOf = Predicate.equalityOf :=
    funext Predicate.reverse_equalityOf
  have backwards : ((Predicate.certainOfAll query.filters).flatMap Predicate.equalityOf).reverse =
      (Predicate.certainOfAll query.filters).reverse.flatMap Predicate.equalityOf := by
    rw [List.reverse_flatMap, single]
  rw [equalityFields, predicate?, Predicate.equalities_all?, Fields.ofEntries, Fields.get?_overlay,
    Predicate.equalitiesOfAll_eq, backwards, Predicate.get?_equalitiesOf plain, fixedValue?]
  exact Option.or_none

/-! ### The record to insert -/

namespace UpsertPlan

/-- The value that a field of the record to insert has: none under a name that the store keeps for
itself; what the operation on it makes of the fixed value; else its insert-only value; else the
fixed value. -/
def plannedValue? (query : FindQuery) (update : UpdateSet) (setOnInsert : Fields Value)
    (field : String) : Option Value :=
  if isReserved field then none
  else
    match update.get? field with
    | some operation => operation.apply (query.fixedValue? field)
    | none => (setOnInsert.get? field).or (query.fixedValue? field)

variable {query : FindQuery} {update : UpdateSet} {setOnInsert : Fields Value} {id : String}
  {now : Instant} {plan : UpsertPlan}

/-- What a plan is made of. -/
theorem parts_of_planned (planned : UpsertPlan.of query update setOnInsert id now = .ok plan) :
    plan.update = update.stamped now ∧ plan.setOnInsert = setOnInsert ∧
      plan.insert.id = id ∧ plan.insert.now = now ∧
      plan.insert.fields =
        (plan.update.applyTo
          (query.equalityFields.overlay (untouched plan.update plan.setOnInsert))).filter
            fun entry => !isReserved entry.1 := by
  unfold UpsertPlan.of at planned
  split at planned
  · cases planned
  · cases planned
    exact ⟨rfl, rfl, rfl, rfl, rfl⟩

/-- An upsert is refused exactly if its filters fix the id. -/
theorem exists_error_iff :
    (∃ error, UpsertPlan.of query update setOnInsert id now = .error error) ↔
      ∃ name ∈ [idName, documentIdName], query.Pins name := by
  unfold FindQuery.Pins
  cases together : query.predicate? with
  | none => simp [UpsertPlan.of, pinnedId?, together]
  | some predicate => simp [of_eq_error_iff together]

/-- An insert-only value is read unless an operation hides it. -/
theorem get?_untouched (update : UpdateSet) (fields : Fields Value) (field : String) :
    (untouched update fields).get? field =
      if (update.get? field).isSome then none else fields.get? field := by
  rw [untouched, Fields.get?_filter fun name => !update.contains name, Fields.contains]
  cases (update.get? field).isSome <;> rfl

/-- **The record to insert, field by field.** -/
theorem get?_insert_fields (sorted : Fields.Sorted update) (ordered : Fields.Sorted setOnInsert)
    (planned : UpsertPlan.of query update setOnInsert id now = .ok plan) (field : String) :
    plan.insert.fields.get? field = plannedValue? query plan.update plan.setOnInsert field := by
  obtain ⟨stamped, rfl, -, -, fields⟩ := parts_of_planned planned
  have distinct := (UpdateSet.isStampOf_stamped sorted now).nodup
  have kept : Fields.Sorted (untouched plan.update plan.setOnInsert) := ordered.filter _
  rw [← stamped] at distinct
  rw [fields, Fields.get?_filter fun name => !isReserved name, plannedValue?]
  cases plain : isReserved field with
  | true => rfl
  | false =>
    show Fields.get? _ field = _
    rw [UpdateSet.get?_applyTo_eq distinct, Fields.get?_overlay_of_sorted _ kept, get?_untouched,
      query.get?_equalityFields plain]
    cases plan.update.get? field <;> rfl

/-- The insert-only fields of the user are read like those that no operation touches, except under
names that the store keeps for itself. -/
theorem get?_insertOnlyFields (plan : UpsertPlan) {field : String}
    (plain : isReserved field = false) :
    plan.insertOnlyFields.get? field = (untouched plan.update plan.setOnInsert).get? field := by
  rw [insertOnlyFields, Fields.get?_filter fun name => !isReserved name, plain]
  rfl

/-- **Both stores start from the same insert-only fields**: leaving out reserved names before the
operations makes no difference. -/
theorem insert_fields_eq (sorted : Fields.Sorted update) (ordered : Fields.Sorted setOnInsert)
    (planned : UpsertPlan.of query update setOnInsert id now = .ok plan) :
    plan.insert.fields =
      (plan.update.applyTo (query.equalityFields.overlay plan.insertOnlyFields)).filter
        fun entry => !isReserved entry.1 := by
  obtain ⟨stamped, rfl, -, -, fields⟩ := parts_of_planned planned
  have distinct := (UpdateSet.isStampOf_stamped sorted now).nodup
  rw [← stamped] at distinct
  have equalities : Fields.Sorted query.equalityFields := by
    rw [FindQuery.equalityFields, FindQuery.predicate?, Predicate.equalities_all?]
    exact Fields.sorted_ofEntries _
  have starts (entries : List (String × Value)) :
      Fields.Sorted (plan.update.applyTo (query.equalityFields.overlay entries)) :=
    UpdateSet.sorted_applyTo _ (Fields.sorted_overlay equalities entries)
  rw [fields]
  refine Fields.eq_of_get? ((starts _).filter _) ((starts _).filter _) fun field => ?_
  rw [Fields.get?_filter fun name => !isReserved name,
    Fields.get?_filter fun name => !isReserved name]
  cases plain : isReserved field with
  | true => rfl
  | false =>
    refine UpdateSet.get?_applyTo_congr distinct ?_
    have kept : Fields.Sorted (untouched plan.update plan.setOnInsert) := ordered.filter _
    have userKept : Fields.Sorted plan.insertOnlyFields := kept.filter _
    rw [Fields.get?_overlay_of_sorted _ kept, Fields.get?_overlay_of_sorted _ userKept,
      get?_insertOnlyFields _ plain]

/-- **The upsert plan, field by field.** An upsert is refused exactly if its filters fix the id, by
an equality that every match satisfies. Otherwise each field of the record to insert has its planned
value. The record is what the update makes of the fixed values and the insert-only fields, which are
those that a document store is given for the insertion, without reserved names. The update has the
instant of the plan as the stamp of the last change, floored to the millisecond. -/
theorem plan_field_by_field (sorted : Fields.Sorted update) (ordered : Fields.Sorted setOnInsert)
    (query : FindQuery) (id : String) (now : Instant) :
    ((∃ error, UpsertPlan.of query update setOnInsert id now = .error error) ↔
      ∃ name ∈ [idName, documentIdName], query.Pins name) ∧
    (∀ name, query.Pins name ↔ ∃ test ∈ Predicate.certainOfAll query.filters,
      test.comparison = .equal ∧ test.field = name) ∧
    ∀ plan, UpsertPlan.of query update setOnInsert id now = .ok plan →
      plan.update = update.stamped now ∧ plan.setOnInsert = setOnInsert ∧ plan.insert.id = id ∧
      (∀ field, plan.insert.fields.get? field =
        plannedValue? query plan.update plan.setOnInsert field) ∧
      plan.insert.fields =
        (plan.update.applyTo (query.equalityFields.overlay plan.insertOnlyFields)).filter
          (fun entry => !isReserved entry.1) ∧
      (∀ document, plan.toDocument = .ok document → ∃ operators insertion,
        document = operators ++ [("$setOnInsert", .document insertion)] ∧
          plan.InsertsOnly insertion) ∧
      plan.insert.now = now ∧
      plan.update.get? updatedName = some (.set (.instant plan.insert.now.floorMilliseconds)) := by
  refine ⟨exists_error_iff, query.pins_iff, fun plan planned => ?_⟩
  have stamp := UpdateSet.isStampOf_stamped sorted now
  obtain ⟨stamped, inserts, own, instant, -⟩ := parts_of_planned planned
  rw [← stamped] at stamp
  refine ⟨stamped, inserts, own, get?_insert_fields sorted ordered planned,
    insert_fields_eq sorted ordered planned, fun document done => ?_, instant, ?_⟩
  · obtain ⟨operators, insertion, parts, -, inserted, -⟩ :=
      toDocument_delivers stamp (inserts ▸ ordered) done
    exact ⟨operators, insertion, parts, inserted⟩
  · rw [instant]
    exact stamp.stamp

/-- Filters that fix the score twice and the city, on which there is an alternative as well. -/
def overlapping : FindQuery :=
  { FindQuery.empty with
    filters := [.compare "score" .equal (.ofSigned 3),
      .group .all [.compare "city" .equal (.text "Oslo"), .compare "score" .equal (.ofSigned 4)],
      .group .any
        [.compare "level" .equal (.ofSigned 1), .compare "city" .equal (.text "Bergen")]] }

/-- An operation works on the last fixed value, and an insert-only null hides a fixed value. -/
theorem plan_field_by_field_overlapping :
    Fields.Sorted scoring ∧ Fields.Sorted [("city", Value.null), ("score", .ofSigned 0)] ∧
      ∃ plan, UpsertPlan.of overlapping scoring [("city", .null), ("score", .ofSigned 0)] "a"
          .fine = .ok plan ∧
        plan.insert.fields.get? "score" = some (.ofSigned 9) ∧
        plan.insert.fields.get? "city" = some .null ∧
        plan.insert.fields.get? "tags" = some (.array [.text "won"]) ∧
        plan.insert.fields.get? "level" = none := by
  have sorted : Fields.Sorted scoring := by decide
  have ordered : Fields.Sorted [("city", Value.null), ("score", .ofSigned 0)] := by decide
  obtain ⟨-, -, planned⟩ := plan_field_by_field sorted ordered overlapping "a"
    .fine
  obtain ⟨-, -, -, values, -⟩ := planned _ rfl
  refine ⟨sorted, ordered, _, rfl, ?_, ?_, ?_, ?_⟩
  all_goals
    rw [values]
    rfl

end UpsertPlan

end TwinStore
