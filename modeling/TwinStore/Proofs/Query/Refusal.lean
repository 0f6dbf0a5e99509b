/-
**What both compilers refuse.** A filter document and the condition of a statement are written by
two compilers, and so are an update document and a list of assignments. With names that are in order
and operands that a document has room for, both refuse the same, for the same reason.

* `Condition.malformed?` and `UpdateOperation.malformed?`: an operand is of the wrong kind;
  `refusal?` is the error that names the field.
* `Predicate.fault?_toFilter` and `Predicate.fault_draft`, each by induction on the predicate:
  either compiler reports the first malformed condition from left to right.
* Only removals may be malformed, and they are all of one kind (`refusal?_of_kind`). So
  `UpdateSet.fault?_toDocument`: going through the operations kind by kind finds the same one first.
* `compilers_refuse_alike` is the main result.
-/

import TwinStore.Bson.Update
import TwinStore.Proofs.Path
import TwinStore.Proofs.Predicate
import TwinStore.Proofs.Sql.Draft
import TwinStore.Proofs.Value.Document
import TwinStore.Sql.Generator

namespace TwinStore

open Result Draft

/-! ### Searches in lists -/

section Search

variable {α β : Type} {find : α → Option β} {items : List α}

theorem findSome?_congr {other : α → Option β} (same : ∀ item ∈ items, find item = other item) :
    items.findSome? find = items.findSome? other := by
  induction items with
  | nil => rfl
  | cons item rest step =>
    obtain ⟨here, later⟩ := List.forall_mem_cons.mp same
    rw [List.findSome?_cons, List.findSome?_cons, here, step later]

/-- What nothing is found in may be left out. -/
theorem findSome?_filter {keep : α → Bool}
    (nothing : ∀ item ∈ items, keep item = false → find item = none) :
    (items.filter keep).findSome? find = items.findSome? find := by
  induction items with
  | nil => rfl
  | cons item rest step =>
    obtain ⟨here, later⟩ := List.forall_mem_cons.mp nothing
    rw [List.filter_cons, List.findSome?_cons]
    cases kept : keep item with
    | true => rw [if_pos rfl, List.findSome?_cons, step later]
    | false => rw [if_neg Bool.false_ne_true, here kept, step later]

end Search

/-! ### What is malformed -/

/-- What is wrong with a condition: it tests for membership without an array, or for presence
without a truth value. -/
def Condition.malformed? (condition : Condition) : Option OperandFault :=
  match condition.comparison with
  | .oneOf => if condition.operand.items?.isSome then none else some .membershipWithoutArray
  | .present => if condition.operand.boolean?.isSome then none else some .presenceWithoutBoolean
  | _ => none

/-- The error that names the field of a malformed condition. -/
def Condition.refusal? (condition : Condition) : Option CompileError :=
  condition.malformed?.map (.operand condition.field)

namespace UpdateOperation

/-- What is wrong with an operation: it removes without an array. -/
def malformed? : UpdateOperation → Option OperandFault
  | .removeAll values => if values.items?.isSome then none else some .removalWithoutArray
  | _ => none

/-- The error that names the field of a malformed operation. -/
def refusal? (field : String) (operation : UpdateOperation) : Option CompileError :=
  operation.malformed?.map (.operand field)

/-- The value that an operation works with. -/
def operand? : UpdateOperation → Option Value
  | .set value | .max value | .min value | .push value | .removeAll value => some value
  | .increment number | .multiply number => some (.number number)
  | .popFirst | .popLast => none

/-- Only removals are refused. -/
theorem refusal?_of_kind {operation : UpdateOperation} (other : operation.kind ≠ .removeAll)
    (field : String) : operation.refusal? field = none := by
  cases operation with
  | removeAll => exact absurd rfl other
  | _ => rfl

end UpdateOperation

/-! ### Filters -/

/-- A value whose decimals can be stored can be compiled. -/
theorem Value.fault?_compile {value : Value} (storable : value.Every StorableDecimal) :
    fault? value.compile = none := by
  have each : ∀ number, .number (.decimal number) ∈ value.parts →
      ∃ stored, number.toBson = .ok stored := by
    intro number member
    obtain ⟨stored, found⟩ := Option.ne_none_iff_exists'.mp (storable _ member)
    exact ⟨.decimal128 stored, by rw [Decimal.toBson, found]⟩
  obtain ⟨stored, done⟩ := Value.toBson_of_decimals each
  rw [compile, done]
  rfl

theorem Condition.fault?_toFilter {condition : Condition}
    (storable : condition.operand.Every Value.StorableDecimal) :
    fault? condition.toFilter = condition.refusal? := by
  obtain ⟨field, comparison, operand⟩ := condition
  have compiled : fault? operand.compile = none := Value.fault?_compile storable
  rw [toFilter, fault?_wrapped]
  cases comparison with
  | equal => cases null : operand.isNull <;> simp [criteria, refusal?, malformed?, null, compiled]
  | oneOf => cases items : operand.items? <;> simp [criteria, refusal?, malformed?, items, compiled]
  | present => cases there : operand.boolean? <;> simp [criteria, refusal?, malformed?, there]
  | _ => simp [criteria, refusal?, malformed?, compiled]

namespace FieldReference

variable (field : FieldReference)

@[simp] theorem fault_draft : field.draft.fault = none := by
  unfold FieldReference.draft
  split <;> rfl

@[simp] theorem fault_operand (value : Value) : (field.operand value).fault = none := by
  unfold FieldReference.operand
  split <;> rfl

@[simp] theorem fault_words (keywords : List Keyword) : (words keywords).fault = none := rfl

@[simp] theorem fault_nullTest : field.nullTest.fault = none := by
  unfold nullTest
  split <;> simp [fault_append]

theorem fault_comparison (comparison : Comparison) (operand : Value) :
    (field.comparison comparison operand).fault = none := by
  simp [FieldReference.comparison, fault_append]

theorem fault_membership (operands : List Value) : (field.membership operands).fault = none := by
  simp [membership, listed, fault_append, fault_joined]

theorem fault_membershipOrNull (items : List Value) :
    (field.membershipOrNull items).fault = none := by
  unfold membershipOrNull
  dsimp only
  split <;> simp [fault_append, fault_membership]

/-- **Nothing but an operand of the wrong kind makes a test fail.** -/
theorem fault_test (condition : Condition) :
    (field.test condition).fault = condition.refusal? := by
  obtain ⟨name, comparison, operand⟩ := condition
  cases comparison with
  | oneOf =>
    cases items : operand.items? <;>
      simp [test, Condition.refusal?, Condition.malformed?, items, fault_membershipOrNull, fail]
  | present =>
    cases there : operand.boolean? <;>
      simp [test, Condition.refusal?, Condition.malformed?, there, presence, fault_append, fail]
  | _ =>
    cases null : operand.isNull <;>
      simp [test, Condition.refusal?, Condition.malformed?, null, fault_comparison, fault_append]

end FieldReference

/-- An identifier names a column. -/
theorem exists_columnName {field : String} (valid : IsIdentifier field) :
    ∃ column, columnName field = .ok column := by
  unfold columnName
  split
  · exact ⟨_, rfl⟩
  · exact ⟨⟨field, valid⟩, by rw [Identifier.ofText, dif_pos valid]⟩

/-- The field is a path of identifiers. -/
def IsPath (field : String) : Prop := ∀ segment ∈ fieldSegments field, IsIdentifier segment

instance (field : String) : Decidable (IsPath field) :=
  inferInstanceAs (Decidable (∀ segment ∈ fieldSegments field, _))

/-- A path of identifiers can be read. -/
theorem exists_ofText {field : String} (path : IsPath field) :
    ∃ reference, FieldReference.ofText field = .ok reference := by
  obtain ⟨first, rest, segments⟩ : ∃ first rest, fieldSegments field = first :: rest := by
    obtain ⟨first, rest, split⟩ := List.exists_cons_of_ne_nil (splitDots_ne_nil field.toList)
    exact ⟨_, _, by rw [fieldSegments, split, List.map_cons]⟩
  rw [IsPath, segments, List.forall_mem_cons] at path
  obtain ⟨column, named⟩ := exists_columnName path.1
  obtain ⟨names, checked⟩ : ∃ names, rest.mapM Identifier.ofText = .ok names := by
    rw [← fault?_eq_none, fault?_mapM, List.findSome?_eq_none_iff]
    intro segment member
    rw [Identifier.ofText, dif_pos (path.2 segment member), fault?_ok]
  refine ⟨⟨column, names⟩, ?_⟩
  rw [FieldReference.ofText, fieldHead, segments, List.headD_cons, named, List.tail_cons]
  exact bind_eq_ok.mpr ⟨column, rfl, bind_eq_ok.mpr ⟨names, checked, rfl⟩⟩

theorem Condition.fault_draft {condition : Condition} (path : IsPath condition.field) :
    condition.draft.fault = condition.refusal? := by
  obtain ⟨reference, read⟩ := exists_ofText path
  rw [draft, read]
  exact reference.fault_test condition

namespace Predicate

/-- The field of every condition is a path of identifiers. -/
def Addressed (predicate : Predicate) : Prop :=
  ∀ condition ∈ predicate.conditions, IsPath condition.field

/-- The operand of every condition can be stored in a document. -/
def Storable (predicate : Predicate) : Prop :=
  ∀ condition ∈ predicate.conditions, condition.operand.Every Value.StorableDecimal

/-- Why a predicate is refused: for its first malformed condition from left to right. -/
def refusal? (predicate : Predicate) : Option CompileError :=
  predicate.conditions.findSome? Condition.refusal?

mutual

/-- **The filter of a predicate is refused for its first malformed condition.** -/
theorem fault?_toFilter : ∀ {predicate : Predicate},
    (∀ condition ∈ predicate.conditions, condition.operand.Every Value.StorableDecimal) →
    fault? predicate.toFilter = predicate.conditions.findSome? Condition.refusal?
  | .condition test, storable => by
    rw [toFilter, conditions, Condition.fault?_toFilter (storable test List.mem_cons_self)]
    simp
  | .group connective [], _ => by rw [toFilter]; rfl
  | .group connective [member], storable => by
    rw [conditions, conditionsOfAll, conditionsOfAll, List.append_nil] at storable ⊢
    rw [toFilter, fault?_toFilter storable]
  | .group connective (first :: second :: rest), storable => by
    rw [conditions] at storable ⊢
    rw [toFilter, fault?_wrapped, fault?_toFilters storable]
    all_goals nofun
  | .negation inner, storable => by
    rw [conditions] at storable ⊢
    rw [toFilter, fault?_wrapped, fault?_toFilter storable]

theorem fault?_toFilters : ∀ {members : List Predicate},
    (∀ condition ∈ conditionsOfAll members, condition.operand.Every Value.StorableDecimal) →
    fault? (toFilters members) = (conditionsOfAll members).findSome? Condition.refusal?
  | [], _ => rfl
  | member :: rest, storable => by
    obtain ⟨here, later⟩ := List.forall_mem_append.mp storable
    rw [toFilters, fault?_joined fun document documents => Bson.document document :: documents,
      conditionsOfAll, List.findSome?_append, fault?_toFilter here, fault?_toFilters later]

end

mutual

/-- **The condition of a statement is refused for the first malformed condition.** -/
theorem fault_draft : ∀ {predicate : Predicate},
    (∀ condition ∈ predicate.conditions, IsPath condition.field) →
    predicate.draft.fault = predicate.conditions.findSome? Condition.refusal?
  | .condition test, paths => by
    rw [draft, conditions, Condition.fault_draft (paths test List.mem_cons_self)]
    simp
  | .group connective [], _ => by rw [draft]; rfl
  | .group connective [member], paths => by
    rw [conditions, conditionsOfAll, conditionsOfAll, List.append_nil] at paths ⊢
    rw [draft, fault_draft paths]
  | .group connective (first :: second :: rest), paths => by
    rw [conditions] at paths ⊢
    rw [draft_group, fault_parenthesized, fault_joined, fault_drafts paths]
  | .negation inner, paths => by
    rw [conditions] at paths ⊢
    rw [draft, fault_append, fault_append, fault_draft paths]
    exact Option.or_none

theorem fault_drafts : ∀ {members : List Predicate},
    (∀ condition ∈ conditionsOfAll members, IsPath condition.field) →
    (drafts members).findSome? Draft.fault =
      (conditionsOfAll members).findSome? Condition.refusal?
  | [], _ => rfl
  | member :: rest, paths => by
    obtain ⟨here, later⟩ := List.forall_mem_append.mp paths
    rw [drafts, List.findSome?_cons, conditionsOfAll, List.findSome?_append,
      fault_draft here, fault_drafts later]
    cases member.conditions.findSome? Condition.refusal? <;> rfl

end

end Predicate

/-! ### Updates -/

namespace UpdateOperation

variable {operation : UpdateOperation}

theorem fault?_operand (storable : ∀ value ∈ operation.operand?, value.Every Value.StorableDecimal)
    (field : String) : fault? (operation.operand field) = operation.refusal? field := by
  have compiled (value : Value) (used : operation.operand? = some value) :
      fault? value.compile = none := Value.fault?_compile (storable value used)
  cases operation with
  | set value => cases value <;> first | rfl | exact compiled _ rfl
  | removeAll values =>
    cases items : values.items? with
    | none => simp [operand, refusal?, malformed?, items]
    | some => simpa [operand, refusal?, malformed?, items] using compiled values rfl
  | popFirst | popLast => rfl
  | _ => exact compiled _ rfl

theorem fault_draft (operation : UpdateOperation) (field : String) {current : Draft}
    (read : current.fault = none) :
    (operation.draft field current).fault = operation.refusal? field := by
  cases operation with
  | set value => cases value <;> rfl
  | removeAll values =>
    cases items : values.items? <;>
      simp [draft, refusal?, malformed?, items, removalDraft, nestedArgument, fault_append, read,
        words, argument, ofTokens, fail]
  | _ =>
    simp [draft, refusal?, malformed?, arithmeticDraft, extremumDraft, columnArgument,
      nestedArgument, fault_append, read, words, argument, ofTokens]

end UpdateOperation

/-- An identifier has no dots. -/
theorem isDotted_of_isIdentifier {field : String} (valid : IsIdentifier field) :
    isDotted field = false := by
  rw [isDotted_eq_false]
  intro dot
  exact absurd (List.all_eq_true.mp valid.2.2 _ dot) (by decide)

theorem fault_assignmentDraft (table : Identifier) {field : String} (valid : IsIdentifier field)
    (operation : UpdateOperation) :
    (assignmentDraft table field operation).fault = operation.refusal? field := by
  obtain ⟨column, named⟩ := exists_columnName valid
  unfold assignmentDraft
  rw [isDotted_of_isIdentifier valid, if_neg Bool.false_ne_true, named, withIdentifier,
    fault_append, fault_append, operation.fault_draft field rfl]
  rfl

namespace UpdateSet

/-- Every operation is on an identifier. -/
def Addressed (update : UpdateSet) : Prop := ∀ entry ∈ update, IsIdentifier entry.1

/-- The values that the operations work with can be stored in a document. -/
def Storable (update : UpdateSet) : Prop :=
  ∀ entry ∈ update, ∀ value ∈ entry.2.operand?, value.Every Value.StorableDecimal

/-- Why an update is refused: for its first malformed operation in the order of the fields. -/
def refusal? (update : UpdateSet) : Option CompileError :=
  update.findSome? fun entry => entry.2.refusal? entry.1

/-- The removals of an update are refused as the whole update is. -/
theorem refusal?_ofKind (update : UpdateSet) :
    refusal? (update.ofKind .removeAll) = update.refusal? := by
  refine findSome?_filter fun entry _ other => ?_
  exact entry.2.refusal?_of_kind (of_decide_eq_false other) entry.1

theorem refusal?_ofKind_other (update : UpdateSet) {kind : UpdateKind}
    (other : kind ≠ .removeAll) : refusal? (update.ofKind kind) = none := by
  refine List.findSome?_eq_none_iff.mpr fun entry member => ?_
  have same := of_decide_eq_true (List.mem_filter.mp member).2
  exact entry.2.refusal?_of_kind (same ▸ other) entry.1

/-- **Kind by kind the same operation is found first.** -/
theorem refusal?_groups (update : UpdateSet) :
    (update.groups.findSome? fun group => refusal? group.2) = update.refusal? := by
  rw [groups, findSome?_filter]
  · rw [List.findSome?_map]
    cases found : update.refusal? <;>
      simp [UpdateKind.all, refusal?_ofKind, refusal?_ofKind_other, found]
  · intro group _ empty
    simp at empty
    rw [empty]
    rfl

/-- **An update document is refused for the first malformed operation.** -/
theorem fault?_toDocument {update : UpdateSet} (storable : update.Storable) :
    fault? update.toDocument = update.refusal? := by
  rw [toDocument, fault?_wrapped, fault?_mapM, ← refusal?_groups]
  refine findSome?_congr fun group member => ?_
  obtain ⟨kind, -, rfl⟩ := List.mem_map.mp (List.mem_filter.mp member).1
  refine (fault?_wrapped
    (fun entries => (kind.operator, Bson.document (Document.ofEntries entries))) _).trans ?_
  rw [operandEntries, fault?_mapM]
  refine findSome?_congr fun entry inside => ?_
  rw [fault?_wrapped fun operand => (documentField entry.1, operand),
    UpdateOperation.fault?_operand (storable entry (List.mem_filter.mp inside).1)]

/-- **A list of assignments is refused for the first malformed operation.** -/
theorem fault_draft {update : UpdateSet} (addressed : update.Addressed) (table : Identifier) :
    (update.draft table).fault = update.refusal? := by
  rw [draft, listed, fault_joined, List.findSome?_map]
  exact findSome?_congr fun entry member =>
    fault_assignmentDraft table (addressed entry member) entry.2

end UpdateSet

/-! ### Both compilers -/

/-- Both results are there if nothing is refused, and else both are the refusal. -/
def RefusedAlike {α β : Type} (refusal : Option CompileError) (first : Except CompileError α)
    (second : Except CompileError β) : Prop :=
  match refusal with
  | none => (∃ result, first = .ok result) ∧ ∃ result, second = .ok result
  | some error => first = .error error ∧ second = .error error

theorem refusedAlike_of_faults {α β : Type} {refusal : Option CompileError}
    {first : Except CompileError α} {second : Except CompileError β}
    (one : fault? first = refusal) (two : fault? second = refusal) :
    RefusedAlike refusal first second := by
  cases refusal with
  | none => exact ⟨fault?_eq_none.mp one, fault?_eq_none.mp two⟩
  | some error => exact ⟨fault?_eq_some.mp one, fault?_eq_some.mp two⟩

/-- A generator reports the fault of the draft it writes. -/
theorem Generator.fault?_run (generator : Generator) (call : GeneratorCall) :
    fault? (generator.run call).2 = call.draft.fault := by
  rw [run, fault?_map, finish]
  cases call.draft.fault <;> rfl

/-- **Both compilers accept the same and refuse the same for the same reason.** On paths of
identifiers and with operands that can be stored, a filter document and the condition of a statement
are either both written, or both refused for the first malformed condition from left to right. On
identifiers, an update document and a list of assignments are either both written, or both refused
for the first malformed operation in the order of the fields, although a document has them kind by
kind. -/
theorem compilers_refuse_alike {predicate : Predicate} (paths : predicate.Addressed)
    (operands : predicate.Storable) {update : UpdateSet} (fields : update.Addressed)
    (values : update.Storable) (generator : Generator) (table : Identifier) :
    RefusedAlike predicate.refusal? predicate.toFilter
        (generator.run (.condition predicate)).2 ∧
      RefusedAlike update.refusal? update.toDocument
        (generator.run (.setClause update table)).2 := by
  constructor
  · refine refusedAlike_of_faults (Predicate.fault?_toFilter operands) ?_
    rw [Generator.fault?_run]
    exact Predicate.fault_draft paths
  · refine refusedAlike_of_faults (UpdateSet.fault?_toDocument values) ?_
    rw [Generator.fault?_run]
    exact UpdateSet.fault_draft fields table

/-- Not one of what is no list, or there in what is no truth value. -/
def malformedFilter : Predicate :=
  .group .any
    [.compare "price" .atLeast (.number (.decimal ⟨15, 1⟩)),
      .negation (.compare "address.city" .oneOf (.text "Oslo")),
      .compare "level" .present (.number (.signed 1))]

/-- An amount to add, and two removals of what is no list. -/
def malformedUpdate : UpdateSet :=
  [("level", .increment (.decimal ⟨15, 1⟩)), ("names", .removeAll (.text "A")),
    ("tags", .removeAll .null)]

theorem compilers_refuse_alike_malformed :
    malformedFilter.Addressed ∧ malformedFilter.Storable ∧ malformedUpdate.Addressed ∧
      malformedUpdate.Storable ∧
      malformedFilter.toFilter = .error (.operand "address.city" .membershipWithoutArray) ∧
      (Generator.empty.run (.condition malformedFilter)).2 =
        .error (.operand "address.city" .membershipWithoutArray) ∧
      malformedUpdate.toDocument = .error (.operand "names" .removalWithoutArray) ∧
      (Generator.empty.run (.setClause malformedUpdate ⟨"person", by decide⟩)).2 =
        .error (.operand "names" .removalWithoutArray) := by
  have kept : Decimal128.ofDecimal? ⟨15, 1⟩ ≠ none := by decide
  have paths : malformedFilter.Addressed := by
    unfold Predicate.Addressed
    decide
  have operands : malformedFilter.Storable := by
    simp [malformedFilter, Predicate.Storable, Predicate.conditions, Predicate.conditionsOfAll,
      Predicate.compare, Value.Every, Value.parts, Value.StorableDecimal, kept]
  have fields : malformedUpdate.Addressed := by
    unfold UpdateSet.Addressed
    decide
  have values : malformedUpdate.Storable := by
    simp [malformedUpdate, UpdateSet.Storable, UpdateOperation.operand?, Value.Every, Value.parts,
      Value.StorableDecimal, kept]
  obtain ⟨⟨filter, condition⟩, document, assignments⟩ :=
    compilers_refuse_alike paths operands fields values Generator.empty ⟨"person", by decide⟩
  exact ⟨paths, operands, fields, values, filter, condition, document, assignments⟩

end TwinStore
