/-
**Two names of one field.** `id` and `_id` are the same field, and either may be said. Whatever asks
for fields takes one form if each of them is called as it is in documents, and two askings that take
the same form differ only in which name of the id they say where.

* `apply_documentField`: what does not tell the two names apart does not tell any name from its
  form. So columns, paths and names that are kept for the store are those of the form.
* `documentField_eq_iff`: two names have the same form only if both are the id's.
* `inDocument` is the form of conditions, predicates, queries and errors.
* `Predicate.equalities_inDocument` and `pinnedId?_inDocument`: what a predicate fixes.
* `FindQuery.predicate?_inDocument` and `FindQuery.userFields?_inDocument`: what a query asks for.
-/

import TwinStore.Plan.Write
import TwinStore.Proofs.Path
import TwinStore.Proofs.Record
import TwinStore.Proofs.Result
import TwinStore.Sql.Field

namespace TwinStore

/-! ### Names -/

/-- The names of the id. -/
def idNames : List String := [idName, documentIdName]

/-- **What does not tell the names of the id apart** does not tell a name from that in documents. -/
theorem apply_documentField {α : Type} {look : String → α}
    (alike : look documentIdName = look idName) (field : String) :
    look (documentField field) = look field := by
  rw [documentField]
  split
  · next isId => rw [isId, alike]
  · rfl

theorem documentField_documentField (field : String) :
    documentField (documentField field) = documentField field :=
  apply_documentField rfl field

theorem isReserved_documentField (field : String) :
    isReserved (documentField field) = isReserved field :=
  apply_documentField rfl field

theorem isDotted_documentField (field : String) :
    isDotted (documentField field) = isDotted field :=
  apply_documentField rfl field

theorem columnName_documentField (field : String) :
    columnName (documentField field) = columnName field :=
  apply_documentField rfl field

theorem FieldReference.ofText_documentField (field : String) :
    FieldReference.ofText (documentField field) = FieldReference.ofText field :=
  apply_documentField rfl field

theorem documentField_eq_id {field : String} :
    documentField field = documentIdName ↔ field = idName ∨ field = documentIdName := by
  rw [documentField]
  split
  · next isId => simp [isId]
  · next other => simp [other]

/-- Two names are the same in documents if they are the same, or both the id's. -/
theorem documentField_eq_iff {field other : String} :
    documentField field = documentField other ↔
      field = other ∨ field ∈ idNames ∧ other ∈ idNames := by
  simp only [documentField, idNames, List.mem_cons, List.not_mem_nil, or_false]
  have apart : idName ≠ documentIdName := by decide
  split <;> split <;> grind

theorem documentField_ne_id (field : String) : documentField field ≠ idName := by
  rw [documentField]
  split
  · decide
  · assumption

/-- What stands under names, each of them as in documents. -/
def underDocumentNames {α : Type} (entries : List (String × α)) : List (String × α) :=
  entries.map fun (field, content) => (documentField field, content)

/-- What is made of entries does not depend on what the id is called, if that of none does. -/
theorem map_underDocumentNames {α β : Type} {make : String × α → β}
    (alike : ∀ field content, make (documentField field, content) = make (field, content))
    (entries : List (String × α)) : (underDocumentNames entries).map make = entries.map make := by
  rw [underDocumentNames, List.map_map]
  exact List.map_congr_left fun entry _ => alike entry.1 entry.2

/-- Under a name that is none of the id's stands what stood there. -/
theorem get?_underDocumentNames {α : Type} {name : String} (other : name ∉ idNames)
    (entries : List (String × α)) :
    Fields.get? (underDocumentNames entries) name = Fields.get? entries name := by
  simp only [idNames, List.mem_cons, List.not_mem_nil, or_false, not_or] at other
  induction entries with
  | nil => rfl
  | cons entry rest step =>
    have same : documentField entry.1 = name ↔ entry.1 = name := by
      rw [documentField]
      split
      · next isId => simp [isId, Ne.symm other.1, Ne.symm other.2]
      · rfl
    show Fields.get? ((documentField entry.1, entry.2) :: underDocumentNames rest) name = _
    simp only [Fields.get?, step, same]

/-- Neither do the fields that entries leave behind depend on what the id is called. -/
theorem get?_ofEntries_underDocumentNames {α : Type} {name : String} (other : name ∉ idNames)
    (entries : List (String × α)) :
    (Fields.ofEntries (underDocumentNames entries)).get? name =
      (Fields.ofEntries entries).get? name := by
  rw [Fields.ofEntries, Fields.ofEntries, Fields.get?_overlay, Fields.get?_overlay,
    underDocumentNames, ← List.map_reverse]
  exact congrArg (Option.or · _) (get?_underDocumentNames other entries.reverse)

theorem not_mem_idNames {name : String} (plain : isReserved name = false) : name ∉ idNames := by
  obtain ⟨notId, notDocumentId, -⟩ := Record.isReserved_eq_false.mp plain
  simp [idNames, notId, notDocumentId]

/-! ### Errors -/

/-- The error with the name that its field has in documents. -/
def CompileError.inDocument : CompileError → CompileError
  | .operand field fault => .operand (documentField field) fault
  | error => error

/-- A field is quoted by either name. -/
theorem CompileError.inDocument_operand (field : String) (fault : OperandFault) :
    (operand (documentField field) fault).inDocument = (operand field fault).inDocument :=
  congrArg (operand · fault) (documentField_documentField field)

/-- The error with the name that its field has in documents. -/
def StoreError.inDocument : StoreError → StoreError
  | .compile error => .compile error.inDocument
  | error => error

theorem liftCompile_sameUpTo {α : Type} {left right : Except CompileError α}
    (same : Result.SameUpTo CompileError.inDocument left right) :
    Result.SameUpTo StoreError.inDocument (liftCompile left) (liftCompile right) :=
  same.mapError fun _ => rfl

/-! ### Predicates -/

/-- The condition with the name that its field has in documents. -/
def Condition.inDocument (test : Condition) : Condition :=
  { test with field := documentField test.field }

namespace Predicate

mutual

/-- The predicate with the names that its fields have in documents. -/
def inDocument : Predicate → Predicate
  | .condition test => .condition test.inDocument
  | .group connective members => .group connective (inDocuments members)
  | .negation inner => .negation inner.inDocument

/-- The members of a group, each with these names. -/
def inDocuments : List Predicate → List Predicate
  | [] => []
  | member :: rest => member.inDocument :: inDocuments rest

end

theorem all?_inDocuments (filters : List Predicate) :
    all? (inDocuments filters) = (all? filters).map inDocument := by
  match filters with
  | [] => rfl
  | [_] => rfl
  | _ :: _ :: _ => rfl

theorem equalityOf_inDocument (test : Condition) :
    equalityOf test.inDocument = equalityOf test := by
  simp only [equalityOf, Condition.inDocument, isReserved_documentField, isDotted_documentField]
  split
  · next plain =>
    have notId : test.field ≠ idName := by
      intro isId
      simp [isId, isReserved, reservedNames] at plain
    rw [documentField, if_neg notId]
  · rfl

mutual

/-- **A predicate fixes the same fields of the user**, whatever it calls the id. -/
theorem equalities_inDocument : ∀ predicate : Predicate,
    predicate.inDocument.equalities = predicate.equalities
  | .condition test => by
    rw [inDocument, equalities, equalities, equalityOf_inDocument]
  | .group .all members => by
    rw [inDocument, equalities, equalities, equalitiesOfAll_inDocuments]
  | .group .any _ => rfl
  | .negation _ => rfl

theorem equalitiesOfAll_inDocuments : ∀ members : List Predicate,
    equalitiesOfAll (inDocuments members) = equalitiesOfAll members
  | [] => rfl
  | member :: rest => by
    rw [inDocuments, equalitiesOfAll, equalitiesOfAll, equalities_inDocument,
      equalitiesOfAll_inDocuments]

end

/-- A name is one of the id's exactly if it is the id's in documents. -/
theorem documentField_beq (field : String) :
    (documentField field == documentIdName) = (field == idName || field == documentIdName) := by
  rw [Bool.eq_iff_iff, beq_iff_eq, Bool.or_eq_true, beq_iff_eq, beq_iff_eq, documentField_eq_id]

mutual

/-- A predicate fixes the id if it fixes either of its names. -/
theorem pins_inDocument : ∀ predicate : Predicate,
    predicate.inDocument.pins documentIdName =
      (predicate.pins idName || predicate.pins documentIdName)
  | .condition test => by
    simp only [inDocument, pins, Condition.inDocument, documentField_beq, Bool.and_or_distrib_left]
  | .group .all members => by
    rw [inDocument, pins, pins, pins, pinsAny_inDocuments]
  | .group .any _ => rfl
  | .negation _ => rfl

theorem pinsAny_inDocuments : ∀ members : List Predicate,
    pinsAny documentIdName (inDocuments members) =
      (pinsAny idName members || pinsAny documentIdName members)
  | [] => rfl
  | member :: rest => by
    rw [inDocuments, pinsAny, pinsAny, pinsAny, pins_inDocument, pinsAny_inDocuments]
    ac_rfl

end

mutual

/-- In documents the id has one name only. -/
theorem pins_id_inDocument : ∀ predicate : Predicate, predicate.inDocument.pins idName = false
  | .condition test => by
    simp only [inDocument, pins, Condition.inDocument, Bool.and_eq_false_imp, beq_eq_false_iff_ne]
    exact fun _ => documentField_ne_id test.field
  | .group .all members => by rw [inDocument, pins, pinsAny_id_inDocuments]
  | .group .any _ => rfl
  | .negation _ => rfl

theorem pinsAny_id_inDocuments : ∀ members : List Predicate,
    pinsAny idName (inDocuments members) = false
  | [] => rfl
  | member :: rest => by
    rw [inDocuments, pinsAny, pins_id_inDocument, pinsAny_id_inDocuments, Bool.or_false]

end

end Predicate

/-- **The id is fixed or not**, whatever it is called. -/
theorem UpsertPlan.pinnedId?_inDocument (predicate : Option Predicate) :
    pinnedId? (predicate.map Predicate.inDocument) = (pinnedId? predicate).map documentField := by
  cases predicate with
  | none => rfl
  | some predicate =>
    simp only [pinnedId?, Option.map_some, Option.bind_some, List.find?_cons, List.find?_nil,
      Predicate.pins_id_inDocument, Predicate.pins_inDocument]
    cases predicate.pins idName <;> cases predicate.pins documentIdName <;> rfl

/-! ### Queries -/

namespace FindQuery

/-- The query with the names that its fields have in documents. -/
def inDocument (query : FindQuery) : FindQuery :=
  { query with
    filters := Predicate.inDocuments query.filters
    sort := underDocumentNames query.sort
    includes := query.includes.map (List.map documentField) }

theorem predicate?_inDocument (query : FindQuery) :
    query.inDocument.predicate? = query.predicate?.map Predicate.inDocument :=
  Predicate.all?_inDocuments query.filters

/-- **A projection asks for the same fields of the user**, whatever it calls the id. -/
theorem userFields?_inDocument (query : FindQuery) :
    query.inDocument.projection.userFields? = query.projection.userFields? := by
  cases asked : query.includes with
  | none => simp only [projection, inDocument, asked, Option.map_none]
  | some names =>
    have entries : (names.map documentField).map (fun name => (name, ())) =
        underDocumentNames (names.map fun name => (name, ())) := by
      rw [underDocumentNames, List.map_map, List.map_map]
      rfl
    have chosen : ∀ fields : Fields Unit,
        (fields.map Prod.fst).filter (fun name => !isReserved name) =
          (fields.filter fun field => !isReserved field.1).map Prod.fst :=
      fun fields => List.filter_map
    have sorted : ∀ entries : List (String × Unit), Fields.Sorted
        ((Fields.ofEntries entries).filter fun field => !isReserved field.1) :=
      fun entries => List.Pairwise.filter _ (Fields.sorted_ofEntries entries)
    simp only [projection, inDocument, asked, Option.map_some, Projection.only,
      Projection.userFields?, entries, chosen]
    congr 2
    refine Fields.eq_of_get? (sorted _) (sorted _) fun name => ?_
    rw [Fields.get?_filter fun name => !isReserved name,
      Fields.get?_filter fun name => !isReserved name]
    split
    · next plain =>
      exact get?_ofEntries_underDocumentNames (not_mem_idNames (by simpa using plain)) _
    · rfl

end FindQuery

end TwinStore
