/-
**Documents do not tell the names of the id apart.** A field is called there as it is in documents,
so what only the name of the id tells apart has the same filter, order, projection and keys.

* `Predicate.filterDocument_inDocument`: the filter, by induction on the predicate.
* `FindQuery.SameDocuments`: two queries have the same documents.
  `FindQuery.sameDocuments_of_inDocument`: two queries do that take the same form.
* `TableIndex.toModel_inDocument` and `unsetDocument_documentField`: keys of an index, and fields
  that are removed.
-/

import TwinStore.Bson.Request
import TwinStore.Proofs.Query.IdNames
import TwinStore.Proofs.Sql.IdNames

namespace TwinStore

open Result

/-! ### Filters -/

/-- What a condition tests for does not quote its field, unless it fails. -/
theorem Condition.criteria_inDocument (test : Condition) :
    SameUpTo CompileError.inDocument test.inDocument.criteria test.criteria := by
  obtain ⟨name, comparison, operand⟩ := test
  cases comparison with
  | oneOf =>
    simp only [criteria, inDocument]
    cases operand.items? with
    | some _ => rfl
    | none => exact congrArg Except.error (CompileError.inDocument_operand name _)
  | present =>
    simp only [criteria, inDocument]
    cases operand.boolean? with
    | some _ => rfl
    | none => exact congrArg Except.error (CompileError.inDocument_operand name _)
  | _ => rfl

theorem Condition.toFilter_inDocument (test : Condition) :
    SameUpTo CompileError.inDocument test.inDocument.toFilter test.toFilter := by
  refine test.criteria_inDocument.bind fun criteria => ?_
  rw [show test.inDocument.field = documentField test.field from rfl, documentField_documentField]

namespace Predicate

mutual

theorem toFilter_inDocument : ∀ predicate : Predicate,
    SameUpTo CompileError.inDocument predicate.inDocument.toFilter predicate.toFilter
  | .condition test => by
    rw [inDocument, toFilter, toFilter]
    exact test.toFilter_inDocument
  | .group _ [] => rfl
  | .group _ [member] => by
    rw [inDocument, inDocuments, inDocuments, toFilter, toFilter]
    exact toFilter_inDocument member
  | .group connective (first :: second :: rest) => by
    have members := toFilters_inDocuments (first :: second :: rest)
    simp only [inDocument, inDocuments, toFilter] at members ⊢
    exact members.bind fun _ => rfl
  | .negation inner => by
    rw [inDocument, toFilter, toFilter]
    exact (toFilter_inDocument inner).bind fun _ => rfl

theorem toFilters_inDocuments : ∀ members : List Predicate,
    SameUpTo CompileError.inDocument (toFilters (inDocuments members)) (toFilters members)
  | [] => rfl
  | member :: rest => by
    rw [inDocuments, toFilters, toFilters]
    exact (toFilter_inDocument member).bind fun _ =>
      (toFilters_inDocuments rest).bind fun _ => rfl

end

/-- **The filter of a predicate** is the same, whatever the predicate calls the id. -/
theorem filterDocument_inDocument (predicate : Option Predicate) :
    SameUpTo CompileError.inDocument (filterDocument (predicate.map inDocument))
      (filterDocument predicate) := by
  cases predicate with
  | none => rfl
  | some predicate => exact toFilter_inDocument predicate

end Predicate

/-! ### Orders, indexes and removals -/

/-- **The order is the same**, whatever its fields call the id. -/
theorem sortDocument_underDocumentNames (sort : SortList) :
    sortDocument (underDocumentNames sort) = sortDocument sort := by
  refine congrArg Document.ofEntries (map_underDocumentNames (fun field order => ?_) sort)
  show (documentField (documentField field), _) = (documentField field, _)
  rw [documentField_documentField]

/-- **An index has the same keys**, whatever its columns call the id. -/
theorem TableIndex.toModel_inDocument (index : TableIndex) :
    index.inDocument.toModel = index.toModel := by
  obtain ⟨name, columns, isUnique⟩ := index
  cases columns with
  | nil => rfl
  | cons first rest =>
    exact congrArg (fun keys => Except.ok (IndexModel.mk keys name isUnique))
      (sortDocument_underDocumentNames (first :: rest))

/-- **The same fields are removed**, whatever they call the id. -/
theorem unsetDocument_documentField (fields : List String) :
    unsetDocument (fields.map documentField) = unsetDocument fields := by
  rw [unsetDocument, unsetDocument, List.map_map]
  simp only [Function.comp_def, documentField_documentField]

/-! ### Queries -/

namespace FindQuery

/-- Two queries have the same filter, unless there is none, the same order and the same
projection. -/
structure SameDocuments (left right : FindQuery) : Prop where
  filter : SameUpTo StoreError.inDocument left.filterDocument right.filterDocument
  order : left.sortDocument? = right.sortDocument?
  projection : left.projectionDocument? = right.projectionDocument?

/-- **A query has the documents of its form.** -/
theorem sameDocuments_inDocument (query : FindQuery) : SameDocuments query.inDocument query where
  filter := by
    rw [filterDocument, filterDocument, predicate?_inDocument]
    exact liftCompile_sameUpTo (Predicate.filterDocument_inDocument query.predicate?)
  order := by
    rw [sortDocument?, sortDocument?,
      show query.inDocument.sort = underDocumentNames query.sort from rfl]
    cases query.sort with
    | nil => rfl
    | cons first rest => exact congrArg some (sortDocument_underDocumentNames (first :: rest))
  projection := by
    simp only [projectionDocument?, Projection.toDocument?, Projection.documentFields?,
      userFields?_inDocument]

theorem sameDocuments_of_inDocument {left right : FindQuery}
    (same : left.inDocument = right.inDocument) : SameDocuments left right := by
  have one := sameDocuments_inDocument left
  have two := sameDocuments_inDocument right
  rw [same] at one
  exact ⟨one.filter.symm.trans two.filter, one.order.symm.trans two.order,
    one.projection.symm.trans two.projection⟩

end FindQuery

end TwinStore
