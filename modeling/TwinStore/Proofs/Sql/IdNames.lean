/-
**Statements do not tell the names of the id apart.** The column of the id is the same under both of
its names, so a statement is, and only an error that quotes a field shows which name was said.

* `Draft.inDocument` changes the name that a draft's fault quotes; it can be done part by part.
* `Predicate.draft_inDocument`: the condition of a predicate, by induction.
* `Statement.SameVerbs`: two queries have the same clauses and statements, whatever is updated.
  `Statement.sameVerbs_of_inDocument`: two queries do that take the same form.
* `Statement.createIndex_inDocument` and `Statement.dropColumns_documentField`: definitions are the
  same altogether.
-/

import TwinStore.Proofs.Query.IdNames
import TwinStore.Proofs.Sql.Renumbering
import TwinStore.Sql.Definition
import TwinStore.Sql.Generator

namespace TwinStore

open Result

/-! ### Drafts -/

namespace Draft

/-- The draft with the name that the field in its fault has in documents. -/
def inDocument (draft : Draft) : Draft :=
  ⟨draft.tokens, draft.fault.map CompileError.inDocument⟩

@[simp] theorem inDocument_words (keywords : List Keyword) :
    (words keywords).inDocument = words keywords := rfl

@[simp] theorem inDocument_append (left right : Draft) :
    (left ++ right).inDocument = left.inDocument ++ right.inDocument := by
  obtain ⟨tokens, fault⟩ := left
  cases fault <;> rfl

@[simp] theorem inDocument_joined (separator : Keyword) (drafts : List Draft) :
    (joined separator drafts).inDocument = joined separator (drafts.map inDocument) := by
  induction drafts with
  | nil => rfl
  | cons draft rest step =>
    cases rest with
    | nil => rfl
    | cons second others =>
      show (draft ++ words [separator] ++ joined separator (second :: others)).inDocument = _
      rw [inDocument_append, inDocument_append, step]
      rfl

@[simp] theorem inDocument_parenthesized (draft : Draft) :
    draft.parenthesized.inDocument = draft.inDocument.parenthesized := by
  simp only [parenthesized, inDocument_append, inDocument_words]

theorem isBlank_inDocument (draft : Draft) : draft.inDocument.isBlank = draft.isBlank := by
  rw [isBlank, isBlank, inDocument, Option.isNone_map]

@[simp] theorem inDocument_spaced (drafts : List Draft) :
    (spaced drafts).inDocument = spaced (drafts.map inDocument) := by
  rw [spaced, inDocument_joined, spaced, List.filter_map]
  congr 3
  funext draft
  simp only [Function.comp_apply, isBlank_inDocument]

theorem finish_inDocument (draft : Draft) :
    draft.inDocument.finish = draft.finish.mapError CompileError.inDocument := by
  obtain ⟨tokens, fault⟩ := draft
  cases fault <;> rfl

variable {left right : Draft}

theorem finish_sameUpTo (same : left.inDocument = right.inDocument) :
    SameUpTo CompileError.inDocument left.finish right.finish := by
  rw [SameUpTo, ← finish_inDocument, ← finish_inDocument, same]

theorem tokens_eq_of_inDocument (same : left.inDocument = right.inDocument) :
    left.tokens = right.tokens := by
  show left.inDocument.tokens = right.inDocument.tokens
  rw [same]

end Draft

open Draft

/-! ### Filters, orders and projections -/

theorem FieldReference.test_inDocument (field : FieldReference) (test : Condition) :
    (field.test test.inDocument).inDocument = (field.test test).inDocument := by
  obtain ⟨name, comparison, operand⟩ := test
  have quoted : ∀ fault : OperandFault,
      (fail (.operand (documentField name) fault)).inDocument =
        (fail (.operand name fault)).inDocument := fun fault =>
    congrArg fail (CompileError.inDocument_operand name fault)
  -- Only what a membership or a presence may fail for quotes the field.
  cases comparison with
  | oneOf =>
    simp only [FieldReference.test, Condition.inDocument]
    cases operand.items? with
    | some _ => rfl
    | none => exact quoted .membershipWithoutArray
  | present =>
    simp only [FieldReference.test, Condition.inDocument]
    cases operand.boolean? with
    | some _ => rfl
    | none => exact quoted .presenceWithoutBoolean
  | _ => rfl

theorem Condition.draft_inDocument (test : Condition) :
    test.inDocument.draft.inDocument = test.draft.inDocument := by
  unfold Condition.draft
  rw [show test.inDocument.field = documentField test.field from rfl,
    FieldReference.ofText_documentField]
  split
  · next field _ => exact field.test_inDocument test
  · rfl

namespace Predicate

mutual

/-- **The condition of a predicate** is the same, whatever the predicate calls the id. -/
theorem draft_inDocument : ∀ predicate : Predicate,
    predicate.inDocument.draft.inDocument = predicate.draft.inDocument
  | .condition test => by
    rw [inDocument, draft, draft]
    exact test.draft_inDocument
  | .group _ [] => rfl
  | .group _ [member] => by
    rw [inDocument, inDocuments, inDocuments, draft, draft]
    exact draft_inDocument member
  | .group connective (first :: second :: rest) => by
    have members := drafts_inDocuments (first :: second :: rest)
    simp only [inDocument, inDocuments, draft_group, inDocument_parenthesized,
      inDocument_joined] at members ⊢
    rw [members]
  | .negation inner => by
    simp only [inDocument, draft, inDocument_append, inDocument_words, draft_inDocument inner]

theorem drafts_inDocuments : ∀ members : List Predicate,
    (drafts (inDocuments members)).map Draft.inDocument = (drafts members).map Draft.inDocument
  | [] => rfl
  | member :: rest => by
    rw [inDocuments, drafts, drafts, List.map_cons, List.map_cons, draft_inDocument member,
      drafts_inDocuments rest]

end

theorem whereDraft_inDocument (predicate : Option Predicate) :
    (whereDraft (predicate.map inDocument)).inDocument = (whereDraft predicate).inDocument := by
  cases predicate with
  | none => rfl
  | some predicate =>
    simp only [Option.map_some, whereDraft, inDocument_append, draft_inDocument]

end Predicate

theorem sortKeyDraft_documentField (field : String) (order : SortOrder) :
    sortKeyDraft (documentField field) order = sortKeyDraft field order := by
  rw [sortKeyDraft, sortKeyDraft, FieldReference.ofText_documentField]

/-- **The order is the same**, whatever its fields call the id. -/
theorem orderDraft_underDocumentNames (sort : SortList) :
    orderDraft (underDocumentNames sort) = orderDraft sort := by
  cases sort with
  | nil => rfl
  | cons first rest =>
    have keys : (underDocumentNames (first :: rest)).map (fun key => sortKeyDraft key.1 key.2) =
        (first :: rest).map fun key => sortKeyDraft key.1 key.2 :=
      map_underDocumentNames sortKeyDraft_documentField (first :: rest)
    exact congrArg (fun keys => words [.orderBy, .space] ++ listed keys) keys

namespace FindQuery

variable {left right : FindQuery}

theorem whereDraft_inDocument (query : FindQuery) :
    query.inDocument.whereDraft.inDocument = query.whereDraft.inDocument := by
  rw [whereDraft, whereDraft, predicate?_inDocument, Predicate.whereDraft_inDocument]

theorem orderDraft_inDocument (query : FindQuery) :
    orderDraft query.inDocument.sort = orderDraft query.sort :=
  orderDraft_underDocumentNames query.sort

theorem projectionDraft_inDocument (query : FindQuery) (table : Option Identifier) :
    query.inDocument.projection.draft table = query.projection.draft table := by
  rw [Projection.draft, Projection.draft, Projection.columns?, Projection.columns?,
    userFields?_inDocument]

end FindQuery

/-! ### Statements -/

namespace Statement

theorem ofParts_sameUpTo {parts others : List Draft}
    (same : parts.map Draft.inDocument = others.map Draft.inDocument) :
    SameUpTo StoreError.inDocument (ofParts parts) (ofParts others) := by
  refine (liftCompile_sameUpTo (finish_sameUpTo ?_)).map Statement.mk
  rw [inDocument_spaced, inDocument_spaced, same]

/-- Two queries have the same clauses, which bind the same arguments behind any others, and the same
statements. -/
structure SameVerbs (left right : FindQuery) : Prop where
  filterArguments : ∀ generator : Generator,
    (generator.run (.whereClause left.predicate?)).1 =
      (generator.run (.whereClause right.predicate?)).1
  filterText : ∀ generator : Generator,
    SameUpTo CompileError.inDocument (generator.run (.whereClause left.predicate?)).2
      (generator.run (.whereClause right.predicate?)).2
  order : orderDraft left.sort = orderDraft right.sort
  columns : ∀ table, left.projection.draft table = right.projection.draft table
  count : SameUpTo StoreError.inDocument (count left) (count right)
  select : SameUpTo StoreError.inDocument (select left) (select right)
  updateOne : ∀ update returning, SameUpTo StoreError.inDocument
    (updateOne left update returning) (updateOne right update returning)
  deleteOne : SameUpTo StoreError.inDocument (deleteOne left) (deleteOne right)
  deleteAll : SameUpTo StoreError.inDocument (deleteAll left) (deleteAll right)

namespace SameVerbs

variable {left middle right : FindQuery}

theorem symm (same : SameVerbs left right) : SameVerbs right left where
  filterArguments generator := (same.filterArguments generator).symm
  filterText generator := (same.filterText generator).symm
  order := same.order.symm
  columns table := (same.columns table).symm
  count := same.count.symm
  select := same.select.symm
  updateOne update returning := (same.updateOne update returning).symm
  deleteOne := same.deleteOne.symm
  deleteAll := same.deleteAll.symm

theorem trans (one : SameVerbs left middle) (two : SameVerbs middle right) :
    SameVerbs left right where
  filterArguments generator := (one.filterArguments generator).trans (two.filterArguments generator)
  filterText generator := (one.filterText generator).trans (two.filterText generator)
  order := one.order.trans two.order
  columns table := (one.columns table).trans (two.columns table)
  count := one.count.trans two.count
  select := one.select.trans two.select
  updateOne update returning :=
    (one.updateOne update returning).trans (two.updateOne update returning)
  deleteOne := one.deleteOne.trans two.deleteOne
  deleteAll := one.deleteAll.trans two.deleteAll

end SameVerbs

theorem firstMatch_inDocument (query : FindQuery) (table : Identifier) (columns : Draft) :
    (firstMatch query.inDocument table columns).inDocument =
      (firstMatch query table columns).inDocument := by
  simp only [firstMatch, inDocument_parenthesized, inDocument_spaced, List.map_cons, List.map_nil,
    query.whereDraft_inDocument, query.orderDraft_inDocument]

/-- **A query has the statements of its form.** -/
theorem sameVerbs_inDocument (query : FindQuery) : SameVerbs query.inDocument query := by
  have clause : (GeneratorCall.whereClause query.inDocument.predicate?).draft.inDocument =
      (GeneratorCall.whereClause query.predicate?).draft.inDocument :=
    query.whereDraft_inDocument
  have columns := query.projectionDraft_inDocument
  have order := query.orderDraft_inDocument
  -- The table and the window are those of the query itself; the parts follow one by one.
  refine ⟨fun generator => ?_, fun generator => ?_, order, columns, ?_, ?_, ?_, ?_, ?_⟩
  · simp only [Generator.run, tokens_eq_of_inDocument clause]
  · exact (finish_sameUpTo clause).map _
  · exact SameUpTo.bind rfl fun table =>
      ofParts_sameUpTo (by simp only [List.map_cons, List.map_nil, query.whereDraft_inDocument])
  · exact SameUpTo.bind rfl fun table => ofParts_sameUpTo (by
      simp only [List.map_cons, List.map_nil, query.whereDraft_inDocument, columns, order]
      rfl)
  · exact fun update returning => SameUpTo.bind rfl fun table =>
      ofParts_sameUpTo (by simp only [List.map_cons, List.map_nil, firstMatch_inDocument, columns])
  · exact SameUpTo.bind rfl fun table => ofParts_sameUpTo (by
      simp only [List.map_cons, List.map_nil, inDocument_append, firstMatch_inDocument, columns])
  · exact SameUpTo.bind rfl fun table =>
      ofParts_sameUpTo (by simp only [List.map_cons, List.map_nil, query.whereDraft_inDocument])

theorem sameVerbs_of_inDocument {left right : FindQuery}
    (same : left.inDocument = right.inDocument) : SameVerbs left right :=
  (sameVerbs_inDocument left).symm.trans (same ▸ sameVerbs_inDocument right)

end Statement

/-! ### Definitions -/

/-- The index with the names that its columns have in documents. -/
def TableIndex.inDocument (index : TableIndex) : TableIndex :=
  { index with columns := underDocumentNames index.columns }

theorem TableIndex.columns_inDocument_eq_nil {index : TableIndex} :
    index.inDocument.columns = [] ↔ index.columns = [] :=
  List.map_eq_nil_iff

theorem definedColumn_documentField (name : String) :
    definedColumn (documentField name) = definedColumn name := by
  rw [definedColumn, definedColumn, columnName_documentField]

namespace Statement

/-- **An index is created by one statement**, whatever it calls the id. -/
theorem createIndex_inDocument (className : String) (index : TableIndex) :
    createIndex className index.inDocument = createIndex className index := by
  have column : ∀ name order,
      indexColumnDraft (documentField name) order = indexColumnDraft name order := by
    intro name order
    unfold indexColumnDraft
    rw [definedColumn_documentField]
  have columns : (index.inDocument.columns.mapM fun entry => indexColumnDraft entry.1 entry.2) =
      index.columns.mapM fun entry => indexColumnDraft entry.1 entry.2 := by
    rw [TableIndex.inDocument, underDocumentNames, List.mapM_map]
    exact congrArg (List.mapM · index.columns) (funext fun entry => column entry.1 entry.2)
  unfold createIndex
  rw [columns]
  simp only [TableIndex.columns_inDocument_eq_nil]
  rfl

/-- **Columns are dropped by one statement**, whatever they call the id. -/
theorem dropColumns_documentField (className : String) (columns : List String) :
    dropColumns className (columns.map documentField) = dropColumns className columns := by
  rw [dropColumns, dropColumns, List.mapM_map]
  simp only [Function.comp_def, definedColumn_documentField]

end Statement

end TwinStore
