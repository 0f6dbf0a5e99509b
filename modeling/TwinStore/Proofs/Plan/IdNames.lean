/-
**Writes do not tell the names of the id apart.** No operation on the id survives the stamping of an
update, whatever it calls the id, so nothing is written under either name.

* `UpdateSet.stamped_eq`: two updates are stamped alike if their changes take the same form.
* `UpsertPlan.of_sameUpTo`: the plans of an upsert are the same, or both are refused.
* `Asking`: whatever is asked of a store under names of fields.
  `Asking.interchangeable`: two askings of the same form have the same outcome in every store.
-/

import TwinStore.Proofs.Bson.IdNames
import TwinStore.Proofs.Sql.IdNames
import TwinStore.Proofs.Update

namespace TwinStore

open Result

/-! ### Updates -/

namespace UpdateSet

theorem mem_fixedNames_of_idNames {name : String} (isId : name ∈ idNames) : name ∈ fixedNames :=
  List.mem_append_left [createdName] isId

/-- **Updates are stamped alike**, whatever they call the id. -/
theorem stamped_eq {changes others : List (String × UpdateOperation)}
    (same : underDocumentNames changes = underDocumentNames others) (now : Instant) :
    stamped (.ofEntries changes) now = stamped (.ofEntries others) now := by
  have sorted : ∀ entries : List (String × UpdateOperation),
      Fields.Sorted (stamped (.ofEntries entries) now) := fun entries =>
    (isStampOf_stamped (Fields.sorted_ofEntries entries) now).sorted
  refine Fields.eq_of_get? (sorted changes) (sorted others) fun name => ?_
  rw [get?_stamped, get?_stamped]
  split
  · rfl
  split
  · rfl
  · next unfixed =>
    -- The name is none of the id's, so it reads the same of the changes and of their form.
    have other : name ∉ idNames := fun isId => unfixed (mem_fixedNames_of_idNames isId)
    rw [← get?_ofEntries_underDocumentNames other changes, same,
      get?_ofEntries_underDocumentNames other others]

end UpdateSet

/-! ### Upserts -/

namespace UpsertPlan

variable {left right : FindQuery}

/-- The fields that the predicates fix are the same. -/
theorem equalityFields_of_inDocument (same : left.inDocument = right.inDocument) :
    (left.predicate?.map Predicate.equalityFields) =
      right.predicate?.map Predicate.equalityFields := by
  have form : ∀ query : FindQuery, query.predicate?.map Predicate.equalityFields =
      query.inDocument.predicate?.map Predicate.equalityFields := by
    intro query
    rw [FindQuery.predicate?_inDocument, Option.map_map]
    refine congrArg (Option.map · query.predicate?) (funext fun predicate => ?_)
    simp only [Function.comp_apply, Predicate.equalityFields, Predicate.equalities_inDocument]
  rw [form left, form right, same]

theorem pinnedId?_of_inDocument (same : left.inDocument = right.inDocument) :
    (pinnedId? left.predicate?).map documentField =
      (pinnedId? right.predicate?).map documentField := by
  rw [← pinnedId?_inDocument, ← pinnedId?_inDocument, ← FindQuery.predicate?_inDocument,
    ← FindQuery.predicate?_inDocument, same]

/-- **The plans of an upsert are the same, or both are refused.** -/
theorem of_sameUpTo (same : left.inDocument = right.inDocument)
    {changes others : List (String × UpdateOperation)}
    (alike : underDocumentNames changes = underDocumentNames others)
    (setOnInsert : Fields Value) (id : String) (now : Instant) :
    SameUpTo StoreError.inDocument (UpsertPlan.of left (.ofEntries changes) setOnInsert id now)
      (UpsertPlan.of right (.ofEntries others) setOnInsert id now) := by
  have pinned := pinnedId?_of_inDocument same
  unfold UpsertPlan.of
  cases leftPinned : pinnedId? left.predicate? with
  | some field =>
    cases rightPinned : pinnedId? right.predicate? with
    | none => simp [leftPinned, rightPinned] at pinned
    | some other =>
      rw [leftPinned, rightPinned] at pinned
      exact congrArg (fun field => Except.error (StoreError.compile (.operand field .pinnedId)))
        (Option.some.inj pinned)
  | none =>
    cases rightPinned : pinnedId? right.predicate? with
    | some other => simp [leftPinned, rightPinned] at pinned
    | none =>
      simp only [seed, UpdateSet.stamped_eq alike, equalityFields_of_inDocument same]
      rfl

end UpsertPlan

/-! ### Everything that is asked -/

/-- Whatever is asked of a store under names of fields. -/
structure Asking where
  query : FindQuery
  /-- The operations of an update, in the order in which they are given. -/
  changes : List (String × UpdateOperation)
  index : TableIndex
  /-- The columns to drop. -/
  dropped : List String

namespace Asking

/-- The asking with the names that its fields have in documents. -/
def inDocument (asking : Asking) : Asking :=
  ⟨asking.query.inDocument, underDocumentNames asking.changes, asking.index.inDocument,
    asking.dropped.map documentField⟩

/-- The update that is sent. -/
def update (asking : Asking) (now : Instant) : UpdateSet :=
  UpdateSet.stamped (.ofEntries asking.changes) now

/-- The plan of an upsert with the asked query and changes. -/
def upsertPlan (asking : Asking) (setOnInsert : Fields Value) (id : String) (now : Instant) :
    Except StoreError UpsertPlan :=
  UpsertPlan.of asking.query (.ofEntries asking.changes) setOnInsert id now

/-- Two askings have the same outcome in every store; only an error may quote the other name. -/
structure Interchangeable (left right : Asking) : Prop where
  /-- Texts and arguments of the clauses, and the statements of every verb. -/
  verbs : Statement.SameVerbs left.query right.query
  /-- The filter, the order and the projection of a document store. -/
  documents : FindQuery.SameDocuments left.query right.query
  stamped : ∀ now, left.update now = right.update now
  /-- No operation on the id survives. -/
  spared : ∀ now, ∀ name ∈ idNames, name ∉ (left.update now).map Prod.fst
  updateStatement : ∀ now returning, SameUpTo StoreError.inDocument
    (Statement.updateOne left.query (left.update now) returning)
    (Statement.updateOne right.query (right.update now) returning)
  setClause : ∀ generator now table,
    Generator.run generator (.setClause (left.update now) table) =
      Generator.run generator (.setClause (right.update now) table)
  updateDocument : ∀ now, (left.update now).storeDocument = (right.update now).storeDocument
  /-- An upsert is refused for both or for none. -/
  refused : (∃ field, UpsertPlan.pinnedId? left.query.predicate? = some field) ↔
    ∃ field, UpsertPlan.pinnedId? right.query.predicate? = some field
  plan : ∀ setOnInsert id now, SameUpTo StoreError.inDocument
    (left.upsertPlan setOnInsert id now) (right.upsertPlan setOnInsert id now)
  upsertDocument : ∀ setOnInsert id now, SameUpTo StoreError.inDocument
    (left.upsertPlan setOnInsert id now >>= UpsertPlan.toDocument)
    (right.upsertPlan setOnInsert id now >>= UpsertPlan.toDocument)
  indexStatement : ∀ className,
    Statement.createIndex className left.index = Statement.createIndex className right.index
  indexModel : left.index.toModel = right.index.toModel
  dropStatement : ∀ className,
    Statement.dropColumns className left.dropped = Statement.dropColumns className right.dropped
  unsetDocument : unsetDocument left.dropped = unsetDocument right.dropped

variable {left right : Asking}

/-- **The names of the id are interchangeable everywhere.** Askings that take the same form, so that
one of them says `id` where the other one may say `_id`, have the same outcome. -/
theorem interchangeable (same : left.inDocument = right.inDocument) :
    Interchangeable left right := by
  obtain ⟨query, changes, index, dropped⟩ := Asking.mk.inj same
  have verbs := Statement.sameVerbs_of_inDocument query
  have stamped := UpdateSet.stamped_eq changes
  have plan := UpsertPlan.of_sameUpTo query changes
  have pinned := UpsertPlan.pinnedId?_of_inDocument query
  refine
    { verbs, stamped, plan
      documents := FindQuery.sameDocuments_of_inDocument query
      spared := fun now name isId survives => ?_
      updateStatement := fun now returning => ?_
      setClause := fun generator now table => ?_
      updateDocument := fun now => congrArg UpdateSet.storeDocument (stamped now)
      refused := ?_
      upsertDocument := fun setOnInsert id now => (plan setOnInsert id now).bind fun _ => rfl
      indexStatement := fun className => ?_
      indexModel := ?_
      dropStatement := fun className => ?_
      unsetDocument := ?_ }
  · have stamp := UpdateSet.isStampOf_stamped (Fields.sorted_ofEntries left.changes) now
    exact stamp.not_fixed survives (UpdateSet.mem_fixedNames_of_idNames isId)
  · rw [show left.update now = right.update now from stamped now]
    exact verbs.updateOne (right.update now) returning
  · rw [show left.update now = right.update now from stamped now]
  · have isSome := congrArg Option.isSome pinned
    rwa [Option.isSome_map, Option.isSome_map, Bool.eq_iff_iff, Option.isSome_iff_exists,
      Option.isSome_iff_exists] at isSome
  · rw [← Statement.createIndex_inDocument, index, Statement.createIndex_inDocument]
  · rw [← TableIndex.toModel_inDocument, index, TableIndex.toModel_inDocument]
  · rw [← Statement.dropColumns_documentField, dropped, Statement.dropColumns_documentField]
  · rw [← unsetDocument_documentField, dropped, unsetDocument_documentField]

/-- People of an id and a name, called by one or the other name of the id. -/
def sample (name other : String) : Asking where
  query :=
    { className := some "Person"
      filters := [.condition ⟨name, .greater, .text "a"⟩, .condition ⟨"name", .equal, .text "John"⟩]
      sort := [("age", .descending), (other, .ascending)]
      skip := none
      limit := none
      includes := some ["name", name] }
  changes := [(name, .set (.text "b")), ("age", .increment (.signed 5)), (other, .popLast)]
  index := ⟨"people", [(name, .ascending), ("age", .descending)], true⟩
  dropped := [other, "age"]

theorem interchangeable_sample :
    (sample idName documentIdName).inDocument = (sample documentIdName idName).inDocument ∧
      Interchangeable (sample idName documentIdName) (sample documentIdName idName) :=
  have same : (sample idName documentIdName).inDocument =
      (sample documentIdName idName).inDocument := rfl
  ⟨same, interchangeable same⟩

end Asking

end TwinStore
