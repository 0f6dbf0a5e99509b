/-
**Requests in documents.** The filters, documents and options of each verb of a document store.

* A document holds the fields that were written, so nulls in it are values.
* An upsert adds an operator for what only an insertion sets; the store itself adds the filter's
  equalities.
-/

import TwinStore.Bson.Update
import TwinStore.Plan.Write
import TwinStore.Schema.Table

namespace TwinStore

/-- The filter document of a query. -/
def FindQuery.filterDocument (query : FindQuery) : Except StoreError Document :=
  liftCompile (Predicate.filterDocument query.predicate?)

/-- The sort document of a query, if it orders by anything. -/
def FindQuery.sortDocument? (query : FindQuery) : Option Document :=
  match query.sort with
  | [] => none
  | sort => some (sortDocument sort)

/-- The projection document of a query, if it leaves anything out. -/
def FindQuery.projectionDocument? (query : FindQuery) : Option Document :=
  query.projection.toDocument?

/-- The limit as a signed word; what is too large for it is no limit in practice. -/
def FindQuery.signedLimit? (query : FindQuery) : Option Int64 :=
  query.limit.map fun limit => (Word.signed? limit.toNat).getD Int64.maxValue

/-- An instant as a document value, floored to the millisecond. -/
def instantBson (instant : Instant) : Bson := .instant (Int64.ofInt instant.milliseconds)

/-- Values as document values under the names of their document fields. -/
def documentEntries (fields : Fields Value) : Except StoreError (List (String × Bson)) :=
  liftCompile (fields.mapM fun (field, value) => do return (documentField field, ← value.compile))

namespace InsertPlan

def toDocument (plan : InsertPlan) : Except StoreError Document := do
  let stamps :=
    [(documentIdName, .text plan.id), (createdName, instantBson plan.now),
      (updatedName, instantBson plan.now)]
  return Document.ofEntries (stamps ++ (← documentEntries plan.fields))

end InsertPlan

/-- The update document of an update. -/
def UpdateSet.storeDocument (update : UpdateSet) : Except StoreError Document :=
  liftCompile update.toDocument

namespace UpsertPlan

/-- What only an insertion sets: id, creation stamp and the insert-only fields. -/
def insertionDocument (plan : UpsertPlan) : Except StoreError Document := do
  let stamps := [(documentIdName, .text plan.insert.id), (createdName, instantBson plan.insert.now)]
  return Document.ofEntries (stamps ++ (← documentEntries plan.insertOnlyFields))

def toDocument (plan : UpsertPlan) : Except StoreError Document := do
  let update ← plan.update.storeDocument
  return update.insert "$setOnInsert" (.document (← plan.insertionDocument))

end UpsertPlan

/-- The update document that removes fields. -/
def unsetDocument (fields : List String) : Document :=
  Document.single "$unset"
    (.document (Document.ofEntries (fields.map fun field => (documentField field, .text ""))))

/-- An index of a document store. -/
structure IndexModel where
  keys : Document
  name : String
  /-- Set only if the index is unique. -/
  unique : Bool

/-- The index as a document store has it. -/
def TableIndex.toModel (index : TableIndex) : Except StoreError IndexModel :=
  match index.columns with
  | [] => .error (.compile (.operand index.name .indexWithoutColumns))
  | columns => .ok ⟨sortDocument columns, index.name, index.isUnique⟩

/-- The record of a document. -/
def Record.ofDocument (className : String) (document : Document) : Except StoreError Record := do
  let entries ← liftCompile ((Value.entriesOfBson document).mapError .unsupported)
  return Record.materialize className .keep entries

end TwinStore
