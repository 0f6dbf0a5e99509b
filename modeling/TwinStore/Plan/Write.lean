/-
**Write plans.** What a verb is going to write, worked out before a store is asked, so that every
store writes the same record.

* `InsertPlan.of` drops the names that the store keeps for itself.
* `UpsertPlan.of` refuses a filter that fixes the id. The record to insert starts from the filter's
  equalities, takes the insert-only fields that no operation touches, then every operation.
-/

import TwinStore.Query.FindQuery
import TwinStore.Update

namespace TwinStore

/-- Which state of a changed record a verb gives back. -/
inductive Returning where
  | before
  | after
  deriving DecidableEq

/-- A record that is about to be written for the first time. -/
structure InsertPlan where
  id : String
  /-- The creation and the stamp of the last change. -/
  now : Instant
  fields : Fields Value

namespace InsertPlan

/-- The plan for the given fields. -/
def of (fields : Fields Value) (id : String) (now : Instant) : InsertPlan :=
  ⟨id, now, fields.filter fun entry => !isReserved entry.1⟩

def toRecord (plan : InsertPlan) (className : String) : Record :=
  ⟨className, some plan.id, some plan.now, some plan.now, plan.fields⟩

end InsertPlan

/-- An update for a match, and the record to insert without one. -/
structure UpsertPlan where
  /-- The stamped update. -/
  update : UpdateSet
  /-- Fields for the insertion only. -/
  setOnInsert : Fields Value
  insert : InsertPlan

namespace UpsertPlan

/-- A name of the id that the filters fix. -/
def pinnedId? (predicate : Option Predicate) : Option String :=
  predicate.bind fun predicate =>
    [idName, documentIdName].find? fun field => predicate.pins field

/-- The fields that no operation touches. -/
def untouched (update : UpdateSet) (fields : Fields Value) : Fields Value :=
  fields.filter fun entry => !update.contains entry.1

/-- The fields of the record to insert. -/
def seed (predicate : Option Predicate) (update : UpdateSet) (setOnInsert : Fields Value) :
    Fields Value :=
  let equalities := (predicate.map Predicate.equalityFields).getD []
  update.applyTo (equalities.overlay (untouched update setOnInsert))

/-- The plan of an upsert. -/
def of (query : FindQuery) (update : UpdateSet) (setOnInsert : Fields Value) (id : String)
    (now : Instant) : Except StoreError UpsertPlan :=
  match pinnedId? query.predicate? with
  | some field => .error (.compile (.operand field .pinnedId))
  | none =>
    let stamped := update.stamped now
    .ok ⟨stamped, setOnInsert, InsertPlan.of (seed query.predicate? stamped setOnInsert) id now⟩

/-- The insert-only fields of the user that no operation touches. -/
def insertOnlyFields (plan : UpsertPlan) : Fields Value :=
  (untouched plan.update plan.setOnInsert).filter fun entry => !isReserved entry.1

end UpsertPlan

end TwinStore
