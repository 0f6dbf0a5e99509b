/-
**Statements.** The statement of each verb, with its arguments.

* `Statement.sql` is its text, `Statement.arguments` are its arguments in the order of their
  numbers.
* A find-and-modify statement picks and locks the first match in a subquery. An update joins the
  locked copy under a name of its own, so that the record can be given back as it was before.
-/

import TwinStore.Plan.Write
import TwinStore.Sql.Assignment
import TwinStore.Sql.Clause
import TwinStore.Sql.Filter

namespace TwinStore

/-- A statement. -/
structure Statement where
  tokens : List Token

namespace Statement

def sql (statement : Statement) : String := Token.render 0 statement.tokens

def arguments (statement : Statement) : List Argument := Token.arguments statement.tokens

/-- The statement that parts separated by blanks form. -/
def ofParts (parts : List Draft) : Except StoreError Statement :=
  (liftCompile (Draft.spaced parts).finish).map Statement.mk

end Statement

/-- The table of a class. -/
def tableOf (className : String) : Except StoreError Identifier :=
  liftIdentifier (Identifier.ofText className)

/-- The table of a query's class. -/
def FindQuery.table (query : FindQuery) : Except StoreError Identifier := do
  tableOf (← query.requireClass)

/-- The filter of a query. -/
def FindQuery.whereDraft (query : FindQuery) : Draft := Predicate.whereDraft query.predicate?

/-- The name of the locked copy of a record that is being updated. -/
def oldRow : Identifier := ⟨"__old__", by decide⟩

namespace Statement

def count (query : FindQuery) : Except StoreError Statement := do
  let table ← query.table
  ofParts [.words [.select], .words [.count], .words [.from], .name table, query.whereDraft]

def select (query : FindQuery) : Except StoreError Statement := do
  let table ← query.table
  ofParts
    [.words [.select], query.projection.draft none, .words [.from], .name table, query.whereDraft,
      orderDraft query.sort, query.window.draft]

/-- The first match, locked. -/
def firstMatch (query : FindQuery) (table : Identifier) (columns : Draft) : Draft :=
  .parenthesized
    (.spaced
      [.words [.select], columns, .words [.from], .name table, query.whereDraft,
        orderDraft query.sort, .words [.limitOneForUpdate]])

def updateOne (query : FindQuery) (update : UpdateSet) (returning : Returning) :
    Except StoreError Statement := do
  let table ← query.table
  let snapshot := match returning with
    | .before => oldRow
    | .after => table
  ofParts
    [.words [.update], .name table, .words [.set], update.draft table, .words [.from],
      firstMatch query table (.words [.star]), .words [.as], .name oldRow, .words [.where],
      columnOf table idColumn ++ .words [.equals] ++ columnOf oldRow idColumn,
      .words [.returning], query.projection.draft (some snapshot)]

def deleteOne (query : FindQuery) : Except StoreError Statement := do
  let table ← query.table
  ofParts
    [.words [.deleteFrom], .name table, .words [.where],
      .name idColumn ++ .words [.membership] ++ firstMatch query table (.name idColumn),
      .words [.returning], query.projection.draft none]

def deleteAll (query : FindQuery) : Except StoreError Statement := do
  let table ← query.table
  ofParts [.words [.deleteFrom], .name table, query.whereDraft]

/-- The values of a new record, its id and stamps first. Null says that nothing is written. -/
def insertEntries (plan : InsertPlan) : List (String × Value) :=
  [(idName, .text plan.id), (createdName, .ofInstant plan.now), (updatedName, .ofInstant plan.now)]
    ++ plan.fields.filter fun entry => !entry.2.isNull

def insert (className : String) (plan : InsertPlan) : Except StoreError Statement := do
  let table ← tableOf className
  let entries := insertEntries plan
  ofParts
    [.words [.insertInto], .name table,
      .parenthesized (.listed (entries.map fun entry =>
        .withIdentifier (columnName entry.1) Draft.name)),
      .words [.values],
      .parenthesized (.listed (entries.map fun entry => columnArgument entry.2)),
      .words [.returningAll]]

end Statement

end TwinStore
