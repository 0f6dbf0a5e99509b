/-
**Clauses.** Orders, windows and projections in statements.

* `orderDraft` orders by fields, `Window.draft` cuts a window out, `Projection.draft` lists columns.
* A requested path selects its whole column, and no column is listed twice.
-/

import TwinStore.Query.Selection
import TwinStore.Sql.Field

namespace TwinStore

def SortOrder.keyword : SortOrder → Keyword
  | .ascending => .ascending
  | .descending => .descending

/-- A field to order by. -/
def sortKeyDraft (field : String) (order : SortOrder) : Draft :=
  match FieldReference.ofText field with
  | .ok reference => reference.draft ++ .words [.space, order.keyword]
  | .error error => .fail (.identifier error)

/-- The order of records, nothing if there is no field to order by. -/
def orderDraft (sort : SortList) : Draft :=
  match sort with
  | [] => .nil
  | sort =>
    .words [.orderBy, .space] ++ .listed (sort.map fun (field, order) => sortKeyDraft field order)

/-- A keyword and a number. -/
def boundDraft (keyword : Keyword) (bound : UInt64) : Draft :=
  .ofTokens [.keyword keyword, .keyword .space, .number bound]

/-- The window of records; skipping none is not written. -/
def Window.draft (window : Window) : Draft :=
  let limit := window.limit.map (boundDraft .limit)
  let offset := (window.skip.filter (0 < ·)).map (boundDraft .offset)
  .spaced (limit.toList ++ offset.toList)

/-- What stands before a column of the given table. -/
def qualifierDraft : Option Identifier → Draft
  | some table => .ofTokens [.name table, .keyword .dot]
  | none => .nil

/-- The columns of requested fields, each of them once. -/
def requestedColumns (fields : List String) : Except IdentifierError (List Identifier) := do
  return (← fields.mapM fun field => columnName (fieldHead field)).eraseDups

/-- The requested columns, of the given table if there is one. -/
def Projection.draft (projection : Projection) (table : Option Identifier) : Draft :=
  match projection.columns? with
  | none => qualifierDraft table ++ .words [.star]
  | some fields =>
    match requestedColumns fields with
    | .ok columns => .listed (columns.map fun column => qualifierDraft table ++ .name column)
    | .error error => .fail (.identifier error)

end TwinStore
