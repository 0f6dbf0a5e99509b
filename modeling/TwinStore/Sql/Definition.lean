/-
**Definitions.** The statements that create, change and drop tables and indexes.

* What exists is left alone, and what does not exist is not missed.
* No statement is needed where there is nothing to add or to drop.
-/

import TwinStore.Schema.Table
import TwinStore.Sql.Statement

namespace TwinStore

def ColumnType.keyword : ColumnType → Keyword
  | .text => .text
  | .integer => .bigint
  | .decimal => .numeric
  | .double => .double
  | .boolean => .boolean
  | .timestamp => .timestamp
  | .date => .date
  | .time => .time
  | .binary => .bytes
  | .json => .json

/-- The name of a column type in statements. -/
def ColumnType.sqlName (type : ColumnType) : String := type.keyword.spelling

/-- The statement that lists the tables. -/
def listTables : String :=
  "SELECT table_name::text FROM information_schema.tables " ++
    "WHERE table_schema = current_schema() AND table_type = 'BASE TABLE' ORDER BY table_name"

/-- The column of a name, where a verb needs it. -/
def definedColumn (name : String) : Except StoreError Identifier := liftIdentifier (columnName name)

/-- A column with its type. -/
def Column.definition (column : Column) : Except StoreError Draft := do
  return .name (← definedColumn column.name) ++ .words [.space, column.type.keyword]

/-- The columns that every table has. -/
def systemDefinitions : List Draft :=
  [.name idColumn ++ .words [.space, .text, .space, .primaryKey],
    .name createdColumn ++ .words [.space, .timestamp],
    .name updatedColumn ++ .words [.space, .timestamp]]

/-- An index column with its direction. -/
def indexColumnDraft (name : String) (order : SortOrder) : Except StoreError Draft := do
  return .name (← definedColumn name) ++ .words [.space, order.keyword]

namespace Statement

def createTable (table : Table) : Except StoreError Statement := do
  let definitions ← table.userColumns.mapM Column.definition
  let name ← tableOf table.name
  ofParts
    [.words [.createTable], .name name, .parenthesized (.listed (systemDefinitions ++ definitions))]

/-- Changes a table, unless there is nothing to change. -/
def alterTable (className : String) (changes : List Draft) :
    Except StoreError (Option Statement) := do
  match changes with
  | [] => return none
  | changes =>
    let name ← tableOf className
    return some (← ofParts [.words [.alterTable], .name name, .listed changes])

def addColumns (className : String) (columns : List Column) :
    Except StoreError (Option Statement) := do
  let additions ← (columns.filter fun column => !isReserved column.name).mapM fun column => do
    return Draft.words [.addColumn, .space] ++ (← column.definition)
  alterTable className additions

def dropTable (className : String) : Except StoreError Statement := do
  ofParts [.words [.dropTable], .name (← tableOf className)]

def dropColumns (className : String) (columns : List String) :
    Except StoreError (Option Statement) := do
  let drops ← columns.mapM fun column => do
    return Draft.words [.dropColumn, .space] ++ .name (← definedColumn column)
  alterTable className drops

def createIndex (className : String) (index : TableIndex) : Except StoreError Statement := do
  if index.columns = [] then
    throw (.compile (.operand index.name .indexWithoutColumns))
  let columns ← index.columns.mapM fun (name, order) => indexColumnDraft name order
  let name ← liftIdentifier (Identifier.ofText index.name)
  let table ← tableOf className
  ofParts
    [.words [if index.isUnique then .createUniqueIndex else .createIndex], .name name, .words [.on],
      .name table, .parenthesized (.listed columns)]

def dropIndex (name : String) : Except StoreError Statement := do
  ofParts [.words [.dropIndex], .name (← liftIdentifier (Identifier.ofText name))]

end Statement

end TwinStore
