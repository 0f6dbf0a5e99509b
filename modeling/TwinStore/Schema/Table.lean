/-
**Tables.** Descriptions of tables: their columns and indexes. Every table has columns for the id
and the two stamps besides; they are never listed.

* `Table.ofJson?` and `Table.toJson` are the JSON form; parts that may be missing are empty then.
* `Table.userColumns` are the listed columns without those every table has.
-/

import TwinStore.Json.Basic
import TwinStore.Fields
import TwinStore.Query.Selection

namespace TwinStore

/-- The types of columns. -/
inductive ColumnType where
  | text
  | integer
  | decimal
  | double
  | boolean
  | timestamp
  | date
  | time
  | binary
  /-- Arrays and objects. -/
  | json
  deriving DecidableEq

namespace ColumnType

def all : List ColumnType :=
  [.text, .integer, .decimal, .double, .boolean, .timestamp, .date, .time, .binary, .json]

def name : ColumnType → String
  | .text => "string"
  | .integer => "integer"
  | .decimal => "decimal"
  | .double => "double"
  | .boolean => "boolean"
  | .timestamp => "timestamp"
  | .date => "date"
  | .time => "time"
  | .binary => "binary"
  | .json => "json"

def ofName? (name : String) : Option ColumnType := all.find? fun type => type.name == name

/-- A name belongs to its column type. -/
@[simp] theorem ofName?_name (type : ColumnType) : ofName? type.name = some type := by
  cases type <;> decide

end ColumnType

/-- A column. -/
structure Column where
  name : String
  type : ColumnType
  deriving DecidableEq

/-- An index. -/
structure TableIndex where
  name : String
  columns : List (String × SortOrder)
  isUnique : Bool
  deriving DecidableEq

/-- A table. -/
structure Table where
  name : String
  columns : List Column
  indexes : List TableIndex
  deriving DecidableEq

/-- The listed columns without those every table has. -/
def Table.userColumns (table : Table) : List Column :=
  table.columns.filter fun column => !isReserved column.name

/-! ### JSON form -/

namespace Json

def text? : Json → Option String
  | .text value => some value
  | _ => none

/-- The truth value that a document is. -/
def boolean? : Json → Option Bool
  | .boolean value => some value
  | _ => none

def items? : Json → Option (List Json)
  | .array items => some items
  | _ => none

end Json

/-- The name that a document gives: a text, or an object of one entry that is null. -/
def Json.variantName? : Json → Option String
  | .text name => some name
  | .object [(name, .null)] => some name
  | _ => none

/-- The parts of a structure: the entries of the given names, or the items of an array of at most as
many. -/
def Json.parts? (names : List String) : Json → Option (List (Option Json))
  | .object fields => some (names.map fun name => Fields.get? fields name)
  | .array items =>
    if items.length ≤ names.length then
      some (items.map some ++ List.replicate (names.length - items.length) none)
    else none
  | _ => none

/-- The items of a part, none if it is missing; fails if it is no array. -/
def Json.optionalItems? : Option Json → Option (List Json)
  | none => some []
  | some document => document.items?

/-- The column type of a JSON document. -/
def ColumnType.ofJson? (document : Json) : Option ColumnType :=
  document.variantName?.bind ofName?

def Column.ofJson? (document : Json) : Option Column := do
  match ← document.parts? ["name", "column_type"] with
  | [some name, some type] => return ⟨← name.text?, ← ColumnType.ofJson? type⟩
  | _ => none

def SortOrder.ofName? (name : String) : Option SortOrder :=
  if name = "asc" then some .ascending else if name = "desc" then some .descending else none

def SortOrder.name : SortOrder → String
  | .ascending => "asc"
  | .descending => "desc"

/-- An index column: its name and direction. -/
def indexColumnOfJson? (document : Json) : Option (String × SortOrder) := do
  match ← document.items? with
  | [name, order] => return (← name.text?, ← order.variantName?.bind SortOrder.ofName?)
  | _ => none

def TableIndex.ofJson? (document : Json) : Option TableIndex := do
  match ← document.parts? ["name", "columns", "is_unique"] with
  | [some name, some columns, isUnique] =>
    return {
      name := ← name.text?
      columns := ← (← columns.items?).mapM indexColumnOfJson?
      isUnique := ← (isUnique.map Json.boolean?).getD (some false) }
  | _ => none

def Table.ofJson? (document : Json) : Option Table := do
  match ← document.parts? ["name", "columns", "indexes"] with
  | [some name, columns, indexes] =>
    return {
      name := ← name.text?
      columns := ← (← Json.optionalItems? columns).mapM Column.ofJson?
      indexes := ← (← Json.optionalItems? indexes).mapM TableIndex.ofJson? }
  | _ => none

def Column.toJson (column : Column) : Json :=
  .object [("name", .text column.name), ("column_type", .text column.type.name)]

def TableIndex.toJson (index : TableIndex) : Json :=
  .object
    [("name", .text index.name),
      ("columns", .array (index.columns.map fun (name, order) =>
        .array [.text name, .text order.name])),
      ("is_unique", .boolean index.isUnique)]

def Table.toJson (table : Table) : Json :=
  .object
    [("name", .text table.name),
      ("columns", .array (table.columns.map Column.toJson)),
      ("indexes", .array (table.indexes.map TableIndex.toJson))]

end TwinStore
