/-
**Rows.** What a PostgreSQL server gives back, and what the arguments of a statement are sent as.

* `Row.toRecord` reads a row as a record; a null says that nothing was written.
* `Cell.read` reads a cell by the type of its column. A column of a type that no value corresponds
  to fails whatever the cell holds.
* `argumentCell` is the type and the content that an argument is sent with.
-/

import TwinStore.Record
import TwinStore.Sql.Token
import TwinStore.StoreError

namespace TwinStore.Postgres

/-- The content of a cell. -/
inductive Cell where
  | null
  | boolean (value : Bool)
  | integer (value : Int64)
  | float (value : Binary64)
  | numeric (value : Decimal)
  /-- A numeric that is no number. -/
  | notANumber
  | text (value : String)
  | instant (value : Instant)
  | date (value : Date)
  | time (value : TimeOfDay)
  | binary (bytes : List UInt8)
  | json (document : Json)

/-- The kinds of cells. -/
inductive CellKind where
  | boolean
  | integer
  | float
  | numeric
  | text
  | instant
  | date
  | time
  | binary
  | json
  deriving DecidableEq

/-- The kind of the cells of a column type, if values correspond to it. -/
def cellKind? (type : String) : Option CellKind :=
  if type = "BOOL" then some .boolean
  else if type ∈ ["INT2", "INT4", "INT8"] then some .integer
  else if type ∈ ["FLOAT4", "FLOAT8"] then some .float
  else if type = "NUMERIC" then some .numeric
  else if type ∈ ["TEXT", "VARCHAR", "BPCHAR", "NAME"] then some .text
  else if type ∈ ["TIMESTAMPTZ", "TIMESTAMP"] then some .instant
  else if type = "DATE" then some .date
  else if type = "TIME" then some .time
  else if type = "BYTEA" then some .binary
  else if type ∈ ["JSON", "JSONB"] then some .json
  else none

/-- A column of a result with the name of its type. -/
structure ResultColumn where
  name : String
  type : String
  deriving DecidableEq

/-- A row: a cell for each column. -/
structure Row where
  columns : List ResultColumn
  cells : List Cell

/-! ### Reading -/

/-- The value of a cell that is not null and of a kind, its instant floored to the millisecond. -/
def Cell.value? (kind : CellKind) (cell : Cell) : Option Value :=
  match kind, cell with
  | .boolean, .boolean value => some (.boolean value)
  | .integer, .integer value => some (.number (.signed value))
  | .float, .float value => some (.number (.float value))
  | .numeric, .numeric value => some (.number (.decimal value))
  | .text, .text value => some (.text value)
  | .instant, .instant value => some (.ofInstant value)
  | .date, .date value => some (.date value)
  | .time, .time value => some (.time value)
  | .binary, .binary bytes => some (.binary bytes)
  | .json, .json document => some (Value.ofJson document).ofColumnForm
  | _, _ => none

/-- Reads a cell of a column. -/
def Cell.read (column : ResultColumn) (cell : Cell) : Except StoreError Value :=
  match cellKind? column.type with
  | none => .error (.compile (.unsupported (.columnType column.name column.type)))
  | some kind =>
    match cell with
    | .null => .ok .null
    | cell =>
      match cell.value? kind with
      | some value => .ok value
      | none => .error (.postgres .unreadableCell)

namespace Row

def toRecord (className : String) (row : Row) : Except StoreError Record := do
  let entries ← (row.columns.zip row.cells).mapM fun (column, cell) => do
    return (column.name, ← cell.read column)
  return Record.materialize className .skip entries

/-- The number in the first column; a negative one counts as zero. -/
def count (row : Row) : Except StoreError UInt64 :=
  match row.columns, row.cells with
  | column :: _, .integer value :: _ =>
    if column.type = "INT8" then .ok (UInt64.ofNat value.toInt.toNat)
    else .error (.postgres .columnMismatch)
  | _, _ => .error (.postgres .columnMismatch)

def text (row : Row) : Except StoreError String :=
  match row.columns, row.cells with
  | column :: _, .text value :: _ =>
    if cellKind? column.type = some .text then .ok value
    else .error (.postgres .columnMismatch)
  | _, _ => .error (.postgres .columnMismatch)

end Row

/-! ### Arguments -/

/-- The type and the content that a value of a column's own type is sent with. There is no unsigned
type, so an unsigned number is sent as a numeric. -/
def valueCell : Value → String × Cell
  | .null => ("TEXT", .null)
  | .boolean value => ("BOOL", .boolean value)
  | .text value => ("TEXT", .text value)
  | .number (.signed value) => ("INT8", .integer value)
  | .number (.unsigned value) => ("NUMERIC", .numeric (.ofInt value.toNat))
  | .number (.float value) => ("FLOAT8", .float value)
  | .number (.decimal value) => ("NUMERIC", .numeric value)
  | .instant value => ("TIMESTAMPTZ", .instant value)
  | .date value => ("DATE", .date value)
  | .time value => ("TIME", .time value)
  | .binary bytes => ("BYTEA", .binary bytes)
  | value => ("JSONB", .json value.toJson)

/-- The type and the content that an argument is sent with. -/
def argumentCell : Argument → String × Cell
  | .typed value => valueCell value
  | .json document => ("JSONB", .json document)

end TwinStore.Postgres
