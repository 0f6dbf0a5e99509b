/-
**Assignments.** Updates as the assignments of a statement. Where an operation needs the field as it
is, the column is read from the row that is being updated.

* `UpdateSet.draft` writes one assignment per operation, in the order of the fields.
-/

import TwinStore.Sql.Draft
import TwinStore.Predicate
import TwinStore.Update

namespace TwinStore

/-- A column of a table. -/
def columnOf (table column : Identifier) : Draft :=
  .ofTokens [.name table, .keyword .dot, .name column]

/-- An argument for a column. -/
def columnArgument (value : Value) : Draft := .argument (.ofColumn value)

/-- An argument that is combined with a JSON document. -/
def nestedArgument (value : Value) : Draft := .argument (.ofNested value) ++ .words [.jsonCast]

/-- The items of an array column that are none of the removed ones, in their order. -/
def removalDraft (current : Draft) (removed : Value) : Draft :=
  .words [.removalWhen] ++ current ++ .words [.removalItems] ++ current ++
    .words [.removalWithout] ++ nestedArgument removed ++ .words [.removalEnd]

/-- A function of the current value and an argument. -/
def extremumDraft (function : Keyword) (current : Draft) (value : Value) : Draft :=
  .words [function] ++ current ++ .words [.comma] ++ columnArgument value ++
    .words [.rightParenthesis]

/-- The current number, zero if there is none, with a sign behind it and an amount. -/
def arithmeticDraft (current : Draft) (sign : List Keyword) (amount : Number) : Draft :=
  .words [.coalesce] ++ current ++ .words (.orZero :: sign) ++ .argument (.typed (.number amount))

/-- The new value of a column. -/
def UpdateOperation.draft (field : String) (current : Draft) : UpdateOperation → Draft
  | .set .null => .words [.null]
  | .set value => columnArgument value
  | .increment amount => arithmeticDraft current [.plus] amount
  | .multiply factor => arithmeticDraft current [.space, .star, .space] factor
  | .max value => extremumDraft .greatest current value
  | .min value => extremumDraft .least current value
  | .push value =>
    .words [.coalesce] ++ current ++ .words [.orEmptyArray, .concatenate, .buildArray] ++
      nestedArgument value ++ .words [.rightParenthesis]
  | .removeAll removed =>
    match removed.items? with
    | some _ => removalDraft current removed
    | none => .fail (.operand field .removalWithoutArray)
  | .popFirst => current ++ .words [.dropFirst]
  | .popLast => current ++ .words [.dropLast]

/-- The assignment of one operation. A field inside a column has no column of its own. -/
def assignmentDraft (table : Identifier) (field : String) (operation : UpdateOperation) : Draft :=
  if isDotted field then .fail (.operand field .nestedUpdate)
  else
    .withIdentifier (columnName field) fun column =>
      .name column ++ .words [.equals] ++ operation.draft field (columnOf table column)

/-- The assignments of an update, which read current values from the given table. -/
def UpdateSet.draft (update : UpdateSet) (table : Identifier) : Draft :=
  .listed (update.map fun (field, operation) => assignmentDraft table field operation)

end TwinStore
