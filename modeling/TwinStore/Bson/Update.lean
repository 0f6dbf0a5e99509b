/-
**Updates in documents.** Updates as update documents: one operator for each kind of operation that
occurs, with the fields under it.
-/

import TwinStore.Bson.Filter
import TwinStore.Query.Selection
import TwinStore.Update

namespace TwinStore

def UpdateKind.operator : UpdateKind → String
  | .set => "$set"
  | .unset => "$unset"
  | .increment => "$inc"
  | .multiply => "$mul"
  | .max => "$max"
  | .min => "$min"
  | .push => "$push"
  | .removeAll => "$pullAll"
  | .pop => "$pop"

/-- The operand of an operation. -/
def UpdateOperation.operand (field : String) : UpdateOperation → Except CompileError Bson
  | .set .null => .ok (.text "")
  | .set value => value.compile
  | .increment amount => (Value.number amount).compile
  | .multiply factor => (Value.number factor).compile
  | .max value => value.compile
  | .min value => value.compile
  | .push value => value.compile
  | .removeAll values =>
    match values.items? with
    | some _ => values.compile
    | none => .error (.operand field .removalWithoutArray)
  | .popFirst => .ok (.int32 (-1))
  | .popLast => .ok (.int32 1)

/-- The fields of operations of one kind, with their operands. -/
def operandEntries (operations : List (String × UpdateOperation)) :
    Except CompileError (List (String × Bson)) :=
  operations.mapM fun (field, operation) => do
    return (documentField field, ← operation.operand field)

/-- The update document. -/
def UpdateSet.toDocument (update : UpdateSet) : Except CompileError Document := do
  return Document.ofEntries (← update.groups.mapM fun (kind, operations) => do
    return (kind.operator, .document (Document.ofEntries (← operandEntries operations))))

/-! ### Orders and projections -/

def SortOrder.direction : SortOrder → Int32
  | .ascending => 1
  | .descending => -1

/-- The sort document of fields to order by. -/
def sortDocument (sort : SortList) : Document :=
  Document.ofEntries (sort.map fun (field, order) => (documentField field, .int32 order.direction))

/-- The projection document of the requested fields; whole documents have none. -/
def Projection.toDocument? (projection : Projection) : Option Document :=
  projection.documentFields?.map fun fields =>
    Document.ofEntries (fields.map fun field => (field, .int32 1))

end TwinStore
