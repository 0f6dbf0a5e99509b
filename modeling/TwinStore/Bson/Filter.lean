/-
**Filters in documents.** Predicates as the filter documents of a document store.

* The empty document matches everything. Every document has an id, so a test that it has none
  matches nothing.
* A negation is a group of one member none of which may hold.
-/

import TwinStore.CompileError
import TwinStore.Predicate
import TwinStore.Value.Document

namespace TwinStore

/-- A value as a document value, where an expression is compiled. -/
def Value.compile (value : Value) : Except CompileError Bson :=
  value.toBson.mapError .unsupported

def Comparison.operator : Comparison → String
  | .equal => "$eq"
  | .different => "$ne"
  | .greater => "$gt"
  | .atLeast => "$gte"
  | .less => "$lt"
  | .atMost => "$lte"
  | .oneOf => "$in"
  | .present => "$exists"

/-- An operator with its operand. -/
def operatorDocument (comparison : Comparison) (operand : Bson) : Bson :=
  .document (Document.single comparison.operator operand)

/-- What a field is tested for. Equality with null is null itself. -/
def Condition.criteria (condition : Condition) : Except CompileError Bson :=
  match condition.comparison with
  | .equal =>
    if condition.operand.isNull then .ok .null
    else return operatorDocument .equal (← condition.operand.compile)
  | .oneOf =>
    match condition.operand.items? with
    | some _ => return operatorDocument .oneOf (← condition.operand.compile)
    | none => .error (.operand condition.field .membershipWithoutArray)
  | .present =>
    match condition.operand.boolean? with
    | some there => .ok (operatorDocument .present (.boolean there))
    | none => .error (.operand condition.field .presenceWithoutBoolean)
  | comparison => return operatorDocument comparison (← condition.operand.compile)

/-- The filter document of a condition. -/
def Condition.toFilter (condition : Condition) : Except CompileError Document := do
  return Document.single (documentField condition.field) (← condition.criteria)

def Connective.operator : Connective → String
  | .all => "$and"
  | .any => "$or"

/-- The filter document of a group without members. -/
def Connective.emptyFilter : Connective → Document
  | .all => []
  | .any => Document.single documentIdName (operatorDocument .present (.boolean false))

namespace Predicate

mutual

/-- The filter document of a predicate. -/
def toFilter : Predicate → Except CompileError Document
  | .condition test => test.toFilter
  | .group connective [] => .ok connective.emptyFilter
  | .group _ [member] => member.toFilter
  | .group connective members =>
    return Document.single connective.operator (.array (← toFilters members))
  | .negation inner =>
    return Document.single "$nor" (.array [.document (← inner.toFilter)])

/-- The filter documents of a group's members. -/
def toFilters : List Predicate → Except CompileError (List Bson)
  | [] => .ok []
  | member :: rest => return .document (← member.toFilter) :: (← toFilters rest)

end

/-- The filter document; without a predicate everything matches. -/
def filterDocument : Option Predicate → Except CompileError Document
  | none => .ok []
  | some predicate => predicate.toFilter

end Predicate

end TwinStore
