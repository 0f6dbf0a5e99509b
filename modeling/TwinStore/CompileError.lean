/-
**Compile errors.** Why an expression cannot be written for a store.

* `CompileError.message` is the wording.
-/

import TwinStore.Identifier
import TwinStore.Unsupported

namespace TwinStore

/-- What is wrong with an operand. -/
inductive OperandFault where
  /-- The operand of a membership test is no array. -/
  | membershipWithoutArray
  /-- The operand of a presence test is no truth value. -/
  | presenceWithoutBoolean
  /-- The operand of a removal is no array. -/
  | removalWithoutArray
  /-- A field inside a column is to be updated on its own. -/
  | nestedUpdate
  /-- An index has no columns. -/
  | indexWithoutColumns
  /-- An upsert fixes the id of the record that it may create. -/
  | pinnedId
  deriving DecidableEq

def OperandFault.reason : OperandFault → String
  | .membershipWithoutArray => "`in` expects an array"
  | .presenceWithoutBoolean => "`exists` expects a boolean"
  | .removalWithoutArray => "`remove_all` expects an array"
  | .nestedUpdate => "nested paths cannot be updated in a column"
  | .indexWithoutColumns => "index has no columns"
  | .pinnedId => "an upsert cannot filter on the id of the record it may create"

/-- Why an expression cannot be written for a store. -/
inductive CompileError where
  | unsupported (cause : Unsupported)
  | identifier (error : IdentifierError)
  | operand (field : String) (fault : OperandFault)
  deriving DecidableEq

def CompileError.message : CompileError → String
  | .unsupported cause => cause.message
  | .identifier error => "Invalid identifier: " ++ error.message
  | .operand field fault => "Invalid operand for '" ++ field ++ "': " ++ fault.reason

end TwinStore
