/-
**Store errors.** Why a verb fails, whichever store runs it.

* `StoreError.message` is the wording.
-/

import TwinStore.CompileError

namespace TwinStore

/-- What went wrong between the library and a server. -/
inductive ServerFault where
  /-- The server refused a command with a code. -/
  | refused (code : String)
  /-- A result has no row where one is needed. -/
  | missingRow
  /-- A column is missing or of another type than it is read as. -/
  | columnMismatch
  /-- A cell holds what its type does not allow. -/
  | unreadableCell
  /-- The server cannot be reached. -/
  | unreachable (cause : String)
  /-- A command holds a number that it has no room for. -/
  | unsendable
  deriving DecidableEq

def ServerFault.message : ServerFault → String
  | .refused code => "error returned from database: " ++ code
  | .missingRow => "no rows returned by a query that expected to return at least one row"
  | .columnMismatch => "error occurred while decoding a column: mismatched types"
  | .unreadableCell => "error occurred while decoding a column: unreadable value"
  | .unreachable cause => "error communicating with database: " ++ cause
  | .unsendable => "a number is too large for the command"

/-- Why a verb fails. -/
inductive StoreError where
  | classNotSet
  | compile (error : CompileError)
  | transactionUnsupported (where_ : String)
  | callback (message : String)
  /-- The transaction has been committed or rolled back before. -/
  | transactionFinished
  /-- The transaction is in use by what waits for it. -/
  | transactionBusy
  /-- Counting gave no row. -/
  | countWithoutRow
  /-- Inserting gave no row. -/
  | insertWithoutRow
  | other (message : String)
  | postgres (fault : ServerFault)
  | mongo (fault : ServerFault)
  deriving DecidableEq

/-- The wording of a compile error that a verb reports. -/
def CompileError.storeMessage : CompileError → String
  | .operand field fault => "Invalid operand for field '" ++ field ++ "': " ++ fault.reason
  | error => error.message

def StoreError.message : StoreError → String
  | .classNotSet => "Query has no class"
  | .compile error => error.storeMessage
  | .transactionUnsupported where_ => "Transactions are not supported: " ++ where_
  | .callback message => "Callback failed: " ++ message
  | .transactionFinished => "Unknown error: transaction already finished"
  | .transactionBusy => "Unknown error: transaction in use"
  | .countWithoutRow => "Unknown error: COUNT returned no row"
  | .insertWithoutRow => "Unknown error: INSERT returned no row"
  | .other message => "Unknown error: " ++ message
  | .postgres fault => "PostgreSQL error: " ++ fault.message
  | .mongo fault => "MongoDB error: " ++ fault.message

/-- A compile error as the error of a verb. -/
def liftCompile {α : Type} (result : Except CompileError α) : Except StoreError α :=
  result.mapError .compile

/-- An identifier's error as the error of a verb. -/
def liftIdentifier {α : Type} (result : Except IdentifierError α) : Except StoreError α :=
  result.mapError fun error => .compile (.identifier error)

end TwinStore
