/-
**Actions on a store.** An action may fail; what it did to the store until then stays done.

* `Action σ α` acts on stores of type `σ`.
* `Work σ τ α` gathers results of type `τ` besides, which stay where it fails.
* `Work.offer` hands records to a sink, one after the other, until the sink fails.
-/

import TwinStore.Record
import TwinStore.StoreError

namespace TwinStore

/-- An action on a store. -/
abbrev Action (σ α : Type) := ExceptT StoreError (StateM σ) α

/-- An action on a store that gathers results. -/
abbrev Work (σ τ α : Type) := ExceptT StoreError (StateT τ (StateM σ)) α

variable {σ τ α : Type}

namespace Action

/-- What comes of an action, and the store behind it. -/
def outcome (action : Action σ α) (store : σ) : Except StoreError α × σ :=
  Id.run (StateT.run (ExceptT.run action) store)

/-- The action without its failure: the outcome as a value. -/
def attempt (action : Action σ α) : Action σ (Except StoreError α) := ExceptT.lift action.run

/-- An action that does nothing but succeed or fail. -/
def ofResult (result : Except StoreError α) : Action σ α := ExceptT.mk (pure result)

/-- An action that cannot fail. -/
def ofState (step : StateM σ α) : Action σ α := ExceptT.lift step

end Action

namespace Work

/-- An action as work that gathers nothing. -/
def ofAction (action : Action σ α) : Work σ τ α := ExceptT.mk (StateT.lift action.run)

/-- Work that does nothing but succeed or fail. -/
def ofResult (result : Except StoreError α) : Work σ τ α := ExceptT.mk (pure result)

/-- Changes what has been gathered. -/
def gather (change : τ → τ) : Work σ τ Unit := ExceptT.lift (modify change)

/-- The work without its failure: the outcome as a value. -/
def attempt (work : Work σ τ α) : Work σ τ (Except StoreError α) := ExceptT.lift work.run

/-- Work as an action that cannot fail: the outcome and what was gathered from the start on. -/
def gathered (work : Work σ τ α) (start : τ) : StateM σ (Except StoreError α × τ) :=
  StateT.run (ExceptT.run work) start

/-- Hands records to a sink until it fails. -/
def offer (sink : Record → Work σ τ Unit) : List Record → Work σ τ Unit
  | [] => pure ()
  | record :: records => do
    sink record
    offer sink records

end Work

end TwinStore
