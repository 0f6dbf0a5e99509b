/-
**PostgreSQL servers.** A server answers requests; those of a transaction come to it under the
transaction's number. A transaction is used by one request at a time, and by none when it is over.

* `Server` is any server, `Session` its state with that of its transactions.
* `exclusively` keeps a transaction for the time of an action.
* `send` sends a request through a channel, `openNew`, `close` and `giveUp` begin and end
  transactions.
-/

import TwinStore.Postgres.Row
import TwinStore.Sql.Definition
import TwinStore.Store.Action

namespace TwinStore.Postgres

/-- What a server is asked. -/
inductive Request where
  | openTransaction
  | commit
  | rollback
  /-- The transaction is given up without a word; the server undoes it. -/
  | giveUp
  | listTables
  | run (statement : Statement)

/-- What a server answers: rows, the number of rows it changed, and the fault behind them. -/
structure Reply where
  rows : List Row
  affected : UInt64
  fault : Option ServerFault

/-- The way to a server: none of its transactions, or the one of a number. -/
abbrev Channel := Option Nat

/-- A server with states of type `σ`. -/
structure Server (σ : Type) where
  answer : Channel → Request → StateM σ Reply

/-- The state of a transaction. -/
inductive Phase where
  | idle
  /-- A request is under way. -/
  | busy
  /-- It was committed or rolled back. -/
  | finished
  deriving DecidableEq

/-- The state of a server and of its transactions, as many as were opened. -/
structure Session (σ : Type) where
  server : σ
  opened : Nat
  phase : Nat → Phase

variable {σ τ α : Type}

namespace Session

/-- A session without transactions. -/
def start (server : σ) : Session σ := ⟨server, 0, fun _ => .finished⟩

/-- Changes the state of a transaction. -/
def setPhase (session : Session σ) (number : Nat) (phase : Phase) : Session σ :=
  { session with phase := fun other => if other = number then phase else session.phase other }

end Session

/-- The rows of a reply, if there is no fault behind them. -/
def Reply.complete (reply : Reply) : Except StoreError (List Row) :=
  match reply.fault with
  | none => .ok reply.rows
  | some fault => .error (.postgres fault)

def ask (server : Server σ) (channel : Channel) (request : Request) :
    Action (Session σ) Reply :=
  Action.ofState fun session =>
    let (reply, state) := Id.run ((server.answer channel request).run session.server)
    pure (reply, { session with server := state })

/-- Asks the server for what only succeeds or fails. -/
def command (server : Server σ) (channel : Channel) (request : Request) :
    Action (Session σ) Unit := do
  Action.ofResult ((← ask server channel request).complete.map fun _ => ())

/-- Keeps a transaction for the time of an action. -/
def exclusively (number : Nat) (action : Action (Session σ) α) : Action (Session σ) α := do
  match (← get).phase number with
  | .finished => throw .transactionFinished
  | .busy => throw .transactionBusy
  | .idle =>
    modify fun session => session.setPhase number .busy
    let result ← action.attempt
    modify fun session => session.setPhase number .idle
    Action.ofResult result

def send (server : Server σ) (channel : Channel) (request : Request) :
    Action (Session σ) Reply :=
  match channel with
  | none => ask server none request
  | some number => exclusively number (ask server (some number) request)

/-! ### Transactions -/

/-- Opens a transaction and gives its number. -/
def openNew (server : Server σ) : Action (Session σ) Nat := do
  let number := (← get).opened
  command server (some number) .openTransaction
  modify fun session => { session.setPhase number .idle with opened := number + 1 }
  return number

/-- Ends a transaction with a request, unless it is over; it is over then even if the request
fails. -/
def close (server : Server σ) (number : Nat) (request : Request) : Action (Session σ) Unit := do
  match (← get).phase number with
  | .finished => throw .transactionFinished
  | .busy => throw .transactionBusy
  | .idle =>
    modify fun session => session.setPhase number .finished
    command server (some number) request

/-- Gives a transaction up. -/
def giveUp (server : Server σ) (number : Nat) : Action (Session σ) Unit := do
  modify fun session => session.setPhase number .finished
  let _ ← ask server (some number) .giveUp

end TwinStore.Postgres
