/-
**MongoDB servers.** A server answers commands; those of a transaction come to it under the
transaction's number. It learns of a transaction only with its first command, and of its end only if
there was one. Behind its end, the transaction's channel works outside any transaction.

* `Server` is any server, `Session` its state with that of its transactions.
* `send` sends a command through a channel, `close` ends a transaction.
-/

import TwinStore.Mongo.Command
import TwinStore.Store.Action

namespace TwinStore.Mongo

/-- What a server answers: documents, the number of documents it counted or changed, the document
that was found, and the fault behind them. -/
structure Reply where
  documents : List Document
  number : Option UInt64
  value : Option Document
  fault : Option ServerFault

/-- A reply that says nothing. -/
def Reply.empty : Reply := ⟨[], none, none, none⟩

/-- The documents of a reply, if there is no fault behind them. -/
def Reply.complete (reply : Reply) : Except StoreError (List Document) :=
  match reply.fault with
  | none => .ok reply.documents
  | some fault => .error (.mongo fault)

/-- The way to a server: none of its transactions, or the one of a number. -/
abbrev Channel := Option Nat

/-- A server with states of type `σ`. -/
structure Server (σ : Type) where
  answer : Channel → Command → StateM σ Reply

/-- How far a transaction has come. -/
inductive Stage where
  /-- The server does not know of it yet. -/
  | fresh
  | active
  /-- It was committed or aborted. -/
  | finished
  deriving DecidableEq

/-- The state of a transaction: how far it has come, and whether a command is under way. -/
structure TransactionState where
  stage : Stage
  busy : Bool
  deriving DecidableEq

/-- The state of a server and of its transactions, as many as were opened. -/
structure Session (σ : Type) where
  server : σ
  opened : Nat
  transaction : Nat → TransactionState

variable {σ τ α : Type}

namespace Session

/-- A session without transactions. -/
def start (server : σ) : Session σ := ⟨server, 0, fun _ => ⟨.finished, false⟩⟩

/-- Changes the state of a transaction. -/
def alter (session : Session σ) (number : Nat) (change : TransactionState → TransactionState) :
    Session σ :=
  { session with
    transaction := fun other =>
      if other = number then change (session.transaction other) else session.transaction other }

end Session

def ask (server : Server σ) (channel : Channel) (command : Command) :
    Action (Session σ) Reply :=
  Action.ofState fun session =>
    let (reply, state) := Id.run ((server.answer channel command).run session.server)
    pure (reply, { session with server := state })

/-- Keeps a transaction for the time of an action. -/
def exclusively (number : Nat) (action : Action (Session σ) α) : Action (Session σ) α := do
  if ((← get).transaction number).busy then throw .transactionBusy
  modify fun session => session.alter number fun state => { state with busy := true }
  let result ← action.attempt
  modify fun session => session.alter number fun state => { state with busy := false }
  Action.ofResult result

/-- Sends a command inside a transaction, or outside any if that is over. -/
def sendInside (server : Server σ) (number : Nat) (command : Command) :
    Action (Session σ) Reply := do
  match ((← get).transaction number).stage with
  | .finished => ask server none command
  | _ =>
    modify fun session => session.alter number fun state => { state with stage := .active }
    ask server (some number) command

def send (server : Server σ) (channel : Channel) (command : Command) :
    Action (Session σ) Reply :=
  match channel with
  | none => ask server none command
  | some number => exclusively number (sendInside server number command)

/-! ### Transactions -/

/-- Opens a transaction and gives its number; nothing is sent. -/
def openNew : Action (Session σ) Nat := do
  let number := (← get).opened
  modify fun session =>
    { session.alter number fun _ => ⟨.fresh, false⟩ with opened := number + 1 }
  return number

/-- Ends a transaction; the command is sent only if the server knows of it. -/
def close (server : Server σ) (number : Nat) (command : Command) : Action (Session σ) Unit :=
  exclusively number do
    let stage := ((← get).transaction number).stage
    modify fun session => session.alter number fun state => { state with stage := .finished }
    if stage = .active then
      let reply ← ask server (some number) command
      Action.ofResult (reply.complete.map fun _ => ())

end TwinStore.Mongo
