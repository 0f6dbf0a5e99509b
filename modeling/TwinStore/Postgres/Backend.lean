/-
**The PostgreSQL backend.** A table for each class, with a column for each field. Every verb is one
statement, except that an upsert is an update and, where it finds nothing, an insertion in one
transaction.

* `backend` serves records from any server.
* `find` hands records on while rows arrive; inside a transaction it takes all rows first, so that
  the sink may use the transaction.
* `connect` fails where the server cannot be reached.
-/

import TwinStore.Postgres.Server
import TwinStore.Store.Backend

namespace TwinStore.Postgres

variable {σ τ : Type}

/-! ### Statements -/

def fetchAll (server : Server σ) (channel : Channel) (request : Request) :
    Action (Session σ) (List Row) := do
  Action.ofResult (← send server channel request).complete

/-- The record of the first row of a statement, if there is a row. -/
def fetchRecord (server : Server σ) (channel : Channel) (className : String)
    (statement : Statement) : Action (Session σ) (Option Record) := do
  match ← fetchAll server channel (.run statement) with
  | [] => return none
  | row :: _ => return some (← Action.ofResult (row.toRecord className))

/-- Runs a statement and gives the number of rows it changed. -/
def execute (server : Server σ) (channel : Channel) (statement : Statement) :
    Action (Session σ) UInt64 := do
  let reply ← send server channel (.run statement)
  Action.ofResult (reply.complete.map fun _ => reply.affected)

/-- Runs a statement that may not be needed. -/
def define (server : Server σ) (channel : Channel)
    (statement : Except StoreError (Option Statement)) : Action (Session σ) Unit := do
  match ← Action.ofResult statement with
  | none => return ()
  | some statement =>
    let _ ← execute server channel statement

/-! ### Reading -/

def count (server : Server σ) (channel : Channel) (query : FindQuery) :
    Action (Session σ) UInt64 := do
  let statement ← Action.ofResult (Statement.count query)
  match ← fetchAll server channel (.run statement) with
  | [] => throw .countWithoutRow
  | row :: _ => Action.ofResult row.count

/-- Hands the records of rows to a sink until a row cannot be read or the sink fails. -/
def deliver (className : String) (sink : Record → Work (Session σ) τ Unit) :
    List Row → Work (Session σ) τ Unit
  | [] => pure ()
  | row :: rows => do
    let record ← Work.ofResult (row.toRecord className)
    sink record
    deliver className sink rows

def find (server : Server σ) (channel : Channel) (query : FindQuery)
    (sink : Record → Work (Session σ) τ Unit) : Work (Session σ) τ Unit := do
  let className ← Work.ofResult query.requireClass
  let statement ← Work.ofResult (Statement.select query)
  match channel with
  | none =>
    let reply ← Work.ofAction (ask server none (.run statement))
    deliver className sink reply.rows
    Work.ofResult (reply.complete.map fun _ => ())
  | some number =>
    let rows ← Work.ofAction (fetchAll server (some number) (.run statement))
    deliver className sink rows

def tables (server : Server σ) (channel : Channel) : Action (Session σ) (List String) := do
  let rows ← fetchAll server channel .listTables
  Action.ofResult (rows.mapM Row.text)

/-! ### Writing -/

/-- Inserts a record and reads it back. -/
def insert (server : Server σ) (channel : Channel) (className : String) (plan : InsertPlan) :
    Action (Session σ) Record := do
  let statement ← Action.ofResult (Statement.insert className plan)
  match ← fetchRecord server channel className statement with
  | none => throw .insertWithoutRow
  | some record => return record

def update (server : Server σ) (channel : Channel) (query : FindQuery) (update : UpdateSet)
    (returning : Returning) : Action (Session σ) (Option Record) := do
  let className ← Action.ofResult query.requireClass
  let statement ← Action.ofResult (Statement.updateOne query update returning)
  fetchRecord server channel className statement

/-- The two statements of an upsert. -/
structure Upsert where
  className : String
  update : Statement
  insert : Statement
  returning : Returning

/-- The statements of an upsert. -/
def Upsert.of (query : FindQuery) (plan : UpsertPlan) (returning : Returning) :
    Except StoreError Upsert := do
  let className ← query.requireClass
  let update ← Statement.updateOne query plan.update returning
  let insert ← Statement.insert className plan.insert
  return ⟨className, update, insert, returning⟩

/-- Updates, and inserts where there was nothing to update. -/
def Upsert.run (server : Server σ) (number : Nat) (upsert : Upsert) :
    Action (Session σ) (Option Record) := do
  let updated ← ask server (some number) (.run upsert.update)
  match ← Action.ofResult updated.complete with
  | row :: _ => return some (← Action.ofResult (row.toRecord upsert.className))
  | [] =>
    let inserted ← ask server (some number) (.run upsert.insert)
    match ← Action.ofResult inserted.complete, upsert.returning with
    | [], _ => throw (.postgres .missingRow)
    | _ :: _, .before => return none
    | row :: _, .after => return some (← Action.ofResult (row.toRecord upsert.className))

/-- Updates the first match or inserts a record, in a transaction of its own unless it is in one. -/
def upsert (server : Server σ) (channel : Channel) (query : FindQuery) (plan : UpsertPlan)
    (returning : Returning) : Action (Session σ) (Option Record) := do
  let statements ← Action.ofResult (Upsert.of query plan returning)
  match channel with
  | some number => exclusively number (statements.run server number)
  | none =>
    let number ← openNew server
    match ← (statements.run server number).attempt with
    | .ok record =>
      close server number .commit
      return record
    | .error error =>
      giveUp server number
      throw error

def delete (server : Server σ) (channel : Channel) (query : FindQuery) :
    Action (Session σ) (Option Record) := do
  let className ← Action.ofResult query.requireClass
  let statement ← Action.ofResult (Statement.deleteOne query)
  fetchRecord server channel className statement

def deleteAll (server : Server σ) (channel : Channel) (query : FindQuery) :
    Action (Session σ) (Option UInt64) := do
  let statement ← Action.ofResult (Statement.deleteAll query)
  return some (← execute server channel statement)

/-! ### Definitions -/

def addIndex (server : Server σ) (channel : Channel) (className : String) (index : TableIndex) :
    Action (Session σ) Unit :=
  define server channel ((Statement.createIndex className index).map some)

/-- Creates a table and then its indexes. -/
def createTable (server : Server σ) (channel : Channel) (table : Table) :
    Action (Session σ) Unit := do
  define server channel ((Statement.createTable table).map some)
  table.indexes.forM (addIndex server channel table.name)

/-! ### The backend -/

/-- Opens a transaction; there are none inside another. -/
def openTransaction (server : Server σ) : Channel → Action (Session σ) Channel
  | none => do return some (← openNew server)
  | some _ => throw (.transactionUnsupported "nested postgres transaction")

/-- Ends the transaction of a channel with a request. -/
def finish (server : Server σ) (request : Request) : Channel → Action (Session σ) Unit
  | none => pure ()
  | some number => close server number request

def backend (server : Server σ) : Backend (Session σ) Channel where
  name := "postgres"
  count := count server
  find := find server
  insert := insert server
  update := update server
  upsert := upsert server
  delete := delete server
  deleteAll := deleteAll server
  openTransaction := openTransaction server
  commit := finish server .commit
  abort := finish server .rollback
  tables := tables server
  createTable := createTable server
  addColumns := fun channel className columns =>
    define server channel (Statement.addColumns className columns)
  dropTable := fun channel className =>
    define server channel ((Statement.dropTable className).map some)
  dropColumns := fun channel className columns =>
    define server channel (Statement.dropColumns className columns)
  addIndex := addIndex server
  dropIndex := fun channel _ name =>
    define server channel ((Statement.dropIndex name).map some)

/-- What is known of the way to a server. -/
inductive Network (σ : Type) where
  | reachable (server : Server σ)
  | unreachable (cause : String)

/-- The backend behind a network. -/
def connect : Network σ → Except StoreError (Backend (Session σ) Channel)
  | .reachable server => .ok (backend server)
  | .unreachable cause => .error (.postgres (.unreachable cause))

end TwinStore.Postgres
