/-
**Connections.** The verbs as a user has them. A connection adds to a backend what every backend
needs done in the same way: it refuses queries without a class, gives new records their ids, stamps
updates and plans upserts.

* `Connection.forEach`, `toList`, `stream` and `first` read the matches of a query.
* `Connection.withTransaction` commits if its body succeeds, and aborts if it fails.
* `Connection.ensureTable` brings a table in line with its description and drops nothing.
-/

import TwinStore.Store.Backend

namespace TwinStore

/-- Where ids and the time come from: ids are numbered in the order in which they are asked for. -/
structure Capabilities where
  idAt : Nat → String
  now : Instant

/-- A store and the number of ids that were given out. -/
structure World (σ : Type) where
  issued : Nat
  store : σ

/-- Access to a store through a channel. -/
structure Connection (σ κ : Type) where
  backend : Backend σ κ
  channel : κ
  capabilities : Capabilities

variable {σ κ τ α : Type}

namespace World

/-- A step of the store as a step of its world. -/
def onStore (step : StateM σ α) : StateM (World σ) α := fun world =>
  let (value, store) := Id.run (step.run world.store)
  (value, { world with store })

/-- An action on the store as one on its world. -/
def act (action : Action σ α) : Action (World σ) α := ExceptT.mk (onStore action.run)

/-- The number of the next id. -/
def issue : Action (World σ) Nat :=
  ExceptT.lift (modifyGet fun world => (world.issued, { world with issued := world.issued + 1 }))

end World

namespace Connection

open World

def freshId (connection : Connection σ κ) : Action (World σ) String := do
  return connection.capabilities.idAt (← issue)

/-- The text that shows a connection. -/
def description (connection : Connection σ κ) : String :=
  "Connection \x7b backend: \"" ++ connection.backend.name ++ "\", .. \x7d"

/-! ### Reading -/

def count (connection : Connection σ κ) (query : FindQuery) : Action (World σ) UInt64 := do
  let _ ← Action.ofResult query.requireClass
  act (connection.backend.count connection.channel query)

/-- A body that reads a record, changes what it has gathered and may refuse to go on. -/
abbrev Body (τ : Type) := Record → StateM τ (Except String Unit)

/-- A body as a sink. -/
def Body.sink (body : Body τ) (record : Record) : Work σ τ Unit :=
  ExceptT.mk fun gathered =>
    let (result, gathered) := Id.run ((body record).run gathered)
    pure (result.mapError .callback, gathered)

/-- Hands the matches to a body in order, until it refuses to go on. -/
def forEach (connection : Connection σ κ) (query : FindQuery) (body : Body τ) (start : τ) :
    StateM (World σ) (Except StoreError Unit × τ) :=
  match query.requireClass with
  | .error error => return (.error error, start)
  | .ok _ =>
    onStore ((connection.backend.find connection.channel query (Body.sink body)).gathered start)

/-- A body that gathers the records. -/
def gatherAll : Body (List Record) := fun record => do
  modify (· ++ [record])
  return .ok ()

/-- The matches in order. -/
def toList (connection : Connection σ κ) (query : FindQuery) :
    Action (World σ) (List Record) := do
  let (result, records) ← Action.ofState (forEach connection query gatherAll [])
  Action.ofResult (result.map fun _ => records)

/-- The items of a stream of matches: the records in order, and behind them the failure if there is
one. -/
def stream (connection : Connection σ κ) (query : FindQuery) :
    StateM (World σ) (List (Except StoreError Record)) := do
  let (result, records) ← forEach connection query gatherAll []
  let failure := match result with
    | .ok () => []
    | .error error => [.error error]
  return records.map .ok ++ failure

/-- A body that keeps the first record. -/
def keepFirst : Body (Option Record) := fun record => do
  modify fun found => found <|> some record
  return .ok ()

def first (connection : Connection σ κ) (query : FindQuery) :
    Action (World σ) (Option Record) := do
  let (result, found) ← Action.ofState (forEach connection query.first keepFirst none)
  Action.ofResult (result.map fun _ => found)

/-! ### Writing -/

/-- Writes a new record with a fresh id. -/
def insert (connection : Connection σ κ) (query : FindQuery) (fields : Fields Value) :
    Action (World σ) Record := do
  let className ← Action.ofResult query.requireClass
  let plan := InsertPlan.of fields (← connection.freshId) connection.capabilities.now
  act (connection.backend.insert connection.channel className plan)

/-- Applies an update to the first match, with the stamp of the change. -/
def update (connection : Connection σ κ) (query : FindQuery) (update : UpdateSet)
    (returning : Returning) : Action (World σ) (Option Record) := do
  let _ ← Action.ofResult query.requireClass
  let stamped := update.stamped connection.capabilities.now
  act (connection.backend.update connection.channel query stamped returning)

/-- Plans an upsert. A filter that fixes the id is refused before an id is asked for. -/
def upsertPlan (connection : Connection σ κ) (query : FindQuery) (update : UpdateSet)
    (setOnInsert : Fields Value) : Action (World σ) UpsertPlan := do
  let plan (id : String) : Except StoreError UpsertPlan :=
    UpsertPlan.of query update setOnInsert id connection.capabilities.now
  if (UpsertPlan.pinnedId? query.predicate?).isSome then Action.ofResult (plan "")
  else Action.ofResult (plan (← connection.freshId))

/-- Applies an update to the first match, or inserts a record that matches if there is none. -/
def upsert (connection : Connection σ κ) (query : FindQuery) (update : UpdateSet)
    (setOnInsert : Fields Value) (returning : Returning) :
    Action (World σ) (Option Record) := do
  let _ ← Action.ofResult query.requireClass
  let plan ← connection.upsertPlan query update setOnInsert
  act (connection.backend.upsert connection.channel query plan returning)

def delete (connection : Connection σ κ) (query : FindQuery) :
    Action (World σ) (Option Record) := do
  let _ ← Action.ofResult query.requireClass
  act (connection.backend.delete connection.channel query)

def deleteAll (connection : Connection σ κ) (query : FindQuery) :
    Action (World σ) (Option UInt64) := do
  let _ ← Action.ofResult query.requireClass
  act (connection.backend.deleteAll connection.channel query)

/-! ### Transactions -/

/-- Runs a body inside a new transaction: commits if it succeeds, and aborts if it fails. The body's
failure counts even where the transaction cannot be aborted. -/
def withTransaction (connection : Connection σ κ)
    (body : Connection σ κ → Work (World σ) τ α) : Work (World σ) τ α := do
  let channel ← Work.ofAction (act (connection.backend.openTransaction connection.channel))
  match ← (body { connection with channel }).attempt with
  | .ok value =>
    Work.ofAction (act (connection.backend.commit channel))
    return value
  | .error error =>
    let _ ← (Work.ofAction (act (connection.backend.abort channel))).attempt
    throw error

/-! ### Tables -/

def tables (connection : Connection σ κ) : Action (World σ) (List String) :=
  act (connection.backend.tables connection.channel)

def createTable (connection : Connection σ κ) (table : Table) : Action (World σ) Unit :=
  act (connection.backend.createTable connection.channel table)

def addColumns (connection : Connection σ κ) (className : String) (columns : List Column) :
    Action (World σ) Unit :=
  act (connection.backend.addColumns connection.channel className columns)

def dropTable (connection : Connection σ κ) (className : String) : Action (World σ) Unit :=
  act (connection.backend.dropTable connection.channel className)

def dropColumns (connection : Connection σ κ) (className : String) (columns : List String) :
    Action (World σ) Unit :=
  act (connection.backend.dropColumns connection.channel className columns)

def addIndex (connection : Connection σ κ) (className : String) (index : TableIndex) :
    Action (World σ) Unit :=
  act (connection.backend.addIndex connection.channel className index)

def dropIndex (connection : Connection σ κ) (className index : String) : Action (World σ) Unit :=
  act (connection.backend.dropIndex connection.channel className index)

/-- Creates a table if it is missing, and otherwise adds the columns and indexes it lacks. -/
def ensureTable (connection : Connection σ κ) (table : Table) : Action (World σ) Unit := do
  let existing ← connection.tables
  if existing.contains table.name then
    connection.addColumns table.name table.userColumns
    table.indexes.forM (connection.addIndex table.name)
  else connection.createTable table

/-- Drops a table and creates it again. -/
def recreateTable (connection : Connection σ κ) (table : Table) : Action (World σ) Unit := do
  connection.dropTable table.name
  connection.createTable table

end Connection

end TwinStore
