/-
**Recording backend.** A backend that writes down what it is asked for and keeps its records.
Filters do not matter to it: it finds all its records, and updates and deletes give the first one.

* `Recording.backend` acts on the list of calls so far, and has one channel.
-/

import TwinStore.Store.Backend

namespace TwinStore

/-- What a backend was asked for. -/
inductive Call where
  | count (query : FindQuery)
  | find (query : FindQuery)
  | insert (className : String) (plan : InsertPlan)
  | update (query : FindQuery) (update : UpdateSet) (returning : Returning)
  | upsert (query : FindQuery) (plan : UpsertPlan) (returning : Returning)
  | delete (query : FindQuery)
  | deleteAll (query : FindQuery)
  | openTransaction
  | commit
  | abort
  | tables
  | createTable (name : String)
  | addColumns (className : String) (columns : List String)
  | dropTable (className : String)
  | dropColumns (className : String) (columns : List String)
  | addIndex (className index : String)
  | dropIndex (className index : String)

/-- What a recording backend answers from. -/
structure Recording where
  records : List Record
  tables : List String
  /-- Transactions can be opened. -/
  transactional : Bool

namespace Recording

/-- The calls so far, the oldest first. -/
abbrev Log := List Call

/-- Writes a call down. -/
def write (call : Call) : Action Log Unit := Action.ofState (modify (· ++ [call]))

/-- The number of records. -/
def size (recording : Recording) : UInt64 := UInt64.ofNat recording.records.length

/-- The records that a query finds, as its limit allows. -/
def matched (recording : Recording) (query : FindQuery) : List Record :=
  match query.limit with
  | none => recording.records
  | some limit => recording.records.take limit.toNat

/-- What an upsert gives: the first record, or else the inserted one if it is wanted. -/
def upserted (recording : Recording) (query : FindQuery) (plan : UpsertPlan)
    (returning : Returning) : Except StoreError (Option Record) :=
  match recording.records, returning with
  | record :: _, _ => .ok (some record)
  | [], .before => .ok none
  | [], .after => query.requireClass.map fun className => some (plan.insert.toRecord className)

def backend (recording : Recording) : Backend Log Unit where
  name := "recording"
  count := fun _ query => do
    write (.count query)
    return recording.size
  find := fun _ query sink => do
    Work.ofAction (write (.find query))
    Work.offer sink (recording.matched query)
  insert := fun _ className plan => do
    write (.insert className plan)
    return plan.toRecord className
  update := fun _ query update returning => do
    write (.update query update returning)
    return recording.records.head?
  upsert := fun _ query plan returning => do
    write (.upsert query plan returning)
    Action.ofResult (recording.upserted query plan returning)
  delete := fun _ query => do
    write (.delete query)
    return recording.records.head?
  deleteAll := fun _ query => do
    write (.deleteAll query)
    return some recording.size
  openTransaction := fun _ =>
    if recording.transactional then write .openTransaction
    else throw (.transactionUnsupported "recording")
  commit := fun _ => write .commit
  abort := fun _ => write .abort
  tables := fun _ => do
    write .tables
    return recording.tables
  createTable := fun _ table => write (.createTable table.name)
  addColumns := fun _ className columns =>
    write (.addColumns className (columns.map Column.name))
  dropTable := fun _ className => write (.dropTable className)
  dropColumns := fun _ className columns => write (.dropColumns className columns)
  addIndex := fun _ className index => write (.addIndex className index.name)
  dropIndex := fun _ className index => write (.dropIndex className index)

end Recording

end TwinStore
