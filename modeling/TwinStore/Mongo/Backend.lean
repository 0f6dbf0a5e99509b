/-
**The MongoDB backend.** A collection for each class, with a document for each record. Every verb is
one command, and columns need no definition.

* `backend` serves records from any server.
* `find` hands records on while documents arrive; through a transaction's channel it takes all
  documents first, so that the sink may use the channel.
-/

import TwinStore.Mongo.Server
import TwinStore.Store.Backend

namespace TwinStore.Mongo

variable {σ τ : Type}

/-! ### Commands -/

/-- The documents that a command gives. -/
def fetchAll (server : Server σ) (channel : Channel) (command : Command) :
    Action (Session σ) (List Document) := do
  Action.ofResult (← send server channel command).complete

/-- The number that a command gives; none stands for zero. -/
def fetchNumber (server : Server σ) (channel : Channel) (command : Command) :
    Action (Session σ) UInt64 := do
  let reply ← send server channel command
  Action.ofResult (reply.complete.map fun _ => reply.number.getD 0)

/-- The record of the document that a command finds. -/
def fetchRecord (server : Server σ) (channel : Channel) (className : String) (command : Command) :
    Action (Session σ) (Option Record) := do
  let reply ← send server channel command
  let _ ← Action.ofResult reply.complete
  match reply.value with
  | none => return none
  | some document => return some (← Action.ofResult (Record.ofDocument className document))

/-- Sends a command that only succeeds or fails. -/
def execute (server : Server σ) (channel : Channel) (command : Command) :
    Action (Session σ) Unit := do
  let _ ← fetchAll server channel command

/-! ### Reading -/

def count (server : Server σ) (channel : Channel) (query : FindQuery) :
    Action (Session σ) UInt64 := do
  let className ← Action.ofResult query.requireClass
  let filter ← Action.ofResult query.filterDocument
  fetchNumber server channel (.count className filter)

/-- The options of a find; the number of records to pass over has to fit a signed word. -/
def findOptions (query : FindQuery) : Except StoreError FindOptions := do
  let skip ← query.skip.mapM fun skip =>
    match Word.signed? skip.toNat with
    | some skip => Except.ok skip
    | none => .error (.mongo .unsendable)
  return ⟨query.sortDocument?, skip, query.signedLimit?, query.projectionDocument?⟩

/-- How the first match of a query is chosen and shown. -/
def matchOptions (query : FindQuery) : MatchOptions :=
  ⟨query.sortDocument?, query.projectionDocument?⟩

/-- Hands the records of documents to a sink until a document cannot be read or the sink fails. -/
def deliver (className : String) (sink : Record → Work (Session σ) τ Unit) :
    List Document → Work (Session σ) τ Unit
  | [] => pure ()
  | document :: documents => do
    let record ← Work.ofResult (Record.ofDocument className document)
    sink record
    deliver className sink documents

def find (server : Server σ) (channel : Channel) (query : FindQuery)
    (sink : Record → Work (Session σ) τ Unit) : Work (Session σ) τ Unit := do
  let className ← Work.ofResult query.requireClass
  let filter ← Work.ofResult query.filterDocument
  let command := Command.find className filter (← Work.ofResult (findOptions query))
  match channel with
  | none =>
    let reply ← Work.ofAction (ask server none command)
    deliver className sink reply.documents
    Work.ofResult (reply.complete.map fun _ => ())
  | some number =>
    let documents ← Work.ofAction (fetchAll server (some number) command)
    deliver className sink documents

/-- The name in an entry of the list of collections. -/
def collectionName (entry : Document) : Except StoreError String :=
  match entry.get? "name" with
  | some (.text name) => .ok name
  | _ => .error (.mongo .unreadableCell)

def tables (server : Server σ) (channel : Channel) : Action (Session σ) (List String) := do
  let entries ← fetchAll server channel .listCollections
  Action.ofResult (entries.mapM collectionName)

/-! ### Writing -/

def insert (server : Server σ) (channel : Channel) (className : String) (plan : InsertPlan) :
    Action (Session σ) Record := do
  let document ← Action.ofResult plan.toDocument
  execute server channel (.insert className document)
  return plan.toRecord className

def update (server : Server σ) (channel : Channel) (query : FindQuery) (update : UpdateSet)
    (returning : Returning) : Action (Session σ) (Option Record) := do
  let className ← Action.ofResult query.requireClass
  let filter ← Action.ofResult query.filterDocument
  let changes ← Action.ofResult update.storeDocument
  fetchRecord server channel className
    (.findAndUpdate className filter changes (matchOptions query) returning false)

/-- Updates the first match or inserts a record. -/
def upsert (server : Server σ) (channel : Channel) (query : FindQuery) (plan : UpsertPlan)
    (returning : Returning) : Action (Session σ) (Option Record) := do
  let className ← Action.ofResult query.requireClass
  let filter ← Action.ofResult query.filterDocument
  let changes ← Action.ofResult plan.toDocument
  fetchRecord server channel className
    (.findAndUpdate className filter changes (matchOptions query) returning true)

def delete (server : Server σ) (channel : Channel) (query : FindQuery) :
    Action (Session σ) (Option Record) := do
  let className ← Action.ofResult query.requireClass
  let filter ← Action.ofResult query.filterDocument
  fetchRecord server channel className (.findAndDelete className filter (matchOptions query))

def deleteAll (server : Server σ) (channel : Channel) (query : FindQuery) :
    Action (Session σ) (Option UInt64) := do
  let className ← Action.ofResult query.requireClass
  let filter ← Action.ofResult query.filterDocument
  return some (← fetchNumber server channel (.deleteAll className filter))

/-! ### Definitions -/

def addIndex (server : Server σ) (channel : Channel) (className : String) (index : TableIndex) :
    Action (Session σ) Unit := do
  execute server channel (.createIndex className (← Action.ofResult index.toModel))

/-- Creates a collection unless it exists, and then its indexes. -/
def createTable (server : Server σ) (channel : Channel) (table : Table) :
    Action (Session σ) Unit := do
  let existing ← tables server channel
  if !existing.contains table.name then
    execute server channel (.create table.name)
  table.indexes.forM (addIndex server channel table.name)

/-- The fault of a server that has no such collection. -/
def missingCollection : ServerFault := .refused "26"

/-- Drops a collection; one that does not exist is not missed. -/
def dropTable (server : Server σ) (channel : Channel) (className : String) :
    Action (Session σ) Unit := do
  let reply ← send server channel (.drop className)
  if reply.fault = some missingCollection then return ()
  Action.ofResult (reply.complete.map fun _ => ())

/-- Removes fields from all documents, unless there are no fields to remove. -/
def dropColumns (server : Server σ) (channel : Channel) (className : String)
    (columns : List String) : Action (Session σ) Unit :=
  if columns = [] then pure ()
  else execute server channel (.updateAll className (unsetDocument columns))

/-! ### The backend -/

/-- Opens a transaction; there are none inside another. -/
def openTransaction : Channel → Action (Session σ) Channel
  | none => do return some (← openNew)
  | some _ => throw (.transactionUnsupported "nested mongo transaction")

/-- Ends the transaction of a channel with a command. -/
def finish (server : Server σ) (command : Command) : Channel → Action (Session σ) Unit
  | none => pure ()
  | some number => close server number command

def backend (server : Server σ) : Backend (Session σ) Channel where
  name := "mongo"
  count := count server
  find := find server
  insert := insert server
  update := update server
  upsert := upsert server
  delete := delete server
  deleteAll := deleteAll server
  openTransaction := openTransaction
  commit := finish server .commit
  abort := finish server .abort
  tables := tables server
  createTable := createTable server
  addColumns := fun _ _ _ => pure ()
  dropTable := dropTable server
  dropColumns := dropColumns server
  addIndex := addIndex server
  dropIndex := fun channel className index => execute server channel (.dropIndex className index)

end TwinStore.Mongo
