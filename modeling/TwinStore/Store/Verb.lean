/-
**Verbs as data.** A verb with its arguments, and what it gives. A transaction is a verb that holds
other verbs: those of its body, and those that are tried on its channel when it is over.

* `Connection.run` runs a verb.
-/

import TwinStore.Store.Connection

namespace TwinStore

/-- A verb with its arguments. -/
inductive Verb where
  | backend
  | describe
  | query (query : FindQuery)
  | count (query : FindQuery)
  | toList (query : FindQuery)
  | first (query : FindQuery)
  /-- The body refuses the record of this number; the first one has the number one. -/
  | forEach (query : FindQuery) (failAt : Option Nat)
  /-- As many items are read, or all. -/
  | stream (query : FindQuery) (items : Option Nat)
  | insert (query : FindQuery) (fields : Fields Value)
  | update (query : FindQuery) (update : UpdateSet) (returning : Returning)
  | upsert (query : FindQuery) (update : UpdateSet) (setOnInsert : Fields Value)
      (returning : Returning)
  | delete (query : FindQuery)
  | deleteAll (query : FindQuery)
  | tables
  | createTable (table : Table)
  | ensureTable (table : Table)
  | recreateTable (table : Table)
  | addColumns (className : String) (columns : List Column)
  | dropTable (className : String)
  | dropColumns (className : String) (columns : List String)
  | addIndex (className : String) (index : TableIndex)
  | dropIndex (className index : String)
  /-- The body runs verbs until one fails, and then fails for the given reason if there is one. -/
  | transaction (body : List Verb) (failure : Option String) (after : List Verb)

/-- What a verb gives. -/
inductive Answer where
  | done
  | text (text : String)
  | query (query : FindQuery)
  | number (number : UInt64)
  | record (record : Option Record)
  | records (records : List Record)
  /-- The records that a body has seen, and why the iteration failed. -/
  | seen (records : List Record) (failure : Option StoreError)
  /-- The items that were read, and whether the end was. -/
  | items (items : List (Except StoreError Record)) (ended : Bool)
  | names (names : List String)
  /-- What the verbs of the body gave, why the transaction failed, and what came of the verbs behind
  it. -/
  | transaction (body : List Answer) (failure : Option StoreError)
      (after : List (Except StoreError Answer))

instance : Inhabited Answer := ⟨.done⟩

/-- The failure of a result. -/
def failureOf {α : Type} : Except StoreError α → Option StoreError
  | .ok _ => none
  | .error error => some error

variable {σ κ : Type}

namespace Connection

/-- A body that keeps the records it sees and refuses the one of a number. -/
def refusing (failAt : Option Nat) : Body (List Record) := fun record => do
  modify (· ++ [record])
  let seen ← get
  if failAt = some seen.length then
    return .error ("stopped at " ++ String.ofList (Digits.ofNat seen.length))
  else return .ok ()

/-- What reading gives of a stream: as many items as are asked for, and whether there are fewer. -/
def readItems (items : Option Nat) (all : List (Except StoreError Record)) : Answer :=
  match items with
  | none => .items all true
  | some count => .items (all.take count) (all.length < count)

/-- What a transaction's body leaves behind: the transaction's channel, if one was opened, and the
answers so far. -/
structure Trace (κ : Type) where
  channel : Option κ
  answers : List Answer

mutual

def run (connection : Connection σ κ) : Verb → Action (World σ) Answer
  | .backend => return .text connection.backend.name
  | .describe => return .text connection.description
  | .query query => return .query query
  | .count query => return .number (← connection.count query)
  | .toList query => return .records (← connection.toList query)
  | .first query => return .record (← connection.first query)
  | .forEach query failAt => do
    let (result, records) ← Action.ofState (connection.forEach query (refusing failAt) [])
    return .seen records (failureOf result)
  | .stream _ (some 0) => return .items [] false
  | .stream query items => return readItems items (← Action.ofState (connection.stream query))
  | .insert query fields => return .record (some (← connection.insert query fields))
  | .update query update returning =>
    return .record (← connection.update query update returning)
  | .upsert query update setOnInsert returning =>
    return .record (← connection.upsert query update setOnInsert returning)
  | .delete query => return .record (← connection.delete query)
  | .deleteAll query => return ((← connection.deleteAll query).map .number).getD .done
  | .tables => return .names (← connection.tables)
  | .createTable table => do
    connection.createTable table
    return .done
  | .ensureTable table => do
    connection.ensureTable table
    return .done
  | .recreateTable table => do
    connection.recreateTable table
    return .done
  | .addColumns className columns => do
    connection.addColumns className columns
    return .done
  | .dropTable className => do
    connection.dropTable className
    return .done
  | .dropColumns className columns => do
    connection.dropColumns className columns
    return .done
  | .addIndex className index => do
    connection.addIndex className index
    return .done
  | .dropIndex className index => do
    connection.dropIndex className index
    return .done
  | .transaction body failure after => do
    let work := connection.withTransaction fun inner => do
      Work.gather fun trace => { trace with channel := some inner.channel }
      inner.runBody body
      match failure with
      | none => pure ()
      | some reason => throw (.other reason)
    let (result, trace) ← Action.ofState (work.gathered ⟨none, []⟩)
    match trace.channel with
    | none => return .transaction trace.answers (failureOf result) []
    | some channel =>
      let answers ← Action.ofState (runEach { connection with channel } after)
      return .transaction trace.answers (failureOf result) answers

/-- Runs verbs until one fails, and keeps their answers. -/
def runBody (connection : Connection σ κ) : List Verb → Work (World σ) (Trace κ) Unit
  | [] => pure ()
  | verb :: verbs => do
    let answer ← Work.ofAction (connection.run verb)
    Work.gather fun trace => { trace with answers := trace.answers ++ [answer] }
    connection.runBody verbs

/-- Runs verbs one after the other, whether they fail or not. -/
def runEach (connection : Connection σ κ) :
    List Verb → StateM (World σ) (List (Except StoreError Answer))
  | [] => return []
  | verb :: verbs => do
    let answer ← (connection.run verb).run
    return answer :: (← connection.runEach verbs)

end

end Connection

end TwinStore
