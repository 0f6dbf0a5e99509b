/-
**Operations on a transaction.** What every verb sends through the channel of a transaction.

* `Operation.requests`: the requests of an operation in order, as far as they compile.
* `Upsert.of_eq_ok_iff`: which statements an upsert compiles to.
* `Operation.GoesOn`: the replies behind which an operation sends its next request.
* `asks_count`, `asks_insert`, `asks_upsert` and so on: each verb sends its requests through an open
  transaction and does nothing through one that is over.
-/

import TwinStore.Proofs.Postgres.Exchange
import TwinStore.Proofs.Result

namespace TwinStore.Postgres

variable {σ τ α : Type}

/-! ### Requests of an operation -/

/-- The request of a definition that may not be needed. -/
def definitionRequests : Except StoreError (Option Statement) → List (Except StoreError Request)
  | .ok none => []
  | .ok (some statement) => [.ok (.run statement)]
  | .error error => [.error error]

/-- The requests of an upsert, which are compiled together. -/
def upsertRequests : Except StoreError Upsert → List (Except StoreError Request)
  | .ok statements => [.ok (.run statements.update), .ok (.run statements.insert)]
  | .error error => [.error error]

/-- The requests of an operation, in order. -/
def Operation.requests : Operation → List (Except StoreError Request)
  | .count query => [do return .run (← Statement.count query)]
  | .find query => [do
      let _ ← query.requireClass
      return .run (← Statement.select query)]
  | .insert className plan => [do return .run (← Statement.insert className plan)]
  | .update query changes returning => [do
      let _ ← query.requireClass
      return .run (← Statement.updateOne query changes returning)]
  | .upsert query plan returning => upsertRequests (Upsert.of query plan returning)
  | .delete query => [do
      let _ ← query.requireClass
      return .run (← Statement.deleteOne query)]
  | .deleteAll query => [do return .run (← Statement.deleteAll query)]
  | .tables => [.ok .listTables]
  | .createTable table =>
    definitionRequests ((Statement.createTable table).map some) ++
      table.indexes.flatMap fun index =>
        definitionRequests ((Statement.createIndex table.name index).map some)
  | .addColumns className columns => definitionRequests (Statement.addColumns className columns)
  | .dropTable className => definitionRequests ((Statement.dropTable className).map some)
  | .dropColumns className columns => definitionRequests (Statement.dropColumns className columns)
  | .addIndex className index =>
    definitionRequests ((Statement.createIndex className index).map some)
  | .dropIndex _ name => definitionRequests ((Statement.dropIndex name).map some)
  | .openTransaction => []
  | .commit => [.ok .commit]
  | .abort => [.ok .rollback]

/-- There is no fault. -/
def Reply.Succeeds (reply : Reply) : Prop := reply.fault = none

/-- There is no fault and no row. -/
def Reply.FindsNothing (reply : Reply) : Prop := reply.fault = none ∧ reply.rows = []

/-- The replies behind which an operation sends its next request: an upsert inserts where its update
has found nothing. -/
def Operation.GoesOn : Operation → Reply → Prop
  | .upsert .. => Reply.FindsNothing
  | _ => Reply.Succeeds

/-- The request that ends the transaction, if the operation does so. -/
def Operation.ending? : Operation → Option Request
  | .commit => some .commit
  | .abort => some .rollback
  | _ => none

/-- The request ends a transaction. -/
def Request.Ends : Request → Prop
  | .commit | .rollback => True
  | _ => False

/-! What ends a transaction is sent by a commit or an abort only. -/

section Endings

variable {request : Request}

theorem not_ends_of_run {compiled : Except StoreError Statement}
    (same : (do return Request.run (← compiled)) = .ok request) : ¬request.Ends := by
  obtain ⟨statement, _, made⟩ := Result.bind_eq_ok.mp same
  cases made
  exact id

theorem not_ends_of_mem_definition {definition : Except StoreError (Option Statement)}
    (member : .ok request ∈ definitionRequests definition) : ¬request.Ends := by
  match definition with
  | .error _ => cases List.mem_singleton.mp member
  | .ok none => cases member
  | .ok (some statement) =>
    cases List.mem_singleton.mp member
    exact id

theorem not_ends_of_mem_upsert {compiled : Except StoreError Upsert}
    (member : .ok request ∈ upsertRequests compiled) : ¬request.Ends := by
  match compiled with
  | .error _ => cases List.mem_singleton.mp member
  | .ok statements =>
    obtain same | same := List.mem_pair.mp member
    all_goals cases same; exact id

theorem Operation.not_ends_of_mem {operation : Operation}
    (working : operation.ending? = none) (member : .ok request ∈ operation.requests) :
    ¬request.Ends := by
  cases operation with
  | commit | abort => cases working
  | openTransaction => cases member
  | tables =>
    cases List.mem_singleton.mp member
    exact id
  | count | insert | deleteAll => exact not_ends_of_run (List.mem_singleton.mp member).symm
  | find | update | delete =>
    obtain ⟨_, _, same⟩ := Result.bind_eq_ok.mp (List.mem_singleton.mp member).symm
    exact not_ends_of_run same
  | upsert => exact not_ends_of_mem_upsert member
  | addColumns | dropTable | dropColumns | addIndex | dropIndex =>
    exact not_ends_of_mem_definition member
  | createTable table =>
    obtain first | later := List.mem_append.mp member
    · exact not_ends_of_mem_definition first
    · obtain ⟨index, _, inside⟩ := List.mem_flatMap.mp later
      exact not_ends_of_mem_definition inside

theorem Operation.ends_of_ending {operation : Operation}
    (ends : operation.ending? = some request) : request.Ends := by
  cases operation with
  | commit | abort => cases ends; trivial
  | _ => cases ends

end Endings

/-! ### Single statements -/

section Single

variable {server : Server σ} {number : Nat} {goesOn : Reply → Prop}

theorem asks_fetchAll (request : Request) :
    Asks number goesOn [.ok request] (fetchAll server.heard (some number) request) :=
  (Asks.send request).then_still fun _ => .ofResult _

theorem asks_fetchRecord (className : String) (statement : Statement) :
    Asks number goesOn [.ok (.run statement)]
      (fetchRecord server.heard (some number) className statement) := by
  refine (asks_fetchAll _).then_still fun rows => ?_
  cases rows with
  | nil => exact .ofResult _
  | cons row rest => exact .bind (.ofResult _) fun _ => .ofResult _

theorem asks_execute (statement : Statement) :
    Asks number goesOn [.ok (.run statement)] (execute server.heard (some number) statement) :=
  (Asks.send _).then_still fun _ => .ofResult _

theorem asks_count (query : FindQuery) :
    Asks number goesOn (Operation.count query).requests
      (count server.heard (some number) query) := by
  refine .compile fun statement => (asks_fetchAll _).then_still fun rows => ?_
  cases rows with
  | nil => exact .ofResult _
  | cons row rest => exact .ofResult _

theorem asks_insert (className : String) (plan : InsertPlan) :
    Asks number goesOn (Operation.insert className plan).requests
      (insert server.heard (some number) className plan) := by
  refine .compile fun statement => (asks_fetchRecord _ _).then_still fun record => ?_
  cases record with
  | none => exact .ofResult _
  | some record => exact .ofResult _

theorem asks_update (query : FindQuery) (changes : UpdateSet) (returning : Returning) :
    Asks number goesOn (Operation.update query changes returning).requests
      (update server.heard (some number) query changes returning) :=
  .compile fun _ => .compile fun _ => asks_fetchRecord _ _

theorem asks_delete (query : FindQuery) :
    Asks number goesOn (Operation.delete query).requests
      (delete server.heard (some number) query) :=
  .compile fun _ => .compile fun _ => asks_fetchRecord _ _

theorem asks_deleteAll (query : FindQuery) :
    Asks number goesOn (Operation.deleteAll query).requests
      (deleteAll server.heard (some number) query) :=
  .compile fun _ => (asks_execute _).then_still fun _ => .ofResult _

theorem asks_tables :
    Asks number goesOn Operation.tables.requests (tables server.heard (some number)) :=
  (asks_fetchAll _).then_still fun _ => .ofResult _

theorem asks_openTransaction (server : Server σ) :
    Asks number goesOn Operation.openTransaction.requests
      (openTransaction server.heard (some number)) :=
  .still fun _ => rfl

end Single

/-! ### Upserts -/

/-- What the statements of an upsert are: each is compiled from its part of the plan, for the class
of the query. -/
structure Upsert.Compiled (query : FindQuery) (plan : UpsertPlan) (returning : Returning)
    (statements : Upsert) : Prop where
  className : query.className = some statements.className
  update : Statement.updateOne query plan.update returning = .ok statements.update
  insert : Statement.insert statements.className plan.insert = .ok statements.insert
  returning : statements.returning = returning

/-- **An upsert compiles to the update and the insertion of its plan.** -/
theorem Upsert.of_eq_ok_iff {query : FindQuery} {plan : UpsertPlan} {returning : Returning}
    {statements : Upsert} :
    Upsert.of query plan returning = .ok statements ↔
      statements.Compiled query plan returning := by
  constructor
  · intro made
    obtain ⟨className, found, more⟩ := Result.bind_eq_ok.mp made
    obtain ⟨update, updates, more⟩ := Result.bind_eq_ok.mp more
    obtain ⟨insert, inserts, done⟩ := Result.bind_eq_ok.mp more
    cases done
    refine ⟨?_, updates, inserts, rfl⟩
    unfold FindQuery.requireClass at found
    split at found
    · next name named =>
      cases found
      exact named
    · cases found
  · rintro ⟨named, updates, inserts, rfl⟩
    rw [Upsert.of, FindQuery.requireClass, named]
    refine Result.bind_eq_ok.mpr ⟨_, rfl, Result.bind_eq_ok.mpr ⟨_, updates, ?_⟩⟩
    exact Result.bind_eq_ok.mpr ⟨_, inserts, rfl⟩

section Upsert

variable {server : Server σ} {number : Nat}

/-- An upsert exchanges its update, and its insertion where the update has found nothing. -/
theorem Upsert.exchanges_run (statements : Upsert) :
    Exchanges number Reply.FindsNothing (upsertRequests (.ok statements))
      (statements.run server.heard number) := by
  refine .ask_then ?found ?ended
  case found =>
    rintro ⟨_, _, _⟩ ⟨rfl, rfl⟩
    show Exchanges number _ _ (Action.ofResult (.ok []) >>= _)
    rw [Action.ofResult_bind_ok]
    refine .ask_last fun inserted => .bind (.ofResult _) fun rows => ?_
    obtain _ | ⟨row, rest⟩ := rows
    · exact .ofResult _
    · cases statements.returning with
      | before => exact .ofResult _
      | after => exact .bind (.ofResult _) fun _ => .ofResult _
  case ended =>
    rintro ⟨_ | ⟨row, rest⟩, _, _ | fault⟩ stops
    · exact absurd ⟨rfl, rfl⟩ stops
    · exact .ofResult (.error (.postgres fault))
    · show Still (Action.ofResult (row.toRecord statements.className) >>= _)
      exact .bind (.ofResult _) fun _ => .ofResult _
    · exact .ofResult (.error (.postgres fault))

theorem asks_upsert (query : FindQuery) (plan : UpsertPlan) (returning : Returning) :
    Asks number Reply.FindsNothing (Operation.upsert query plan returning).requests
      (upsert server.heard (some number) query plan returning) := by
  show Asks number _ (upsertRequests (Upsert.of query plan returning)) _
  unfold upsert
  cases Upsert.of query plan returning with
  | error error => exact .broken error
  | ok statements => exact .exclusively statements.exchanges_run

end Upsert

/-! ### Definitions -/

section Definitions

variable {server : Server σ} {number : Nat} {later : List (Except StoreError Request)}

/-- A definition is sent, and what is to be sent next if there is no fault. -/
theorem asks_define_then {definition : Except StoreError (Option Statement)}
    {next : Unit → Action (Session (Heard σ)) α}
    (asks : Asks number Reply.Succeeds later (next ())) :
    Asks number Reply.Succeeds (definitionRequests definition ++ later)
      (define server.heard (some number) definition >>= next) := by
  match definition with
  | .error error => exact .broken error
  | .ok none => exact asks
  | .ok (some statement) =>
    show Asks number _ _
      ((execute server.heard (some number) statement >>= fun _ => pure ()) >>= next)
    unfold execute
    rw [bind_assoc, bind_assoc]
    refine .send_then ?_ ?_
    · rintro ⟨_, _, _⟩ rfl
      exact asks
    · rintro ⟨_, _, _ | fault⟩ stops
      · exact absurd rfl stops
      · exact .ofResult _

theorem asks_define (definition : Except StoreError (Option Statement)) :
    Asks number Reply.Succeeds (definitionRequests definition)
      (define server.heard (some number) definition) := by
  rw [← bind_pure (define _ _ _), ← List.append_nil (definitionRequests definition)]
  exact asks_define_then (.still fun _ => rfl)

/-- The indexes of a table are created one after the other. -/
theorem asks_indexes (className : String) (indexes : List TableIndex) :
    Asks number Reply.Succeeds
      (indexes.flatMap fun index =>
        definitionRequests ((Statement.createIndex className index).map some))
      (indexes.forM (addIndex server.heard (some number) className)) := by
  induction indexes with
  | nil => exact .still fun _ => rfl
  | cons index rest step => exact asks_define_then step

theorem asks_createTable (table : Table) :
    Asks number Reply.Succeeds (Operation.createTable table).requests
      (createTable server.heard (some number) table) :=
  asks_define_then (asks_indexes table.name table.indexes)

end Definitions

/-! ### Searches -/

section Searches

variable {server : Server σ} {number : Nat}

/-- The rows that a search takes before it hands on the first record, and the class of the
records. -/
def selected (server : Server σ) (channel : Channel) (query : FindQuery) :
    Action (Session σ) (String × List Row) := do
  let className ← Action.ofResult query.requireClass
  let statement ← Action.ofResult (Statement.select query)
  return (className, ← fetchAll server channel (.run statement))

theorem asks_selected (server : Server σ) (goesOn : Reply → Prop) (query : FindQuery) :
    Asks number goesOn (Operation.find query).requests
      (selected server.heard (some number) query) :=
  .compile fun _ => .compile fun _ => (asks_fetchAll _).then_still fun _ => .ofResult _

/-- A search that gets rows has had something to send. -/
theorem sendable_of_selected {query : FindQuery} {session after : Session σ}
    {rows : String × List Row}
    (took : (selected server (some number) query).outcome session = (.ok rows, after)) :
    Sendable (Operation.find query).requests := by
  revert took
  unfold selected
  show _ → Sendable [query.requireClass >>= fun _ => Statement.select query >>= fun statement =>
    pure (.run statement)]
  cases query.requireClass with
  | error error => nofun
  | ok className =>
    cases Statement.select query with
    | error error => nofun
    | ok statement => exact fun _ => ⟨_, _, rfl⟩

/-- A search in a transaction takes all rows, and then hands on the records. -/
theorem outcome_find (query : FindQuery) (sink : Record → Work (Session σ) τ Unit) (start : τ)
    (session : Session σ) :
    (find server (some number) query sink).outcome start session =
      match (selected server (some number) query).outcome session with
      | (.ok (className, rows), middle) => (deliver className sink rows).outcome start middle
      | (.error error, middle) => ((.error error, start), middle) := by
  unfold find selected
  cases query.requireClass with
  | error error => rfl
  | ok className =>
    cases Statement.select query with
    | error error => rfl
    | ok statement =>
      simp only [Work.ofResult_bind_ok, Action.ofResult_bind_ok, Work.outcome_bind,
        Work.outcome_ofAction, Action.outcome_bind]
      obtain ⟨_ | rows, middle⟩ :=
        (fetchAll server (some number) (.run statement)).outcome session <;> rfl

end Searches

/-! ### The end of a transaction -/

section Ending

variable {server : Server σ} {number : Nat}

theorem outcome_close_finished {session : Session σ} (finished : session.phase number = .finished)
    (request : Request) :
    (close server number request).outcome session = (.error .transactionFinished, session) := by
  unfold close
  rw [Action.outcome_get_bind, finished]
  rfl

/-- An open transaction ends with one request, whatever the answer. -/
theorem outcome_close_idle {session : Session (Heard σ)} (idle : session.phase number = .idle)
    (request : Request) :
    ∃ reply, Exchanged number [(request, reply)] session
        ((close server.heard number request).outcome session).2 ∧
      ((close server.heard number request).outcome session).2.phase number = .finished := by
  unfold close
  rw [Action.outcome_get_bind, idle]
  exact ⟨_, rfl, if_pos rfl⟩

end Ending

end TwinStore.Postgres
