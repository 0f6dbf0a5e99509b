/-
**Transactions on a table.** What a PostgreSQL server makes of the statements of a transaction while
another transaction works on the same table. A statement sees what was committed before it and what
its own transaction has written; a row that the other one has written is waited for, and looked at
again then.

* `Engine`: what the statements mean. `Engine.answer` answers the requests of a transaction.
* `Task`: an upsert with the meaning of its statements. `Task.turn`: what it makes of a table, if
  its search began on the table as it was seen before.
* `alone_eq_turn`: an upsert that has the table to itself searches the table that it works on.
-/

import TwinStore.Proofs.Postgres.Conversation
import TwinStore.Proofs.Postgres.Search
import TwinStore.Proofs.Sql.Insertion
import TwinStore.Proofs.Sql.Meaning

namespace TwinStore

variable {ρ δ : Type}

/-! ### Filters and insertions -/

/-- The filters of a query hold of a row. -/
def FindQuery.fits (query : FindQuery) (values : Sql.Server δ) (row : Sql.Row δ) : Bool :=
  query.predicate?.all fun predicate => predicate.holds values row

/-- The queries are of one class and have the same filters. -/
structure FindQuery.SameFilter (left right : FindQuery) : Prop where
  className : left.className = right.className
  predicate : left.predicate? = right.predicate?

theorem FindQuery.SameFilter.fits_eq {left right : FindQuery} (same : left.SameFilter right)
    (values : Sql.Server δ) : left.fits values = right.fits values := by
  unfold FindQuery.fits
  rw [same.predicate]

/-- The row that an insertion leaves behind. -/
def Statement.row (values : Sql.Server δ) (statement : Statement) : Sql.Row δ := fun column =>
  (Fields.get? (statement.columns.zip statement.arguments) column).bind values.argument

namespace Postgres

/-! ### Answering -/

/-- What a statement does to a table. -/
inductive Effect (ρ : Type) where
  /-- The first match is changed, and a row is given back. -/
  | change (search : Search ρ) (apply : ρ → Except ServerFault (ρ × Row))
  /-- A row is created, and one is given back. -/
  | create (id : String) (row : ρ) (given : Except ServerFault Row)

/-- What a server makes of values and of statements. -/
structure Engine (δ : Type) where
  values : Sql.Server δ
  effect : Statement → Effect (Sql.Row δ)
  tables : List Row

/-- What a transaction has done: the rows that it wrote, and the rows that its statement has still
to look at, if it waits for one. -/
structure Transaction (ρ : Type) where
  written : Fields ρ
  pending : Option (List String)

/-- A transaction that has done nothing. -/
def Transaction.empty : Transaction ρ := ⟨[], none⟩

/-- The committed rows of a table, and a transaction that works on it. -/
structure Access (ρ : Type) where
  table : Fields ρ
  transaction : Transaction ρ

namespace Access

variable (access : Access ρ)

/-- The rows that a transaction sees: those that are committed, and its own. -/
def visible : Fields ρ := access.table.overlay access.transaction.written

def await (rest : List String) : Access ρ :=
  { access with transaction := { access.transaction with pending := some rest } }

def proceed : Access ρ := { access with transaction := { access.transaction with pending := none } }

def undo : Access ρ := ⟨access.table, .empty⟩

def commit : Access ρ := ⟨access.visible, .empty⟩

/-- Writes a row, if that does not fail. A statement that fails undoes its transaction. -/
def write (id : String) : Except ServerFault (ρ × Row) → Option Reply × Access ρ
  | .ok (row, given) =>
    (some ⟨[given], 1, none⟩, ⟨access.table, ⟨access.transaction.written.insert id row, none⟩⟩)
  | .error fault => (some ⟨[], 0, some fault⟩, access.undo)

end Access

namespace Engine

/-- The fault of an id that is taken. -/
def taken : ServerFault := .refused "23505"

/-- The reply to a request that has nothing to give back. -/
def nothing : Reply := ⟨[], 0, none⟩

variable (engine : Engine δ) (locked : String → Bool) (access : Access (Sql.Row δ))

/-- Answers a statement, or waits for a row that another transaction has written. A search begins
with what is seen then, and goes on with it when it has waited. -/
def answerTo : Effect (Sql.Row δ) → Option Reply × Access (Sql.Row δ)
  | .change search apply =>
    match search.seek locked access.visible
        (access.transaction.pending.getD (search.found access.visible)) with
    | .nothing => (some nothing, access.proceed)
    | .blocked rest => (none, access.await rest)
    | .found id row => access.write id (apply row)
  | .create id row given =>
    if locked id then (none, access)
    else if access.visible.contains id then access.write id (.error taken)
    else access.write id (given.map fun given => (row, given))

/-- Answers a request of a transaction. -/
def answer : Request → Option Reply × Access (Sql.Row δ)
  | .openTransaction | .rollback | .giveUp => (some nothing, access.undo)
  | .commit => (some nothing, access.commit)
  | .listTables => (some ⟨engine.tables, 0, none⟩, access)
  | .run statement => answerTo locked access (engine.effect statement)

/-- A server with one transaction, which waits for none. -/
def server : Server (Access (Sql.Row δ)) where
  answer _ request := do
    let (reply, access) := engine.answer (fun _ => false) (← get) request
    set access
    return reply.getD nothing

end Engine

/-! ### Upserts -/

namespace Upsert

variable (statements : Upsert)

/-- The insertion of an upsert, and its end. -/
def inserting : Conversation (Except StoreError (Option Record)) :=
  .ask (.run statements.insert) (ending ∘ statements.insertion)

/-- What follows the update of an upsert. -/
def updated (reply : Reply) : Conversation (Except StoreError (Option Record)) :=
  match reply.complete with
  | .error error => ending (.error error)
  | .ok (row :: _) => ending ((row.toRecord statements.className).map some)
  | .ok [] => statements.inserting

/-- The update of an upsert, and what follows it. -/
def updating : Conversation (Except StoreError (Option Record)) :=
  .ask (.run statements.update) statements.updated

/-- **An upsert of its own** opens a transaction, and then updates. -/
theorem alone_eq :
    statements.alone = .ask .openTransaction fun begun =>
      match begun.complete with
      | .error error => .done (.error error)
      | .ok _ => statements.updating := by
  have following : (statements.conversation.bind ending) = statements.updating := by
    unfold conversation updating Conversation.bind
    congr 1
    funext reply
    obtain ⟨rows, affected, fault⟩ := reply
    cases fault with
    | some fault => rfl
    | none => cases rows <;> rfl
  exact congrArg (fun next => Conversation.ask .openTransaction fun begun =>
    match begun.complete with
    | .error error => .done (.error error)
    | .ok _ => next) following

end Upsert

/-- An upsert, with the meaning that its statements have to an engine. -/
structure Task (engine : Engine δ) where
  query : FindQuery
  plan : UpsertPlan
  returning : Returning
  statements : Upsert
  compiled : Upsert.of query plan returning = .ok statements
  search : Search (Sql.Row δ)
  /-- What the update makes of a row, and what it gives back. -/
  change : Sql.Row δ → Except ServerFault (Sql.Row δ × Row)
  /-- What the insertion gives back. -/
  given : Except ServerFault Row
  /-- The rows are looked for that the filters hold of. -/
  fits : search.fits = query.fits engine.values
  updates : engine.effect statements.update = .change search change
  /-- The record is created that was planned. -/
  inserts : engine.effect statements.insert =
    .create plan.insert.id (statements.insert.row engine.values) given

namespace Task

variable {engine : Engine δ} (task : Task engine)

/-- What becomes of a row that is changed, unless the upsert fails. -/
def changed? (row : Sql.Row δ) : Option (Sql.Row δ) :=
  match task.change row with
  | .ok (new, given) =>
    if (given.toRecord task.statements.className).isOk then some new else none
  | .error _ => none

/-- The row that is to be created. -/
def planned : Sql.Row δ := task.statements.insert.row engine.values

/-- The row that is created, unless its id is taken or the upsert fails. -/
def created? (table : Fields (Sql.Row δ)) : Option (Sql.Row δ) :=
  if table.contains task.plan.insert.id then none
  else
    match task.given with
    | .ok given =>
      if (task.statements.insertion ⟨[given], 1, none⟩).isOk then some task.planned else none
    | .error _ => none

/-- A table with a row changed. -/
def changeIn (table : Fields (Sql.Row δ)) (id : String) : Fields (Sql.Row δ) :=
  ((table.get? id).bind task.changed?).elim table (table.insert id)

/-- A table with the planned record. -/
def insertIn (table : Fields (Sql.Row δ)) : Fields (Sql.Row δ) :=
  (task.created? table).elim table (table.insert task.plan.insert.id)

/-- What an upsert makes of a table, if its search began when the table was as it was seen. -/
def turn (seen table : Fields (Sql.Row δ)) : Fields (Sql.Row δ) :=
  match task.search.first? seen table with
  | some id => task.changeIn table id
  | none => task.insertIn table

/-- What an upsert makes of a table that it has to itself. -/
def alone (table : Fields (Sql.Row δ)) : Fields (Sql.Row δ) :=
  ((upsert engine.server none task.query task.plan task.returning).outcome
    (.start ⟨table, .empty⟩)).2.server.table

/-! ### Statements -/

/-- Behind a statement that writes, an upsert has made a row and is going to commit it, or it has
made none and is going to give up. -/
inductive Writes (table : Fields ρ) (id : String) (made? : Option ρ)
    (next : Reply → Conversation (Except StoreError (Option Record))) :
    Option Reply × Access ρ → Prop where
  | kept {reply : Reply} {row : ρ} {record : Option Record} (made : made? = some row)
      (ending : next reply = Upsert.ending (.ok record)) :
      Writes table id made? next (some reply, ⟨table, ⟨[(id, row)], none⟩⟩)
  | lost {reply : Reply} {transaction : Transaction ρ} {error : StoreError} (made : made? = none)
      (ending : next reply = Upsert.ending (.error error)) :
      Writes table id made? next (some reply, ⟨table, transaction⟩)

section Writing

variable (table : Fields (Sql.Row δ))

/-- A row that was changed is read before the change is committed. -/
theorem writes_change (pending : Option (List String)) (id : String) (row : Sql.Row δ) :
    Writes table id (task.changed? row) task.statements.updated
      (Access.write ⟨table, ⟨[], pending⟩⟩ id (task.change row)) := by
  unfold changed?
  cases task.change row with
  | error fault => exact .lost rfl rfl
  | ok made =>
    obtain ⟨new, given⟩ := made
    have next : task.statements.updated ⟨[given], 1, none⟩ =
      Upsert.ending ((given.toRecord task.statements.className).map some) := rfl
    dsimp only
    generalize given.toRecord task.statements.className = read at next ⊢
    cases read with
    | error error => exact .lost rfl next
    | ok record => exact .kept rfl next

/-- A row that was created is read before it is committed, if it is asked for. -/
theorem writes_insert {locked : String → Bool} (free : locked task.plan.insert.id = false) :
    Writes table task.plan.insert.id (task.created? table)
      (Upsert.ending ∘ task.statements.insertion)
      (engine.answer locked ⟨table, .empty⟩ (.run task.statements.insert)) := by
  have answered : engine.answer locked ⟨table, .empty⟩ (.run task.statements.insert) =
      if table.contains task.plan.insert.id then
        Access.write ⟨table, .empty⟩ task.plan.insert.id (.error Engine.taken)
      else Access.write ⟨table, .empty⟩ task.plan.insert.id
        (task.given.map fun given => (task.planned, given)) := by
    rw [Engine.answer, task.inserts, Engine.answerTo, if_neg (by simp [free])]
    rfl
  rw [answered, created?]
  split
  · exact .lost rfl rfl
  · cases task.given with
    | error fault => exact .lost rfl rfl
    | ok given =>
      have next : (Upsert.ending ∘ task.statements.insertion) ⟨[given], 1, none⟩ =
        Upsert.ending (task.statements.insertion ⟨[given], 1, none⟩) := rfl
      dsimp only
      generalize task.statements.insertion ⟨[given], 1, none⟩ = made at next ⊢
      cases made with
      | error error => exact .lost rfl next
      | ok record => exact .kept rfl next

/-- What comes of an update that looks at rows: it waits for one, finds none or changes one. -/
inductive Searches (locked : String → Bool) (ids : List String) :
    Option Reply × Access (Sql.Row δ) → Prop where
  | waits {skipped rest : List String} (split : ids = skipped ++ rest)
      (unfit : ∀ id ∈ skipped, task.search.fitsIn table id = false)
      (held : ∃ id ∈ rest, locked id = true) :
      Searches locked ids (none, ⟨table, ⟨[], some rest⟩⟩)
  | absent (missing : ids.find? (task.search.fitsIn table) = none) :
      Searches locked ids (some Engine.nothing, ⟨table, .empty⟩)
  | changes {id : String} {row : Sql.Row δ} {answered : Option Reply × Access (Sql.Row δ)}
      (first : ids.find? (task.search.fitsIn table) = some id) (there : table.get? id = some row)
      (free : locked id = false)
      (writes : Writes table id (task.changed? row) task.statements.updated answered) :
      Searches locked ids answered

/-- An update looks at the rows that it has still to look at, and at first at all that it finds. -/
theorem searches_update (locked : String → Bool) (pending : Option (List String)) :
    task.Searches table locked (pending.getD (task.search.found table))
      (engine.answer locked ⟨table, ⟨[], pending⟩⟩ (.run task.statements.update)) := by
  have spec := task.search.seek_spec locked table (pending.getD (task.search.found table))
  have answered : engine.answer locked ⟨table, ⟨[], pending⟩⟩ (.run task.statements.update) =
      match task.search.seek locked table (pending.getD (task.search.found table)) with
      | .nothing => (some Engine.nothing, ⟨table, .empty⟩)
      | .blocked rest => (none, ⟨table, ⟨[], some rest⟩⟩)
      | .found id row => Access.write ⟨table, ⟨[], pending⟩⟩ id (task.change row) := by
    rw [Engine.answer, task.updates]
    rfl
  rw [answered]
  generalize task.search.seek locked table _ = sought at spec
  cases sought with
  | nothing => exact .absent spec
  | blocked rest =>
    obtain ⟨⟨skipped, split, unfit⟩, held⟩ := spec
    exact .waits split unfit held
  | found id row =>
    obtain ⟨first, there, free⟩ := spec
    exact .changes first there free (task.writes_change table pending id row)

end Writing

/-! ### Upserts alone -/

/-- A request that is answered at once. -/
theorem run_ask {α : Type} {request : Request} (next : Reply → Conversation α) (channel : Channel)
    {access after : Access (Sql.Row δ)} {reply : Reply}
    (answered : engine.answer (fun _ => false) access request = (some reply, after)) :
    Id.run (((Conversation.ask request next).run engine.server channel).run access) =
      Id.run (((next reply).run engine.server channel).run after) := by
  show Id.run (((next ((engine.answer _ access request).1.getD Engine.nothing)).run engine.server
    channel).run (engine.answer _ access request).2) = _
  rw [answered]
  rfl

/-- The table behind an upsert whose statement writes. -/
theorem table_of_writes {table : Fields (Sql.Row δ)} {id : String} {made? : Option (Sql.Row δ)}
    {request : Request} {next : Reply → Conversation (Except StoreError (Option Record))}
    (channel : Channel) {access : Access (Sql.Row δ)}
    (writes : Writes table id made? next (engine.answer (fun _ => false) access request)) :
    (Id.run (((Conversation.ask request next).run engine.server channel).run access)).2.table =
      made?.elim table (table.insert id) := by
  generalize answered : engine.answer (fun _ => false) access request = outcome at writes
  cases writes with
  | kept made ending =>
    rw [run_ask next channel answered, ending, made]
    rfl
  | lost made ending =>
    rw [run_ask next channel answered, ending, made]
    rfl

/-- **An upsert that has a table to itself** searches the table that it works on. -/
theorem alone_eq_turn (table : Fields (Sql.Row δ)) : task.alone table = task.turn table table := by
  have held := congrArg Prod.snd
    (Upsert.held_upsert engine.server task.compiled (.start ⟨table, .empty⟩))
  refine (congrArg Access.table held).trans ?_
  rw [Upsert.alone_eq, run_ask _ _ rfl]
  show (Id.run ((task.statements.updating.run engine.server _).run ⟨table, .empty⟩)).2.table = _
  have searches : task.Searches table (fun _ => false) (task.search.found table)
      (engine.answer (fun _ => false) ⟨table, .empty⟩ (.run task.statements.update)) :=
    task.searches_update table (fun _ => false) none
  generalize answered : engine.answer (fun _ => false) ⟨table, .empty⟩
    (.run task.statements.update) = outcome at searches
  cases searches with
  | waits split unfit held =>
    obtain ⟨_, _, locked⟩ := held
    cases locked
  | absent missing =>
    have none_ : task.search.first? table table = none := missing
    rw [Upsert.updating, run_ask _ _ answered, turn, none_]
    exact table_of_writes _ (task.writes_insert table rfl)
  | changes first there free writes =>
    have some_ : task.search.first? table table = some _ := first
    rw [turn, some_]
    show _ = changeIn _ _ _
    rw [changeIn, there]
    exact table_of_writes _ (answered ▸ writes)

end Task

end Postgres

end TwinStore
