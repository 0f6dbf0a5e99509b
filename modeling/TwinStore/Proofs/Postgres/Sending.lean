/-
**What the PostgreSQL verbs run.** The statements that a verb may send, through any channel and
whatever the server answers.

* `Entry.RunsOnly`: an entry of the log that runs no other statements than those permitted.
* `appends_ask` and `appends_exclusively`: such entries are added by requests, and inside a
  transaction.
* `runs_update`, `runs_delete` and `runs_upsert`: the verbs that change a record and give it back.
-/

import TwinStore.Proofs.Postgres.Exchange

namespace TwinStore.Postgres

variable {σ α : Type} {permitted : Statement → Prop}

/-- No statement is run that is not permitted. -/
def Entry.RunsOnly (permitted : Statement → Prop) : Entry → Prop
  | .asked _ (.run statement) _ => permitted statement
  | _ => True

/-- What happened at the server of a session. -/
def heardEntries (session : Session (Heard σ)) : List Entry := session.server.entries

/-- The action runs no statement that is not permitted. -/
abbrev Runs (permitted : Statement → Prop) (action : Action (Session (Heard σ)) α) : Prop :=
  action.Appends heardEntries (Entry.RunsOnly permitted)

/-- What is permitted may be said more generally. -/
theorem runs_mono {action : Action (Session (Heard σ)) α} {allowed : Statement → Prop}
    (runs : Runs permitted action) (weaker : ∀ statement, permitted statement → allowed statement) :
    Runs allowed action := by
  refine Action.Appends.mono runs fun entry only => ?_
  cases entry with
  | issued operation => trivial
  | returned operation failure => trivial
  | asked channel request reply =>
    cases request with
    | run statement => exact weaker statement only
    | _ => trivial

/-! ### Requests -/

section Requests

variable {server : Server σ}

theorem runs_ask {channel : Channel} {request : Request}
    (allowed : ∀ reply, (Entry.asked channel request reply).RunsOnly permitted) :
    Runs permitted (ask server.heard channel request) := by
  refine Action.appends_ofState fun session => ⟨[_], rfl, ?_⟩
  intro entry member
  rw [List.mem_singleton.mp member]
  exact allowed _

/-- A transaction is kept without a word to the server. -/
theorem runs_exclusively {number : Nat} {action : Action (Session (Heard σ)) α}
    (runs : Runs permitted action) : Runs permitted (exclusively number action) := by
  refine Action.appends_bind Action.appends_get fun session => ?_
  cases session.phase number with
  | finished => exact Action.appends_throw _
  | busy => exact Action.appends_throw _
  | idle =>
    refine Action.appends_bind (Action.appends_modify fun _ => rfl) fun _ => ?_
    refine Action.appends_bind (Action.appends_attempt runs) fun result => ?_
    exact Action.appends_bind (Action.appends_modify fun _ => rfl) fun _ =>
      Action.appends_ofResult result

theorem runs_send {channel : Channel} {request : Request}
    (allowed : ∀ reply, (Entry.asked channel request reply).RunsOnly permitted) :
    Runs permitted (send server.heard channel request) := by
  cases channel with
  | none => exact runs_ask allowed
  | some number => exact runs_exclusively (runs_ask allowed)

theorem runs_command {channel : Channel} {request : Request}
    (allowed : ∀ reply, (Entry.asked channel request reply).RunsOnly permitted) :
    Runs permitted (command server.heard channel request) :=
  Action.appends_bind (runs_ask allowed) fun _ => Action.appends_ofResult _

variable (server)

theorem runs_openNew : Runs permitted (openNew server.heard) :=
  Action.appends_bind Action.appends_get fun _ =>
    Action.appends_bind (runs_command fun _ => trivial) fun _ =>
      Action.appends_bind (Action.appends_modify fun _ => rfl) fun _ => Action.appends_pure _

theorem runs_close (number : Nat) {request : Request}
    (allowed : ∀ reply, (Entry.asked (some number) request reply).RunsOnly permitted) :
    Runs permitted (close server.heard number request) := by
  refine Action.appends_bind Action.appends_get fun session => ?_
  cases session.phase number with
  | finished => exact Action.appends_throw _
  | busy => exact Action.appends_throw _
  | idle => exact Action.appends_bind (Action.appends_modify fun _ => rfl) fun _ =>
      runs_command allowed

theorem runs_giveUp (number : Nat) : Runs permitted (giveUp server.heard number) :=
  Action.appends_bind (Action.appends_modify fun _ => rfl) fun _ =>
    Action.appends_bind (runs_ask fun _ => trivial) fun _ => Action.appends_pure _

end Requests

/-! ### Verbs -/

section Verbs

variable (server : Server σ) (channel : Channel)

theorem runs_fetchRecord (className : String) {statement : Statement}
    (allowed : permitted statement) :
    Runs permitted (fetchRecord server.heard channel className statement) := by
  refine Action.appends_bind (Action.appends_bind (runs_send fun _ => allowed) fun _ =>
    Action.appends_ofResult _) fun rows => ?_
  cases rows with
  | nil => exact Action.appends_pure _
  | cons row rest => exact Action.appends_bind (Action.appends_ofResult _) fun _ =>
      Action.appends_pure _

/-- Work that begins with a compilation goes on with what was compiled. -/
theorem runs_compiled {β : Type} {compiled : Except StoreError β}
    {next : β → Action (Session (Heard σ)) α}
    (runs : ∀ value, compiled = .ok value → Runs permitted (next value)) :
    Runs permitted (Action.ofResult compiled >>= next) := by
  cases result : compiled with
  | error error => exact Action.appends_ofResult (.error error)
  | ok value => exact runs value result

/-- **An update runs its statement.** -/
theorem runs_update (query : FindQuery) (changes : UpdateSet) (returning : Returning) :
    Runs (fun statement => Statement.updateOne query changes returning = .ok statement)
      (update server.heard channel query changes returning) :=
  runs_compiled fun className _ => runs_compiled fun _ compiled =>
    runs_fetchRecord server channel className compiled

/-- **A deletion runs its statement.** -/
theorem runs_delete (query : FindQuery) :
    Runs (fun statement => Statement.deleteOne query = .ok statement)
      (delete server.heard channel query) :=
  runs_compiled fun className _ => runs_compiled fun _ compiled =>
    runs_fetchRecord server channel className compiled

theorem runs_statements {number : Nat} {statements : Upsert}
    (updates : permitted statements.update) (inserts : permitted statements.insert) :
    Runs permitted (statements.run server.heard number) := by
  refine Action.appends_bind (runs_ask fun _ => updates) fun updated => ?_
  refine Action.appends_bind (Action.appends_ofResult _) fun rows => ?_
  cases rows with
  | cons row rest => exact Action.appends_bind (Action.appends_ofResult _) fun _ =>
      Action.appends_pure _
  | nil =>
    refine Action.appends_bind (runs_ask fun _ => inserts) fun inserted => ?_
    refine Action.appends_bind (Action.appends_ofResult _) fun rows => ?_
    cases rows with
    | nil => exact Action.appends_throw _
    | cons row rest =>
      cases statements.returning with
      | before => exact Action.appends_pure _
      | after => exact Action.appends_bind (Action.appends_ofResult _) fun _ =>
          Action.appends_pure _

/-- The statements of an upsert. -/
def Upsert.Has (query : FindQuery) (plan : UpsertPlan) (returning : Returning)
    (statement : Statement) : Prop :=
  ∃ statements, Upsert.of query plan returning = .ok statements ∧
    (statement = statements.update ∨ statement = statements.insert)

/-- **An upsert runs its update and its insertion**, and nothing else. -/
theorem runs_upsert (query : FindQuery) (plan : UpsertPlan) (returning : Returning) :
    Runs (Upsert.Has query plan returning)
      (upsert server.heard channel query plan returning) := by
  refine runs_compiled fun statements compiled => ?_
  have runs (number : Nat) :
      Runs (Upsert.Has query plan returning) (statements.run server.heard number) :=
    runs_statements server ⟨statements, compiled, .inl rfl⟩ ⟨statements, compiled, .inr rfl⟩
  cases channel with
  | some number => exact runs_exclusively (runs number)
  | none =>
    refine Action.appends_bind (runs_openNew server) fun number => ?_
    refine Action.appends_bind (Action.appends_attempt (runs number)) fun result => ?_
    cases result with
    | ok record => exact Action.appends_bind (runs_close server number fun _ => trivial) fun _ =>
        Action.appends_pure _
    | error error => exact Action.appends_bind (runs_giveUp server number) fun _ =>
        Action.appends_throw _

end Verbs

end TwinStore.Postgres
