/-
**PostgreSQL verbs never wait for their own transaction.** A transaction is in use while a statement
of it runs. Whatever comes of the statement, nobody uses the transaction behind it.

* `Free`: nobody uses the transaction of a number.
* `unhindered_exclusively`, `unhindered_send` and so on: keeping a transaction for an action,
  requests, and what ends a transaction.
* `neverWaits`: the verbs, through the transaction and outside any.
-/

import TwinStore.Proofs.Postgres.Conversation
import TwinStore.Proofs.Store.Waiting

namespace TwinStore.Postgres

open TwinStore.Result (Unhindered)

variable {σ τ α : Type}

/-! ### Statements -/

theorem unhindered_ofParts (parts : List Draft) : Unhindered (Statement.ofParts parts) :=
  (Unhindered.liftCompile _).map

theorem unhindered_tableOf (className : String) : Unhindered (tableOf className) :=
  .liftIdentifier _

theorem unhindered_table (query : FindQuery) : Unhindered query.table :=
  (Unhindered.requireClass query).bind unhindered_tableOf

/-- A statement on the table of a query. -/
theorem unhindered_onTable (query : FindQuery) (parts : Identifier → List Draft) :
    Unhindered (query.table >>= fun table => Statement.ofParts (parts table)) :=
  (unhindered_table query).bind fun _ => unhindered_ofParts _

theorem unhindered_select (query : FindQuery) : Unhindered (Statement.select query) :=
  unhindered_onTable query _

theorem unhindered_updateOne (query : FindQuery) (changes : UpdateSet) (returning : Returning) :
    Unhindered (Statement.updateOne query changes returning) := unhindered_onTable query _

theorem unhindered_insert (className : String) (plan : InsertPlan) :
    Unhindered (Statement.insert className plan) :=
  (unhindered_tableOf className).bind fun _ => unhindered_ofParts _

theorem unhindered_upsert (query : FindQuery) (plan : UpsertPlan) (returning : Returning) :
    Unhindered (Upsert.of query plan returning) :=
  (Unhindered.requireClass query).bind fun _ => (unhindered_updateOne query _ _).bind fun _ =>
    (unhindered_insert _ _).bind fun _ => .ok _

theorem unhindered_alterTable (className : String) (changes : List Draft) :
    Unhindered (Statement.alterTable className changes) := by
  unfold Statement.alterTable
  split
  · exact .ok none
  · exact (unhindered_tableOf className).bind fun _ => (unhindered_ofParts _).bind fun _ => .ok _

theorem unhindered_definition (column : Column) : Unhindered column.definition :=
  (Unhindered.liftIdentifier _).bind fun _ => .ok _

theorem unhindered_createTable (table : Table) : Unhindered (Statement.createTable table) :=
  (Unhindered.mapM unhindered_definition _).bind fun _ => (unhindered_tableOf _).bind fun _ =>
    unhindered_ofParts _

theorem unhindered_addColumns (className : String) (columns : List Column) :
    Unhindered (Statement.addColumns className columns) :=
  (Unhindered.mapM (fun column => (unhindered_definition column).bind fun _ => .ok _) _).bind
    fun _ => unhindered_alterTable className _

theorem unhindered_dropColumns (className : String) (columns : List String) :
    Unhindered (Statement.dropColumns className columns) :=
  (Unhindered.mapM (fun _ => (Unhindered.liftIdentifier _).bind fun _ => .ok _) _).bind
    fun _ => unhindered_alterTable className _

theorem unhindered_createIndex (className : String) (index : TableIndex) :
    Unhindered (Statement.createIndex className index) := by
  unfold Statement.createIndex
  by_cases none : index.columns = []
  · rw [if_pos none]
    nofun
  · rw [if_neg none]
    exact (Unhindered.mapM (fun _ => (Unhindered.liftIdentifier _).bind fun _ => .ok _) _).bind
      fun _ => (Unhindered.liftIdentifier _).bind fun _ => (unhindered_tableOf className).bind
        fun _ => unhindered_ofParts _

/-! ### Replies -/

theorem unhindered_complete (reply : Reply) : Unhindered reply.complete := by
  unfold Reply.complete
  split <;> nofun

theorem unhindered_read (column : ResultColumn) (cell : Cell) :
    Unhindered (cell.read column) := by
  unfold Cell.read
  repeat' split
  all_goals nofun

theorem unhindered_toRecord (className : String) (row : Row) :
    Unhindered (row.toRecord className) :=
  (Unhindered.mapM (fun _ => (unhindered_read _ _).bind fun _ => .ok _) _).bind fun _ => .ok _

theorem unhindered_count (row : Row) : Unhindered row.count := by
  unfold Row.count
  repeat' split
  all_goals nofun

theorem unhindered_text (row : Row) : Unhindered row.text := by
  unfold Row.text
  repeat' split
  all_goals nofun

/-! ### Requests -/

/-- Nobody uses the transaction of a number. -/
def Free (number : Nat) (session : Session σ) : Prop := session.phase number ≠ .busy

/-- None of a transaction's requests comes from elsewhere. -/
def Own (number : Nat) (channel : Channel) : Prop := ∀ other ∈ channel, other = number

section Requests

variable {server : Server σ} {number : Nat} {channel : Channel}

theorem free_setPhase {session : Session σ} {phase : Phase} (other : Nat) (idle : phase ≠ .busy)
    (free : Free number session) : Free number (session.setPhase other phase) := by
  show (if number = other then phase else session.phase number) ≠ .busy
  split
  · exact idle
  · exact free

theorem unhindered_ask {free : Session σ → Prop} (request : Request)
    (apart : ∀ (session : Session σ) (state : σ), free session →
      free { session with server := state }) :
    (ask server channel request).Unhindered free :=
  fun session at_ => ⟨apart session _ at_, nofun⟩

/-- What is done meanwhile may do anything but wait: nobody uses the transaction behind it. -/
theorem unhindered_exclusively {action : Action (Session σ) α}
    (runs : action.Unhindered fun _ => True) :
    (exclusively number action).Unhindered (Free number) := by
  intro session free
  cases phase : session.phase number with
  | busy => exact absurd phase free
  | finished =>
    rw [outcome_exclusively_finished phase]
    exact ⟨free, nofun⟩
  | idle =>
    rw [outcome_exclusively_idle phase]
    refine ⟨?_, (runs (session.setPhase number .busy) trivial).2⟩
    show (if number = number then Phase.idle else _) ≠ .busy
    rw [if_pos rfl]
    nofun

theorem unhindered_send (own : Own number channel) (request : Request) :
    (send server channel request).Unhindered (Free number) := by
  cases channel with
  | none => exact unhindered_ask request fun _ _ free => free
  | some other =>
    cases own other rfl
    exact unhindered_exclusively (unhindered_ask request fun _ _ _ => trivial)

theorem unhindered_fetchAll (own : Own number channel) (request : Request) :
    (fetchAll server channel request).Unhindered (Free number) :=
  (unhindered_send own request).bind fun reply => .ofResult (unhindered_complete reply)

theorem unhindered_fetchRecord (own : Own number channel) (className : String)
    (statement : Statement) :
    (fetchRecord server channel className statement).Unhindered (Free number) := by
  refine (unhindered_fetchAll own _).bind fun rows => ?_
  cases rows with
  | nil => exact .pure _
  | cons row _ =>
    exact (Action.Unhindered.ofResult (unhindered_toRecord className row)).bind fun _ => .pure _

theorem unhindered_execute (own : Own number channel) (statement : Statement) :
    (execute server channel statement).Unhindered (Free number) :=
  (unhindered_send own _).bind fun reply => .ofResult (unhindered_complete reply).map

theorem unhindered_define (own : Own number channel)
    {definition : Except StoreError (Option Statement)} (compiled : Unhindered definition) :
    (define server channel definition).Unhindered (Free number) := by
  refine (Action.Unhindered.ofResult compiled).bind fun statement => ?_
  cases statement with
  | none => exact .pure _
  | some statement => exact (unhindered_execute own statement).bind fun _ => .pure _

/-! ### Transactions -/

theorem unhindered_openNew : (openNew server).Unhindered (Free number) := by
  refine Action.Unhindered.bind (fun _ free => ⟨free, nofun⟩) fun session => ?_
  refine Action.Unhindered.bind ((unhindered_ask _ fun _ _ free => free).bind fun reply =>
    .ofResult (unhindered_complete reply).map) fun _ => ?_
  exact Action.Unhindered.bind (fun _ free => ⟨free_setPhase _ nofun free, nofun⟩) fun _ => .pure _

/-- A new transaction is used by nobody. -/
theorem free_opened {session after : Session σ} {other : Nat}
    (opened : (openNew server).outcome session = (.ok other, after)) : Free other after := by
  rw [Upsert.outcome_openNew] at opened
  simp only at opened
  split at opened
  · cases opened
  · cases opened
    rw [Free, Upsert.phase_opened]
    nofun

/-- The end of an open transaction is sent, and it is over then. -/
theorem unhindered_close {free : Session σ → Prop} {other : Nat} (request : Request)
    (idle : ∀ session, free session → Free other session)
    (ends : ∀ (session : Session σ) (state : σ), free session →
      free { session.setPhase other .finished with server := state }) :
    (close server other request).Unhindered free := by
  intro session at_
  unfold close
  rw [Action.outcome_get_bind]
  cases phase : session.phase other with
  | busy => exact absurd phase (idle session at_)
  | finished => exact ⟨at_, nofun⟩
  | idle => exact ⟨ends session _ at_, (unhindered_complete _).map⟩

theorem unhindered_giveUp {free : Session σ → Prop} (other : Nat)
    (ends : ∀ (session : Session σ) (state : σ), free session →
      free { session.setPhase other .finished with server := state }) :
    (giveUp server other).Unhindered free :=
  fun session at_ => ⟨ends session _ at_, nofun⟩

/-- The statements of an upsert leave all transactions as they are. -/
theorem unhindered_run {free : Session σ → Prop} (statements : Upsert) (other : Nat)
    (apart : ∀ (session : Session σ) (state : σ), free session →
      free { session with server := state }) :
    (statements.run server other).Unhindered free := by
  refine (unhindered_ask _ apart).bind fun updated => ?_
  refine (Action.Unhindered.ofResult (unhindered_complete updated)).bind fun rows => ?_
  cases rows with
  | cons row _ =>
    exact (Action.Unhindered.ofResult (unhindered_toRecord _ row)).bind fun _ => .pure _
  | nil =>
    refine (unhindered_ask _ apart).bind fun inserted => ?_
    refine (Action.Unhindered.ofResult (unhindered_complete inserted)).bind fun rows => ?_
    split
    · exact .throw nofun
    · exact .pure _
    · exact (Action.Unhindered.ofResult (unhindered_toRecord _ _)).bind fun _ => .pure _

end Requests

/-! ### Verbs -/

section Verbs

variable (server : Server σ) {number : Nat} {channel : Channel}

theorem unhindered_upsertVerb (own : Own number channel) (query : FindQuery) (plan : UpsertPlan)
    (returning : Returning) :
    (upsert server channel query plan returning).Unhindered (Free number) := by
  refine (Action.Unhindered.ofResult (unhindered_upsert query plan returning)).bind
    fun statements => ?_
  cases channel with
  | some other =>
    cases own other rfl
    exact unhindered_exclusively (unhindered_run statements number fun _ _ _ => trivial)
  | none =>
    have both (session : Session σ) (other : Nat) (after : Session σ) (free : Free number session)
        (opened : (openNew server).outcome session = (.ok other, after)) :
        Free number after ∧ Free other after := by
      have unhindered : (openNew server).Unhindered (Free number) := unhindered_openNew
      have left := (unhindered session free).1
      rw [opened] at left
      exact ⟨left, free_opened opened⟩
    refine unhindered_openNew.bind_of both (fun other => ?_) fun _ _ both => both.1
    refine (unhindered_run statements other fun _ _ both => both).attempt_bind fun result came => ?_
    cases result with
    | ok record =>
      exact (unhindered_close _ (fun _ both => both.2) fun _ _ both =>
        ⟨free_setPhase _ nofun both.1, free_setPhase _ nofun both.2⟩).bind fun _ => .pure _
    | error error =>
      exact (unhindered_giveUp other fun _ _ both =>
        ⟨free_setPhase _ nofun both.1, free_setPhase _ nofun both.2⟩).bind fun _ =>
          .throw fun same => came (congrArg Except.error same)

theorem unhindered_deliver (className : String) {sink : Record → Work (Session σ) τ Unit}
    (each : ∀ record, (sink record).Unhindered (Free number)) (rows : List Row) :
    (deliver className sink rows).Unhindered (Free number) := by
  rw [deliver_eq]
  exact .handOn each (List.forall_mem_map.mpr fun row _ => unhindered_toRecord className row)

theorem unhindered_find (own : Own number channel) (query : FindQuery)
    {sink : Record → Work (Session σ) τ Unit}
    (each : ∀ record, (sink record).Unhindered (Free number)) :
    (find server channel query sink).Unhindered (Free number) := by
  refine (Work.Unhindered.ofResult (.requireClass query)).bind fun className => ?_
  refine (Work.Unhindered.ofResult (unhindered_select query)).bind fun statement => ?_
  cases channel with
  | none =>
    refine (Work.Unhindered.ofAction (unhindered_ask _ fun _ _ free => free)).bind fun reply => ?_
    exact (unhindered_deliver className each _).bind fun _ =>
      .ofResult (unhindered_complete reply).map
  | some other =>
    exact (Work.Unhindered.ofAction (unhindered_fetchAll own _)).bind fun rows =>
      unhindered_deliver className each rows

theorem unhindered_verb (own : Own number channel) {action : Action (Session σ) α}
    (asked : (backend server).Asked channel action) : action.Unhindered (Free number) := by
  cases asked with
  | count query =>
    refine (Action.Unhindered.ofResult (unhindered_onTable query _)).bind fun statement => ?_
    refine (unhindered_fetchAll own _).bind fun rows => ?_
    cases rows with
    | nil => exact .throw nofun
    | cons row _ => exact .ofResult (unhindered_count row)
  | insert className plan =>
    refine (Action.Unhindered.ofResult (unhindered_insert className plan)).bind fun statement => ?_
    refine (unhindered_fetchRecord own _ _).bind fun record => ?_
    cases record with
    | none => exact .throw nofun
    | some record => exact .pure record
  | update query changes returning =>
    exact (Action.Unhindered.ofResult (.requireClass query)).bind fun className =>
      (Action.Unhindered.ofResult (unhindered_updateOne query changes returning)).bind
        fun _ => unhindered_fetchRecord own className _
  | upsert query plan returning => exact unhindered_upsertVerb server own query plan returning
  | delete query =>
    exact (Action.Unhindered.ofResult (.requireClass query)).bind fun className =>
      (Action.Unhindered.ofResult (unhindered_onTable query _)).bind
        fun _ => unhindered_fetchRecord own className _
  | deleteAll query =>
    exact (Action.Unhindered.ofResult (unhindered_onTable query _)).bind fun statement =>
      (unhindered_execute own statement).bind fun _ => .pure _
  | openTransaction =>
    cases channel with
    | none => exact unhindered_openNew.bind fun _ => .pure _
    | some other => exact .throw nofun
  | commit | abort =>
    cases channel with
    | none => exact .pure ()
    | some other =>
      cases own other rfl
      exact unhindered_close _ (fun _ free => free) fun _ _ free => free_setPhase _ nofun free
  | tables =>
    exact (unhindered_fetchAll own _).bind fun rows => .ofResult (.mapM unhindered_text rows)
  | createTable table =>
    exact (unhindered_define own (unhindered_createTable table).map).bind fun _ =>
      .forM fun index => unhindered_define own (unhindered_createIndex _ index).map
  | addColumns className columns => exact unhindered_define own (unhindered_addColumns _ _)
  | dropTable className => exact unhindered_define own ((unhindered_tableOf className).bind
      fun _ => unhindered_ofParts _).map
  | dropColumns className columns => exact unhindered_define own (unhindered_dropColumns _ _)
  | addIndex className index => exact unhindered_define own (unhindered_createIndex _ index).map
  | dropIndex className name =>
    exact unhindered_define own ((Unhindered.liftIdentifier _).bind
      fun _ => unhindered_ofParts _).map

end Verbs

/-- **No verb waits for the transaction that it is asked through.** -/
theorem neverWaits (server : Server σ) (number : Nat) :
    (backend server).NeverWaits (Own number) (Free number) where
  verb own asked := unhindered_verb server own asked
  find query _ own each := unhindered_find server own query each

end TwinStore.Postgres
