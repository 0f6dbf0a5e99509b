/-
**MongoDB verbs never wait for their own transaction.** A transaction is in use while a command of
it runs, and by nobody behind it, whatever comes of the command.

* `Free`: nobody uses the transaction of a number.
* `unhindered_exclusively`, `unhindered_send` and so on: keeping a transaction for an action,
  commands, and the end of a transaction.
* `neverWaits`: the verbs, through the transaction and outside any.
-/

import TwinStore.Proofs.Mongo.Definition
import TwinStore.Proofs.Store.Waiting

namespace TwinStore.Mongo

open TwinStore.Result (Unhindered)

variable {σ τ α : Type}

/-! ### Documents -/

theorem unhindered_filterDocument (query : FindQuery) : Unhindered query.filterDocument :=
  .liftCompile _

theorem unhindered_documentEntries (fields : Fields Value) : Unhindered (documentEntries fields) :=
  .liftCompile _

theorem unhindered_insertDocument (plan : InsertPlan) : Unhindered plan.toDocument :=
  (unhindered_documentEntries plan.fields).bind fun _ => .ok _

theorem unhindered_upsertDocument (plan : UpsertPlan) : Unhindered plan.toDocument :=
  (Unhindered.liftCompile _).bind fun _ =>
    ((unhindered_documentEntries _).bind fun _ => .ok _).bind fun _ => .ok _

theorem unhindered_toModel (index : TableIndex) : Unhindered index.toModel := by
  unfold TableIndex.toModel
  split <;> nofun

theorem unhindered_findOptions (query : FindQuery) : Unhindered (findOptions query) := by
  refine (Unhindered.optional (fun skip => ?_) query.skip).bind fun _ => .ok _
  cases Word.signed? skip.toNat <;> nofun

theorem unhindered_ofDocument (className : String) (document : Document) :
    Unhindered (Record.ofDocument className document) :=
  (Unhindered.liftCompile _).bind fun _ => .ok _

/-! ### Replies -/

theorem unhindered_complete (reply : Reply) : Unhindered reply.complete := by
  unfold Reply.complete
  split <;> nofun

theorem unhindered_collectionName (entry : Document) : Unhindered (collectionName entry) := by
  unfold collectionName
  split <;> nofun

/-! ### Commands -/

/-- Nobody uses the transaction of a number. -/
def Free (number : Nat) (session : Session σ) : Prop :=
  (session.transaction number).busy = false

/-- None of a transaction's commands comes from elsewhere. -/
def Own (number : Nat) (channel : Channel) : Prop := ∀ other ∈ channel, other = number

section Commands

variable {server : Server σ} {number : Nat} {channel : Channel}

theorem unhindered_ask {free : Session σ → Prop} (command : Command)
    (apart : ∀ (session : Session σ) (state : σ), free session →
      free { session with server := state }) :
    (ask server channel command).Unhindered free :=
  fun session at_ => ⟨apart session _ at_, nofun⟩

/-- What is done meanwhile may do anything but wait: nobody uses the transaction behind it. -/
theorem unhindered_exclusively {action : Action (Session σ) α}
    (runs : action.Unhindered fun _ => True) :
    (exclusively number action).Unhindered (Free number) := by
  intro session free
  rw [outcome_exclusively_free action free]
  refine ⟨?_, (runs _ trivial).2⟩
  show (if number = number then _ else _ : TransactionState).busy = false
  rw [if_pos rfl]

theorem unhindered_sendInside (command : Command) :
    (sendInside server number command).Unhindered fun _ => True := by
  refine Action.Unhindered.bind (fun _ at_ => ⟨at_, nofun⟩) fun session => ?_
  split
  · exact unhindered_ask command fun _ _ at_ => at_
  · exact Action.Unhindered.bind (fun _ at_ => ⟨at_, nofun⟩) fun _ =>
      unhindered_ask command fun _ _ at_ => at_

theorem unhindered_send (own : Own number channel) (command : Command) :
    (send server channel command).Unhindered (Free number) := by
  cases channel with
  | none => exact unhindered_ask command fun _ _ free => free
  | some other =>
    cases own other rfl
    exact unhindered_exclusively (unhindered_sendInside command)

theorem unhindered_fetchAll (own : Own number channel) (command : Command) :
    (fetchAll server channel command).Unhindered (Free number) :=
  (unhindered_send own command).bind fun reply => .ofResult (unhindered_complete reply)

theorem unhindered_fetchNumber (own : Own number channel) (command : Command) :
    (fetchNumber server channel command).Unhindered (Free number) :=
  (unhindered_send own command).bind fun reply => .ofResult (unhindered_complete reply).map

theorem unhindered_fetchRecord (own : Own number channel) (className : String)
    (command : Command) :
    (fetchRecord server channel className command).Unhindered (Free number) := by
  refine (unhindered_send own command).bind fun reply => ?_
  refine (Action.Unhindered.ofResult (unhindered_complete reply)).bind fun _ => ?_
  cases reply.value with
  | none => exact .pure _
  | some document =>
    exact (Action.Unhindered.ofResult (unhindered_ofDocument className document)).bind
      fun _ => .pure _

theorem unhindered_execute (own : Own number channel) (command : Command) :
    (execute server channel command).Unhindered (Free number) :=
  (unhindered_fetchAll own command).bind fun _ => .pure _

theorem unhindered_openNew : (openNew : Action (Session σ) Nat).Unhindered (Free number) := by
  refine Action.Unhindered.bind (fun _ free => ⟨free, nofun⟩) fun session => ?_
  refine Action.Unhindered.bind (fun later free => ⟨?_, nofun⟩) fun _ => .pure _
  show (if number = session.opened then _ else _ : TransactionState).busy = false
  split
  · rfl
  · exact free

theorem unhindered_close (command : Command) :
    (close server number command).Unhindered (Free number) := by
  refine unhindered_exclusively ?_
  refine Action.Unhindered.bind (fun _ at_ => ⟨at_, nofun⟩) fun session => ?_
  refine Action.Unhindered.bind (fun _ at_ => ⟨at_, nofun⟩) fun _ => ?_
  split
  · exact (unhindered_ask command fun _ _ at_ => at_).bind fun reply =>
      .ofResult (unhindered_complete reply).map
  · exact .pure _

theorem unhindered_tables (own : Own number channel) :
    (tables server channel).Unhindered (Free number) :=
  (unhindered_fetchAll own _).bind fun entries =>
    .ofResult (.mapM unhindered_collectionName entries)

theorem unhindered_addIndex (own : Own number channel) (className : String) (index : TableIndex) :
    (addIndex server channel className index).Unhindered (Free number) :=
  (Action.Unhindered.ofResult (unhindered_toModel index)).bind fun _ => unhindered_execute own _

end Commands

/-! ### Verbs -/

section Verbs

variable {server : Server σ} {number : Nat} {channel : Channel}

theorem unhindered_deliver (className : String) {sink : Record → Work (Session σ) τ Unit}
    (each : ∀ record, (sink record).Unhindered (Free number)) (documents : List Document) :
    (deliver className sink documents).Unhindered (Free number) := by
  rw [deliver_eq]
  exact .handOn each (List.forall_mem_map.mpr fun document _ =>
    unhindered_ofDocument className document)

theorem unhindered_find (own : Own number channel) (query : FindQuery)
    {sink : Record → Work (Session σ) τ Unit}
    (each : ∀ record, (sink record).Unhindered (Free number)) :
    (find server channel query sink).Unhindered (Free number) := by
  refine (Work.Unhindered.ofResult (.requireClass query)).bind fun className => ?_
  refine (Work.Unhindered.ofResult (unhindered_filterDocument query)).bind fun filter => ?_
  refine (Work.Unhindered.ofResult (unhindered_findOptions query)).bind fun options => ?_
  cases channel with
  | none =>
    refine (Work.Unhindered.ofAction (unhindered_ask _ fun _ _ free => free)).bind fun reply => ?_
    exact (unhindered_deliver className each _).bind fun _ =>
      .ofResult (unhindered_complete reply).map
  | some other =>
    exact (Work.Unhindered.ofAction (unhindered_fetchAll own _)).bind fun documents =>
      unhindered_deliver className each documents

/-- What a query selects is compiled first. -/
theorem unhindered_filtered {query : FindQuery} {next : String → Document → Action (Session σ) α}
    (each : ∀ className filter, (next className filter).Unhindered (Free number)) :
    (do
      let className ← Action.ofResult query.requireClass
      let filter ← Action.ofResult query.filterDocument
      next className filter : Action (Session σ) α).Unhindered (Free number) :=
  (Action.Unhindered.ofResult (.requireClass query)).bind fun className =>
    (Action.Unhindered.ofResult (unhindered_filterDocument query)).bind fun filter =>
      each className filter

theorem unhindered_verb (own : Own number channel) {action : Action (Session σ) α}
    (asked : (backend server).Asked channel action) : action.Unhindered (Free number) := by
  cases asked with
  | count query => exact unhindered_filtered fun _ _ => unhindered_fetchNumber own _
  | insert className plan =>
    exact (Action.Unhindered.ofResult (unhindered_insertDocument plan)).bind fun _ =>
      (unhindered_execute own _).bind fun _ => .pure _
  | update query changes returning =>
    exact unhindered_filtered fun className _ => (Action.Unhindered.ofResult (.liftCompile _)).bind
      fun _ => unhindered_fetchRecord own className _
  | upsert query plan returning =>
    exact unhindered_filtered fun className _ =>
      (Action.Unhindered.ofResult (unhindered_upsertDocument plan)).bind
        fun _ => unhindered_fetchRecord own className _
  | delete query =>
    exact unhindered_filtered fun className _ => unhindered_fetchRecord own className _
  | deleteAll query =>
    exact unhindered_filtered fun _ _ => (unhindered_fetchNumber own _).bind fun _ => .pure _
  | openTransaction =>
    cases channel with
    | none => exact unhindered_openNew.bind fun _ => .pure _
    | some other => exact .throw nofun
  | commit | abort =>
    cases channel with
    | none => exact .pure ()
    | some other =>
      cases own other rfl
      exact unhindered_close _
  | tables => exact unhindered_tables own
  | createTable table =>
    refine (unhindered_tables own).bind fun existing => ?_
    have indexes : (table.indexes.forM (addIndex server channel table.name)).Unhindered
        (Free number) := .forM fun index => unhindered_addIndex own table.name index
    split
    · exact (unhindered_execute own _).bind fun _ => indexes
    · exact indexes
  | addColumns className columns => exact .pure ()
  | dropTable className =>
    refine (unhindered_send own _).bind fun reply => ?_
    split
    · exact .pure ()
    · exact .ofResult (unhindered_complete reply).map
  | dropColumns className columns =>
    show (dropColumns server channel className columns).Unhindered (Free number)
    unfold dropColumns
    split
    · exact .pure ()
    · exact unhindered_execute own _
  | addIndex className index => exact unhindered_addIndex own className index
  | dropIndex className name => exact unhindered_execute own _

end Verbs

/-- **No verb waits for the transaction that it is asked through.** -/
theorem neverWaits (server : Server σ) (number : Nat) :
    (backend server).NeverWaits (Own number) (Free number) where
  verb own asked := unhindered_verb own asked
  find query _ own each := unhindered_find own query each

end TwinStore.Mongo
