/-
**Calls in a log.** Any backend can be made to note what it is asked for. A user of the store asks
for it by verbs, one after the other, and may go on differently after each answer; all that this
does to the log is to add calls at its end.

* `Backend.logged`: the backend with a log of the calls behind its store.
* `Program`: what a user does, as data: verbs through a transaction and through what is around it,
  iterations, and transactions inside.
* `Connection.adds_run` is one verb, `Program.adds_run` a whole program.
-/

import TwinStore.Proofs.Store.Action
import TwinStore.Store.Recording
import TwinStore.Store.Verb

namespace TwinStore

variable {σ κ τ α : Type}

/-! ### Backends with a log -/

/-- A call through a channel, with the calls that were made from inside while it ran. -/
inductive Noted (κ : Type) where
  | mk (channel : κ) (call : Call) (within : List (Noted κ))

def Noted.call : Noted κ → Call
  | mk _ call _ => call

/-- A store with the calls that it was asked for, the oldest first. -/
structure Logged (σ κ : Type) where
  store : σ
  calls : List (Noted κ)

namespace Logged

/-- Notes a call and acts on the store. -/
def noting (channel : κ) (call : Call) (action : Action σ α) : Action (Logged σ κ) α :=
  ExceptT.mk fun logged =>
    let (result, store) := action.outcome logged.store
    pure (result, ⟨store, logged.calls ++ [.mk channel call []]⟩)

/-- Work on a store with a log as work on the store, which gathers the calls besides. -/
def gathering (work : Work (Logged σ κ) τ α) : Work σ (τ × List (Noted κ)) α :=
  ExceptT.mk fun (gathered, calls) store =>
    let ((result, gathered), logged) := Id.run ((work.gathered gathered).run ⟨store, calls⟩)
    pure ((result, (gathered, logged.calls)), logged.store)

end Logged

/-- The backend with a log. What a sink asks for is noted inside the search that calls the sink. -/
def Backend.logged (backend : Backend σ κ) : Backend (Logged σ κ) κ where
  name := backend.name
  count := fun channel query =>
    Logged.noting channel (.count query) (backend.count channel query)
  find := fun channel query sink => ExceptT.mk fun gathered logged =>
    let search := backend.find channel query fun record => Logged.gathering (sink record)
    let ((result, (gathered, within)), store) :=
      Id.run ((search.gathered (gathered, [])).run logged.store)
    pure ((result, gathered), ⟨store, logged.calls ++ [.mk channel (.find query) within]⟩)
  insert := fun channel className plan =>
    Logged.noting channel (.insert className plan) (backend.insert channel className plan)
  update := fun channel query update returning =>
    Logged.noting channel (.update query update returning)
      (backend.update channel query update returning)
  upsert := fun channel query plan returning =>
    Logged.noting channel (.upsert query plan returning)
      (backend.upsert channel query plan returning)
  delete := fun channel query =>
    Logged.noting channel (.delete query) (backend.delete channel query)
  deleteAll := fun channel query =>
    Logged.noting channel (.deleteAll query) (backend.deleteAll channel query)
  openTransaction := fun channel =>
    Logged.noting channel .openTransaction (backend.openTransaction channel)
  commit := fun channel => Logged.noting channel .commit (backend.commit channel)
  abort := fun channel => Logged.noting channel .abort (backend.abort channel)
  tables := fun channel => Logged.noting channel .tables (backend.tables channel)
  createTable := fun channel table =>
    Logged.noting channel (.createTable table.name) (backend.createTable channel table)
  addColumns := fun channel className columns =>
    Logged.noting channel (.addColumns className (columns.map Column.name))
      (backend.addColumns channel className columns)
  dropTable := fun channel className =>
    Logged.noting channel (.dropTable className) (backend.dropTable channel className)
  dropColumns := fun channel className columns =>
    Logged.noting channel (.dropColumns className columns)
      (backend.dropColumns channel className columns)
  addIndex := fun channel className index =>
    Logged.noting channel (.addIndex className index.name)
      (backend.addIndex channel className index)
  dropIndex := fun channel className index =>
    Logged.noting channel (.dropIndex className index) (backend.dropIndex channel className index)

/-- The call neither opens nor ends a transaction. -/
def Call.IsWork : Call → Prop
  | .openTransaction | .commit | .abort => False
  | _ => True

/-- The verb holds no transaction. -/
def Verb.IsPlain : Verb → Prop
  | .transaction .. => False
  | _ => True

/-! ### Programs -/

/-- What a user of a store does. Level zero is the innermost transaction that the program runs in,
the next one is what is around it, and so on. -/
inductive Program : Type → Type 1 where
  | done {α : Type} (result : Except StoreError α) : Program α
  | verb {α : Type} (level : Nat) (verb : Verb) (next : Except StoreError Answer → Program α) :
      Program α
  /-- The callback sees the records so far and may refuse the last one. -/
  | forEach {α : Type} (level : Nat) (query : FindQuery)
      (callback : List Record → Except String Unit)
      (next : Except StoreError Unit → List Record → Program α) : Program α
  | transaction {α β : Type} (level : Nat) (body : Program β)
      (next : Except StoreError β → Program α) : Program α

/-- A body that keeps the records it sees and asks a callback whether to go on. -/
def Connection.asking (callback : List Record → Except String Unit) : Body (List Record) :=
  fun record => do
    modify (· ++ [record])
    return callback (← get)

namespace Program

/-- The channels inside a new transaction: its own in front of those around it. -/
def enter (channel : κ) (channels : Nat → κ) : Nat → κ
  | 0 => channel
  | level + 1 => channels level

/-- Runs a program with a backend and the channels of all levels. -/
def run (backend : Backend σ κ) (capabilities : Capabilities) (channels : Nat → κ) :
    {α : Type} → Program α → Work (World σ) τ α
  | _, .done result => Work.ofResult result
  | _, .verb level asked next => do
    let answer ←
      (Work.ofAction (Connection.run ⟨backend, channels level, capabilities⟩ asked)).attempt
    (next answer).run backend capabilities channels
  | _, .forEach level query callback next => do
    let (result, records) ← Work.ofAction (Action.ofState
      (Connection.forEach ⟨backend, channels level, capabilities⟩ query
        (Connection.asking callback) []))
    (next result records).run backend capabilities channels
  | _, .transaction level body next => do
    let result ← (Connection.withTransaction ⟨backend, channels level, capabilities⟩
      fun inner => body.run backend capabilities (enter inner.channel channels)).attempt
    (next result).run backend capabilities channels

/-- There is no transaction inside. -/
def IsPlain : {α : Type} → Program α → Prop
  | _, .done _ => True
  | _, .verb _ asked next => asked.IsPlain ∧ ∀ answer, (next answer).IsPlain
  | _, .forEach _ _ _ next => ∀ result records, (next result records).IsPlain
  | _, .transaction _ _ _ => False

end Program

/-! ### Verbs -/

section Verbs

variable {plain : Prop} {backend : Backend σ κ}

/-- An entry that may be added: among plain verbs one that neither opens nor ends a transaction. -/
def Noted.Fits (plain : Prop) (entry : Noted κ) : Prop := plain → entry.call.IsWork

/-- An action that only adds fitting calls to the log. -/
abbrev AddsCalls (plain : Prop) (action : Action (World (Logged σ κ)) α) : Prop :=
  action.Appends (Logged.calls ∘ World.store) (Noted.Fits plain)

/-- Work that only adds fitting calls to the log. -/
abbrev WorkAddsCalls (plain : Prop) (work : Work (World (Logged σ κ)) τ α) : Prop :=
  work.Appends (Logged.calls ∘ World.store) (Noted.Fits plain)

/-- A connection to the backend with a log. -/
abbrev Connection.logged (backend : Backend σ κ) (channel : κ) (capabilities : Capabilities) :
    Connection (Logged σ κ) κ :=
  ⟨backend.logged, channel, capabilities⟩

namespace Connection

variable {channel : κ} {capabilities : Capabilities}

theorem adds_noting {call : Call} {action : Action σ α} (fits : plain → call.IsWork) :
    AddsCalls plain (World.act (Logged.noting channel call action)) :=
  World.appends_act fun _ => ⟨[_], rfl, List.forall_mem_singleton.mpr fits⟩

theorem adds_forEach (query : FindQuery) (body : Body τ) (start : τ) :
    Appends (Logged.calls ∘ World.store) (Noted.Fits plain)
      ((logged backend channel capabilities).forEach query body start) := by
  unfold forEach
  cases query.requireClass with
  | error error => exact .pure _
  | ok className =>
    exact World.appends_onStore fun _ =>
      ⟨[_], rfl, List.forall_mem_singleton.mpr fun _ => trivial⟩

/-- A transaction adds what its body adds, between the calls that open and end it. -/
theorem adds_withTransaction (mixed : ¬plain)
    {body : Connection (Logged σ κ) κ → Work (World (Logged σ κ)) τ α}
    (adds : ∀ inner, WorkAddsCalls plain (body (logged backend inner capabilities))) :
    WorkAddsCalls plain ((logged backend channel capabilities).withTransaction body) := by
  have ending : ∀ {channel : κ} {call : Call} {action : Action σ Unit},
      WorkAddsCalls plain (Work.ofAction (World.act (Logged.noting channel call action)) :
        Work (World (Logged σ κ)) τ Unit) :=
    Work.appends_ofAction (adds_noting fun only => absurd only mixed)
  refine Work.appends_bind (Work.appends_ofAction
    (adds_noting fun only => absurd only mixed)) fun inner => ?_
  refine Work.appends_bind (Work.appends_attempt (adds inner)) fun result => ?_
  cases result with
  | ok value => exact Work.appends_bind ending fun _ => Work.appends_pure _
  | error error =>
    exact Work.appends_bind (Work.appends_attempt ending) fun _ => Work.appends_throw _

/-- What is made of an answer adds nothing to the log. -/
theorem adds_map {β : Type} {action : Action (World (Logged σ κ)) β} {answer : β → α}
    (adds : AddsCalls plain action) :
    AddsCalls plain (action >>= fun value => pure (answer value)) :=
  Action.appends_bind adds fun _ => Action.appends_pure _

theorem adds_addIndex (className : String) (index : TableIndex) :
    AddsCalls plain ((logged backend channel capabilities).addIndex className index) :=
  adds_noting fun _ => trivial

theorem adds_createTable (table : Table) :
    AddsCalls plain ((logged backend channel capabilities).createTable table) :=
  adds_noting fun _ => trivial

theorem adds_ensureTable (table : Table) :
    AddsCalls plain ((logged backend channel capabilities).ensureTable table) := by
  refine Action.appends_bind (adds_noting fun _ => trivial) fun existing => ?_
  split
  · exact Action.appends_bind (adds_noting fun _ => trivial) fun _ =>
      Action.appends_forM (adds_addIndex _)
  · exact adds_createTable table

theorem adds_insert (query : FindQuery) (fields : Fields Value) :
    AddsCalls plain ((logged backend channel capabilities).insert query fields) :=
  Action.appends_bind (Action.appends_ofResult _) fun _ =>
    Action.appends_bind (adds_map World.appends_issue) fun _ => adds_noting fun _ => trivial

theorem adds_upsert (query : FindQuery) (update : UpdateSet) (setOnInsert : Fields Value)
    (returning : Returning) :
    AddsCalls plain
      ((logged backend channel capabilities).upsert query update setOnInsert returning) := by
  refine Action.appends_bind (Action.appends_ofResult _) fun _ =>
    Action.appends_bind ?_ fun _ => adds_noting fun _ => trivial
  unfold upsertPlan
  split
  · exact Action.appends_ofResult _
  · exact Action.appends_bind (adds_map World.appends_issue) fun _ => Action.appends_ofResult _

theorem adds_stream (query : FindQuery) :
    Appends (Logged.calls ∘ World.store) (Noted.Fits plain)
      ((logged backend channel capabilities).stream query) :=
  Appends.bind (adds_forEach _ _ _) fun _ => Appends.pure _

/-- A transaction adds what its verbs add, those of the body and those that are tried behind it. -/
theorem adds_transaction (mixed : ¬plain) {body after : List Verb} {failure : Option String}
    (inside : ∀ inner, WorkAddsCalls plain ((logged backend inner capabilities).runBody body))
    (behind : ∀ inner, Appends (Logged.calls ∘ World.store) (Noted.Fits plain)
      ((logged backend inner capabilities).runEach after)) :
    AddsCalls plain
      ((logged backend channel capabilities).run (.transaction body failure after)) := by
  unfold run
  refine Action.appends_bind (Action.appends_ofState ?_) fun outcome => ?_
  · refine adds_withTransaction mixed (fun inner => ?_) _
    refine Work.appends_bind (Work.appends_gather _) fun _ =>
      Work.appends_bind (inside inner) fun _ => ?_
    cases failure with
    | none => exact Work.appends_pure _
    | some reason => exact Work.appends_throw _
  · obtain ⟨result, trace⟩ := outcome
    cases channel : trace.channel with
    | none =>
      simp only [channel]
      exact Action.appends_pure _
    | some inner =>
      simp only [channel]
      exact adds_map (Action.appends_ofState (behind inner))

mutual

/-- **A verb only adds calls**, and a plain one no call that opens or ends a transaction. -/
theorem adds_run {channel : κ} : ∀ {verb : Verb}, (plain → verb.IsPlain) →
    AddsCalls plain ((logged backend channel capabilities).run verb)
  | .backend, _ | .describe, _ | .query _, _ => by
    rw [run]
    exact Action.appends_pure _
  | .count _, _ | .update _ _ _, _ | .delete _, _ | .deleteAll _, _ => by
    rw [run]
    exact adds_map (Action.appends_bind (Action.appends_ofResult _)
      fun _ => adds_noting fun _ => trivial)
  | .toList _, _ | .first _, _ => by
    rw [run]
    exact adds_map (Action.appends_bind (Action.appends_ofState (adds_forEach _ _ _))
      fun _ => Action.appends_ofResult _)
  | .forEach query failAt, _ => by
    rw [run]
    exact Action.appends_bind (Action.appends_ofState (adds_forEach _ _ _))
      fun _ => Action.appends_pure _
  | .stream query items, _ => by
    match items with
    | some 0 =>
      rw [run]
      exact Action.appends_pure _
    | none | some (_ + 1) =>
      rw [run]
      · exact adds_map (Action.appends_ofState (adds_stream query))
      · nofun
  | .insert query fields, _ => by
    rw [run]
    exact adds_map (adds_insert query fields)
  | .upsert query update setOnInsert returning, _ => by
    rw [run]
    exact adds_map (adds_upsert query update setOnInsert returning)
  | .tables, _ | .addColumns _ _, _ | .dropTable _, _ | .dropColumns _ _, _ | .addIndex _ _, _
  | .dropIndex _ _, _ | .createTable _, _ => by
    rw [run]
    exact adds_map (adds_noting fun _ => trivial)
  | .ensureTable table, _ => by
    rw [run]
    exact adds_map (adds_ensureTable table)
  | .recreateTable table, _ => by
    rw [run]
    exact adds_map (Action.appends_bind (adds_noting fun _ => trivial)
      fun _ => adds_createTable table)
  | .transaction body failure after, only =>
    adds_transaction only (fun _ => adds_runBody only) fun _ => adds_runEach only

theorem adds_runBody (mixed : ¬plain) {channel : κ} : ∀ {verbs : List Verb},
    WorkAddsCalls plain ((logged backend channel capabilities).runBody verbs)
  | [] => by
    rw [runBody]
    exact Work.appends_pure _
  | _ :: _ => by
    rw [runBody]
    exact Work.appends_bind (Work.appends_ofAction (adds_run fun only => absurd only mixed))
      fun _ => Work.appends_bind (Work.appends_gather _) fun _ => adds_runBody mixed

theorem adds_runEach (mixed : ¬plain) {channel : κ} : ∀ {verbs : List Verb},
    Appends (Logged.calls ∘ World.store) (Noted.Fits plain)
      ((logged backend channel capabilities).runEach verbs)
  | [] => by
    rw [runEach]
    exact Appends.pure _
  | _ :: _ => by
    rw [runEach]
    exact Appends.bind (adds_run fun only => absurd only mixed) fun _ =>
      Appends.bind (adds_runEach mixed) fun _ => Appends.pure _

end

end Connection

/-- **A program only adds calls**, and a plain one no call that opens or ends a transaction. -/
theorem Program.adds_run {capabilities : Capabilities} {program : Program α}
    (only : plain → program.IsPlain) (channels : Nat → κ) :
    WorkAddsCalls plain
      (program.run backend.logged capabilities channels : Work (World (Logged σ κ)) τ α) := by
  induction program generalizing τ channels with
  | done result => exact Work.appends_ofResult _
  | verb level asked next step =>
    refine Work.appends_bind (Work.appends_attempt (Work.appends_ofAction
      (Connection.adds_run fun held => (only held).1))) fun answer => ?_
    exact step answer (fun held => (only held).2 answer) channels
  | forEach level query callback next step =>
    refine Work.appends_bind (Work.appends_ofAction (Action.appends_ofState
      (Connection.adds_forEach _ _ _))) fun outcome => ?_
    exact step outcome.1 outcome.2 (fun held => only held _ _) channels
  | transaction level body next stepBody step =>
    have mixed : ¬plain := only
    refine Work.appends_bind (Work.appends_attempt (Connection.adds_withTransaction mixed
      fun inner => stepBody (fun held => absurd held mixed) _)) fun result => ?_
    exact step result (fun held => absurd held mixed) channels

end Verbs

end TwinStore
