/-
**Waiting for what is in use.** A verb that needs a transaction which is in use would wait for it.
It never has to if whatever uses the transaction gives it back before anything else is done.

* `Unhindered`: a result, an action or work is not kept waiting; actions and work begin where the
  store is free, and leave it free.
* `Action.Unhindered.bind`, `Work.Unhindered.bind` and so on: one lemma for each way of putting them
  together.
* `Backend.Asked` are the verbs of a backend, and `Backend.Uses` is work that is put together from
  them. `Backend.Uses.unhindered`: where no verb is kept waiting, no such work is.
-/

import TwinStore.Proofs.Store.Reading

namespace TwinStore

variable {σ κ τ α β ε : Type}

/-! ### Results -/

/-- It did not come to waiting for what is in use. -/
def Result.Unhindered (result : Except StoreError α) : Prop := result ≠ .error .transactionBusy

namespace Result.Unhindered

variable {result : Except StoreError α}

theorem ok (value : α) : Unhindered (.ok value) := nofun

theorem bind {next : α → Except StoreError β} (one : Unhindered result)
    (two : ∀ value, Unhindered (next value)) : Unhindered (result >>= next) := by
  cases result with
  | ok value => exact two value
  | error error => exact fun same => one (congrArg Except.error (Except.error.inj same))

theorem map {change : α → β} (one : Unhindered result) : Unhindered (result.map change) := by
  cases result with
  | ok value => exact ok _
  | error error => exact fun same => one (congrArg Except.error (Except.error.inj same))

/-- Errors of another kind are not about waiting. -/
theorem mapError {wrap : ε → StoreError} (other : ∀ error, wrap error ≠ .transactionBusy)
    (compiled : Except ε α) : Unhindered (compiled.mapError wrap) := by
  cases compiled with
  | ok value => exact ok value
  | error error => exact fun same => other error (Except.error.inj same)

theorem mapM {compute : α → Except StoreError β} (each : ∀ item, Unhindered (compute item))
    (items : List α) : Unhindered (items.mapM compute) := by
  induction items with
  | nil => exact ok []
  | cons item rest step =>
    rw [List.mapM_cons]
    exact (each item).bind fun _ => step.bind fun _ => ok _

theorem optional {compute : α → Except StoreError β} (each : ∀ item, Unhindered (compute item))
    (item : Option α) : Unhindered (item.mapM compute) := by
  cases item with
  | none => exact ok none
  | some item => exact (each item).map

theorem liftCompile (compiled : Except CompileError α) : Unhindered (liftCompile compiled) :=
  mapError nofun compiled

theorem liftIdentifier (checked : Except IdentifierError α) : Unhindered (liftIdentifier checked) :=
  mapError nofun checked

theorem requireClass (query : FindQuery) : Unhindered query.requireClass := by
  unfold FindQuery.requireClass
  split <;> nofun

end Result.Unhindered

/-! ### Actions -/

/-- Where the store is free, the action leaves it free and is not kept waiting. -/
def Action.Unhindered (free : σ → Prop) (action : Action σ α) : Prop :=
  ∀ store, free store →
    free (action.outcome store).2 ∧ Result.Unhindered (action.outcome store).1

namespace Action.Unhindered

variable {free : σ → Prop} {action : Action σ α}

theorem ofResult {result : Except StoreError α} (one : Result.Unhindered result) :
    Unhindered free (Action.ofResult result) := fun _ at_ => ⟨at_, one⟩

theorem pure (value : α) : Unhindered free (Pure.pure value) := fun _ at_ => ⟨at_, nofun⟩

theorem throw {error : StoreError} (other : error ≠ .transactionBusy) :
    Unhindered free (MonadExcept.throw error : Action σ α) :=
  fun _ at_ => ⟨at_, fun same => other (Except.error.inj same)⟩

/-- More may be known of the store that a value came with. -/
theorem bind_of {later : α → σ → Prop} {next : α → Action σ β} (one : Unhindered free action)
    (known : ∀ store value after, free store → action.outcome store = (.ok value, after) →
      later value after)
    (two : ∀ value, Unhindered (later value) (next value))
    (weaker : ∀ value store, later value store → free store) :
    Unhindered free (action >>= next) := by
  intro store at_
  obtain ⟨left, came⟩ := one store at_
  rw [outcome_bind]
  rcases took : action.outcome store with ⟨error | value, after⟩
  · rw [took] at left came
    exact ⟨left, fun same => came (congrArg Except.error (Except.error.inj same))⟩
  · obtain ⟨behind, ended⟩ := two value after (known store value after at_ took)
    exact ⟨weaker value _ behind, ended⟩

theorem bind {next : α → Action σ β} (one : Unhindered free action)
    (two : ∀ value, Unhindered free (next value)) : Unhindered free (action >>= next) := by
  refine one.bind_of (fun store value after at_ took => ?_) two fun _ _ at_ => at_
  have left := (one store at_).1
  rwa [took] at left

/-- What is made of an outcome that did not come to waiting. -/
theorem attempt_bind {next : Except StoreError α → Action σ β} (one : Unhindered free action)
    (two : ∀ result, Result.Unhindered result → Unhindered free (next result)) :
    Unhindered free (action.attempt >>= next) := by
  intro store at_
  obtain ⟨left, came⟩ := one store at_
  exact two _ came _ left

theorem forM {items : List β} {act : β → Action σ PUnit}
    (each : ∀ item, Unhindered free (act item)) : Unhindered free (items.forM act) := by
  induction items with
  | nil => exact pure _
  | cons item rest step => exact (each item).bind fun _ => step

end Action.Unhindered

/-! ### Work -/

/-- Where the store is free, the work leaves it free and is not kept waiting. -/
def Work.Unhindered (free : σ → Prop) (work : Work σ τ α) : Prop :=
  ∀ start store, free store →
    free (work.outcome start store).2 ∧ Result.Unhindered (work.outcome start store).1.1

namespace Work.Unhindered

variable {free : σ → Prop} {work : Work σ τ α}

theorem ofResult {result : Except StoreError α} (one : Result.Unhindered result) :
    Unhindered free (Work.ofResult result : Work σ τ α) := fun _ _ at_ => ⟨at_, one⟩

theorem pure (value : α) : Unhindered free (Pure.pure value : Work σ τ α) :=
  fun _ _ at_ => ⟨at_, nofun⟩

theorem gather (change : τ → τ) : Unhindered free (Work.gather change : Work σ τ Unit) :=
  fun _ _ at_ => ⟨at_, nofun⟩

theorem ofAction {action : Action σ α} (one : action.Unhindered free) :
    Unhindered free (Work.ofAction action : Work σ τ α) := by
  intro start store at_
  rw [outcome_ofAction]
  exact one store at_

theorem attempt (one : Unhindered free work) : Unhindered free work.attempt := by
  intro start store at_
  rw [outcome_attempt]
  exact ⟨(one start store at_).1, nofun⟩

theorem bind {next : α → Work σ τ β} (one : Unhindered free work)
    (two : ∀ value, Unhindered free (next value)) : Unhindered free (work >>= next) := by
  intro start store at_
  obtain ⟨left, came⟩ := one start store at_
  rw [outcome_bind]
  rcases took : work.outcome start store with ⟨⟨error | value, gathered⟩, after⟩
  · rw [took] at left came
    exact ⟨left, fun same => came (congrArg Except.error (Except.error.inj same))⟩
  · rw [took] at left
    exact two value gathered after left

/-- What is handed on to a sink that is not kept waiting. -/
theorem handOn {sink : Record → Work σ τ Unit} (each : ∀ record, Unhindered free (sink record))
    {items : List (Except StoreError Record)} (read : ∀ item ∈ items, Result.Unhindered item) :
    Unhindered free (Work.handOn sink items) := by
  induction items with
  | nil => exact pure ()
  | cons item rest step =>
    obtain ⟨first, later⟩ := List.forall_mem_cons.mp read
    exact (ofResult first).bind fun record => (each record).bind fun _ => step later

end Work.Unhindered

/-! ### Verbs of a backend -/

/-- What a backend is asked through a channel, searches apart. -/
inductive Backend.Asked (backend : Backend σ κ) (channel : κ) : {α : Type} → Action σ α → Prop where
  | count (query : FindQuery) : Asked backend channel (backend.count channel query)
  | insert (className : String) (plan : InsertPlan) :
      Asked backend channel (backend.insert channel className plan)
  | update (query : FindQuery) (changes : UpdateSet) (returning : Returning) :
      Asked backend channel (backend.update channel query changes returning)
  | upsert (query : FindQuery) (plan : UpsertPlan) (returning : Returning) :
      Asked backend channel (backend.upsert channel query plan returning)
  | delete (query : FindQuery) : Asked backend channel (backend.delete channel query)
  | deleteAll (query : FindQuery) : Asked backend channel (backend.deleteAll channel query)
  | openTransaction : Asked backend channel (backend.openTransaction channel)
  | commit : Asked backend channel (backend.commit channel)
  | abort : Asked backend channel (backend.abort channel)
  | tables : Asked backend channel (backend.tables channel)
  | createTable (table : Table) : Asked backend channel (backend.createTable channel table)
  | addColumns (className : String) (columns : List Column) :
      Asked backend channel (backend.addColumns channel className columns)
  | dropTable (className : String) : Asked backend channel (backend.dropTable channel className)
  | dropColumns (className : String) (columns : List String) :
      Asked backend channel (backend.dropColumns channel className columns)
  | addIndex (className : String) (index : TableIndex) :
      Asked backend channel (backend.addIndex channel className index)
  | dropIndex (className name : String) :
      Asked backend channel (backend.dropIndex channel className name)

/-- Work that is put together from verbs through channels of a kind. The sink of a search is such
work as well. -/
inductive Backend.Uses (backend : Backend σ κ) (through : κ → Prop) :
    {α : Type} → Work σ τ α → Prop where
  | result {α : Type} {result : Except StoreError α} (own : result ≠ .error .transactionBusy) :
      Uses backend through (Work.ofResult result)
  | gather (change : τ → τ) : Uses backend through (Work.gather change)
  | verb {α : Type} {channel : κ} {action : Action σ α} (may : through channel)
      (asked : backend.Asked channel action) : Uses backend through (Work.ofAction action)
  | find {channel : κ} {query : FindQuery} {sink : Record → Work σ τ Unit} (may : through channel)
      (each : ∀ record, Uses backend through (sink record)) :
      Uses backend through (backend.find channel query sink)
  | attempt {α : Type} {work : Work σ τ α} (uses : Uses backend through work) :
      Uses backend through work.attempt
  | seq {α β : Type} {work : Work σ τ α} {next : α → Work σ τ β} (uses : Uses backend through work)
      (later : ∀ value, Uses backend through (next value)) : Uses backend through (work >>= next)

/-- Through channels of a kind, no verb of a backend is kept waiting where the store is free. -/
structure Backend.NeverWaits (backend : Backend σ κ) (through : κ → Prop) (free : σ → Prop) :
    Prop where
  verb : ∀ {channel : κ} {α : Type} {action : Action σ α}, through channel →
    backend.Asked channel action → action.Unhindered free
  find : ∀ {channel : κ} {τ : Type} (query : FindQuery) {sink : Record → Work σ τ Unit},
    through channel → (∀ record, (sink record).Unhindered free) →
      (backend.find channel query sink).Unhindered free

/-- **Work that uses a backend is not kept waiting** where no verb is. -/
theorem Backend.Uses.unhindered {backend : Backend σ κ} {through : κ → Prop} {free : σ → Prop}
    {work : Work σ τ α} (uses : backend.Uses through work)
    (never : backend.NeverWaits through free) : work.Unhindered free := by
  induction uses with
  | result own => exact .ofResult own
  | gather change => exact .gather change
  | verb may asked => exact .ofAction (never.verb may asked)
  | find may _ step => exact never.find _ may step
  | attempt _ step => exact step.attempt
  | seq _ _ first rest => exact first.bind rest

end TwinStore
