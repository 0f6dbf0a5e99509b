/-
**What actions add to a log.** A store may keep a log. Whatever is put together from parts that only
add entries of an allowed kind at the end of the log does the same.

* `Appends`, `Action.Appends` and `Work.Appends`: what is said of steps, actions and work.
* `Action.appends_bind`, `Work.appends_bind`, `Work.appends_attempt` and so on: one lemma for each
  way of putting them together.
* `World.appends_act`: an action on a store as one on its world.
-/

import TwinStore.Store.Connection

namespace TwinStore

variable {σ τ ε α β : Type} {log : σ → List ε} {allowed : ε → Prop}

/-- A step only adds allowed entries to the log, at its end. -/
def Appends (log : σ → List ε) (allowed : ε → Prop) (step : StateM σ α) : Prop :=
  ∀ store, ∃ added, log (Id.run (step.run store)).2 = log store ++ added ∧
    ∀ entry ∈ added, allowed entry

theorem Appends.pure (value : α) : Appends log allowed (pure value : StateM σ α) :=
  fun store => ⟨[], (List.append_nil (log store)).symm, nofun⟩

theorem Appends.bind {first : StateM σ α} {next : α → StateM σ β}
    (one : Appends log allowed first) (two : ∀ value, Appends log allowed (next value)) :
    Appends log allowed (first >>= next) := by
  intro store
  obtain ⟨added, grown, permitted⟩ := one store
  obtain ⟨more, further, allowedToo⟩ :=
    two (Id.run (first.run store)).1 (Id.run (first.run store)).2
  refine ⟨added ++ more, ?_, List.forall_mem_append.mpr ⟨permitted, allowedToo⟩⟩
  rw [← List.append_assoc, ← grown]
  exact further

/-! ### Actions -/

namespace Action

/-- What follows an action begins with the store behind it, and does not begin where the action
fails. -/
theorem outcome_bind (first : Action σ α) (next : α → Action σ β) (store : σ) :
    (first >>= next).outcome store =
      match first.outcome store with
      | (.ok value, after) => (next value).outcome after
      | (.error error, after) => (.error error, after) := by
  unfold outcome
  rw [ExceptT.run_bind, StateT.run_bind, Id.run_bind]
  obtain ⟨result, after⟩ := Id.run (first.run.run store)
  cases result <;> rfl

theorem outcome_get_bind (next : σ → Action σ β) (store : σ) :
    (get >>= next : Action σ β).outcome store = (next store).outcome store := rfl

theorem ofResult_bind_ok (value : α) (next : α → Action σ β) :
    (ofResult (.ok value) >>= next : Action σ β) = next value := rfl

/-- An action only adds allowed entries to the log. -/
def Appends (log : σ → List ε) (allowed : ε → Prop) (action : Action σ α) : Prop :=
  TwinStore.Appends log allowed action.run

theorem appends_ofResult (result : Except StoreError α) :
    Appends log allowed (ofResult result : Action σ α) :=
  TwinStore.Appends.pure result

theorem appends_pure (value : α) : Appends log allowed (pure value : Action σ α) :=
  TwinStore.Appends.pure _

theorem appends_bind {first : Action σ α} {next : α → Action σ β}
    (one : Appends log allowed first) (two : ∀ value, Appends log allowed (next value)) :
    Appends log allowed (first >>= next) := by
  unfold Appends
  rw [ExceptT.run_bind]
  refine TwinStore.Appends.bind one fun result => ?_
  cases result with
  | ok value => exact two value
  | error error => exact TwinStore.Appends.pure _

theorem appends_ofState {step : StateM σ α} (appends : TwinStore.Appends log allowed step) :
    Appends log allowed (ofState step) :=
  TwinStore.Appends.bind appends fun _ => TwinStore.Appends.pure _

theorem appends_throw (error : StoreError) : Appends log allowed (throw error : Action σ α) :=
  TwinStore.Appends.pure _

theorem appends_get : Appends log allowed (get : Action σ σ) :=
  fun store => ⟨[], (List.append_nil (log store)).symm, nofun⟩

/-- A change that the log does not tell of. -/
theorem appends_modify {change : σ → σ} (same : ∀ store, log (change store) = log store) :
    Appends log allowed (modify change : Action σ PUnit) :=
  fun store => ⟨[], (same store).trans (List.append_nil (log store)).symm, nofun⟩

theorem appends_attempt {action : Action σ α} (appends : Appends log allowed action) :
    Appends log allowed action.attempt :=
  TwinStore.Appends.bind appends fun _ => TwinStore.Appends.pure _

/-- What is allowed may be said more generally. -/
theorem Appends.mono {action : Action σ α} {permitted : ε → Prop}
    (appends : Appends log allowed action) (weaker : ∀ entry, allowed entry → permitted entry) :
    Appends log permitted action := by
  intro store
  obtain ⟨added, grown, each⟩ := appends store
  exact ⟨added, grown, fun entry member => weaker entry (each entry member)⟩

theorem appends_forM {items : List β} {action : β → Action σ PUnit}
    (each : ∀ item, Appends log allowed (action item)) :
    Appends log allowed (items.forM action) := by
  induction items with
  | nil => exact appends_pure _
  | cons item rest step => exact appends_bind (each item) fun _ => step

end Action

/-! ### Work -/

namespace Work

/-- What comes of work with what it gathered, and the store behind it. -/
def outcome (work : Work σ τ α) (start : τ) (store : σ) : (Except StoreError α × τ) × σ :=
  Id.run ((work.gathered start).run store)

/-- What follows work begins with what was gathered, and does not begin where the work fails. -/
theorem gathered_bind (first : Work σ τ α) (next : α → Work σ τ β) (start : τ) :
    (first >>= next).gathered start = first.gathered start >>= fun outcome =>
      match outcome.1 with
      | .ok value => (next value).gathered outcome.2
      | .error error => pure (.error error, outcome.2) := by
  unfold gathered
  rw [ExceptT.run_bind, StateT.run_bind]
  congr 1
  funext outcome
  obtain ⟨result, gathered⟩ := outcome
  cases result <;> rfl

theorem outcome_bind (first : Work σ τ α) (next : α → Work σ τ β) (start : τ) (store : σ) :
    (first >>= next).outcome start store =
      match first.outcome start store with
      | ((.ok value, gathered), after) => (next value).outcome gathered after
      | ((.error error, gathered), after) => ((.error error, gathered), after) := by
  unfold outcome
  rw [gathered_bind, StateT.run_bind, Id.run_bind]
  obtain ⟨⟨result, gathered⟩, after⟩ := Id.run ((first.gathered start).run store)
  cases result <;> rfl

theorem ofResult_bind_ok (value : α) (next : α → Work σ τ β) :
    (ofResult (.ok value) >>= next : Work σ τ β) = next value := rfl

theorem gathered_attempt (work : Work σ τ α) (start : τ) :
    work.attempt.gathered start = work.gathered start >>= fun outcome =>
      pure (.ok outcome.1, outcome.2) := rfl

theorem gathered_ofAction (action : Action σ α) (start : τ) :
    (ofAction action : Work σ τ α).gathered start = action.run >>= fun result =>
      pure (result, start) := rfl

theorem outcome_attempt (work : Work σ τ α) (start : τ) (store : σ) :
    work.attempt.outcome start store =
      ((.ok (work.outcome start store).1.1, (work.outcome start store).1.2),
        (work.outcome start store).2) := rfl

theorem outcome_ofAction (action : Action σ α) (start : τ) (store : σ) :
    (ofAction action : Work σ τ α).outcome start store =
      (((action.outcome store).1, start), (action.outcome store).2) := rfl

theorem outcome_map (work : Work σ τ α) (answer : α → β) (start : τ) (store : σ) :
    (work >>= fun value => pure (answer value)).outcome start store =
      (((work.outcome start store).1.1.map answer, (work.outcome start store).1.2),
        (work.outcome start store).2) := by
  rw [outcome_bind]
  obtain ⟨⟨_ | _, _⟩, _⟩ := work.outcome start store <;> rfl

/-- Work only adds allowed entries to the log, whatever was gathered before. -/
def Appends (log : σ → List ε) (allowed : ε → Prop) (work : Work σ τ α) : Prop :=
  ∀ start, TwinStore.Appends log allowed (work.gathered start)

theorem appends_ofResult (result : Except StoreError α) :
    Appends log allowed (ofResult result : Work σ τ α) :=
  fun _ => TwinStore.Appends.pure _

theorem appends_pure (value : α) : Appends log allowed (pure value : Work σ τ α) :=
  fun _ => TwinStore.Appends.pure _

theorem appends_throw (error : StoreError) :
    Appends log allowed (throw error : Work σ τ α) :=
  fun _ => TwinStore.Appends.pure _

theorem appends_gather (change : τ → τ) :
    Appends log allowed (gather change : Work σ τ Unit) :=
  fun _ => TwinStore.Appends.pure _

theorem appends_bind {first : Work σ τ α} {next : α → Work σ τ β}
    (one : Appends log allowed first) (two : ∀ value, Appends log allowed (next value)) :
    Appends log allowed (first >>= next) := by
  intro start
  rw [gathered_bind]
  refine TwinStore.Appends.bind (one start) fun outcome => ?_
  obtain ⟨result, gathered⟩ := outcome
  cases result with
  | ok value => exact two value gathered
  | error error => exact TwinStore.Appends.pure _

theorem appends_ofAction {action : Action σ α} (appends : action.Appends log allowed) :
    Appends log allowed (ofAction action : Work σ τ α) := by
  intro start
  rw [gathered_ofAction]
  exact TwinStore.Appends.bind appends fun _ => TwinStore.Appends.pure _

theorem appends_attempt {work : Work σ τ α} (appends : Appends log allowed work) :
    Appends log allowed work.attempt := by
  intro start
  rw [gathered_attempt]
  exact TwinStore.Appends.bind (appends start) fun _ => TwinStore.Appends.pure _

end Work

/-! ### Worlds -/

namespace World

theorem appends_onStore {step : StateM σ α} (appends : Appends log allowed step) :
    Appends (log ∘ World.store) allowed (onStore step) :=
  fun world => appends world.store

theorem appends_act {action : Action σ α} (appends : action.Appends log allowed) :
    (act action).Appends (log ∘ World.store) allowed :=
  appends_onStore appends

theorem appends_issue : (issue : Action (World σ) Nat).Appends (log ∘ World.store) allowed :=
  fun world => ⟨[], (List.append_nil (log world.store)).symm, nofun⟩

end World

end TwinStore
