/-
**What becomes of definitions.** To define a table takes several commands, each of which is compiled
when its turn has come.

* `Carried`: what is sent of commands that are compiled and sent one after the other, and how it
  ends. `Carried.of_fault` says what that means for a command that does not compile.
* `Action.CarriesFrom`: an action carries commands out from a state on. It is closed under what
  definitions are made of.
* `TableVerb` are the verbs that define a table, and `Definer` the commands of a backend;
  `TableVerb.carriesFrom_perform` puts the one together from the other.
-/

import TwinStore.Proofs.Store.Action

namespace TwinStore

variable {σ κ ε α β : Type}

/-! ### Commands in order -/

/-- An error of a server, or of the way to it. -/
def StoreError.OfServer : StoreError → Prop
  | .postgres _ | .mongo _ | .transactionFinished | .transactionBusy => True
  | _ => False

/-- What becomes of commands that are compiled and sent one after the other: those that were sent,
and the result. Where it may stop, an error of the server ends the matter. -/
inductive Carried (stops : Prop) :
    List (Except StoreError ε) → List ε → Except StoreError Unit → Prop where
  | done : Carried stops [] [] (.ok ())
  | faulty (error : StoreError) (later : List (Except StoreError ε)) :
      Carried stops (.error error :: later) [] (.error error)
  | stopped {error : StoreError} (may : stops) (own : error.OfServer)
      (commands : List (Except StoreError ε)) : Carried stops commands [] (.error error)
  | next {command : ε} {later : List (Except StoreError ε)} {sent : List ε}
      {result : Except StoreError Unit} (rest : Carried stops later sent result) :
      Carried stops (.ok command :: later) (command :: sent) result

namespace Carried

variable {stops : Prop} {commands later : List (Except StoreError ε)} {sent more : List ε}
  {result : Except StoreError Unit} {error : StoreError}

theorem mono {other : Prop} (weaker : stops → other)
    (carried : Carried stops commands sent result) : Carried other commands sent result := by
  induction carried with
  | done => exact .done
  | faulty error later => exact .faulty error later
  | stopped may own commands => exact .stopped (weaker may) own commands
  | next _ step => exact .next step

/-- Behind commands that were all carried out come others. -/
theorem append (carried : Carried stops commands sent (.ok ()))
    (rest : Carried stops later more result) :
    Carried stops (commands ++ later) (sent ++ more) result := by
  generalize succeeded : Except.ok () = first at carried
  induction carried with
  | done => exact rest
  | faulty | stopped => cases succeeded
  | next _ step => exact .next (step succeeded)

/-- Where commands fail, others behind them do not matter. -/
theorem append_of_error (carried : Carried stops commands sent (.error error)) :
    Carried stops (commands ++ later) sent (.error error) := by
  generalize failed : Except.error error = first at carried
  induction carried with
  | done => cases failed
  | faulty other rest => exact .faulty other (rest ++ later)
  | stopped may own commands => exact .stopped may own (commands ++ later)
  | next _ step => exact .next (step failed)

/-- **Commands stop at a fault.** All in front of it are sent, and then it is the result, unless the
server ends the matter before. -/
theorem of_fault {front : List ε}
    (carried : Carried stops (front.map .ok ++ .error error :: later) sent result) :
    sent <+: front ∧
      (sent = front ∧ result = .error error ∨
        stops ∧ ∃ own, result = .error own ∧ own.OfServer) := by
  induction front generalizing sent with
  | nil =>
    cases carried with
    | faulty => exact ⟨List.prefix_rfl, .inl ⟨rfl, rfl⟩⟩
    | stopped may own => exact ⟨List.prefix_rfl, .inr ⟨may, _, rfl, own⟩⟩
  | cons command rest step =>
    cases carried with
    | stopped may own => exact ⟨List.nil_prefix, .inr ⟨may, _, rfl, own⟩⟩
    | next carried =>
      obtain ⟨part, same | ended⟩ := step carried
      · exact ⟨List.cons_prefix_cons.mpr ⟨rfl, part⟩, .inl ⟨congrArg _ same.1, same.2⟩⟩
      · exact ⟨List.cons_prefix_cons.mpr ⟨rfl, part⟩, .inr ended⟩

end Carried

/-! ### Actions that carry commands out -/

namespace Action

variable {log : σ → List ε} {ready : σ → Prop} {commands later : List (Except StoreError ε)}

/-- From a state on, an action carries commands out. What is sent is logged; a ready server answers
without a fault and stays ready. -/
def CarriesFrom (log : σ → List ε) (ready : σ → Prop) (commands : List (Except StoreError ε))
    (action : Action σ Unit) (store : σ) : Prop :=
  ∃ sent, log (action.outcome store).2 = log store ++ sent ∧
    Carried (¬ready store) commands sent (action.outcome store).1 ∧
    (ready store → ready (action.outcome store).2)

/-- An action sends nothing that is logged, and fails for the server only. -/
structure Looks (log : σ → List ε) (ready : σ → Prop) (action : Action σ α) (store : σ) : Prop where
  logged : log (action.outcome store).2 = log store
  failing : ∀ error, (action.outcome store).1 = .error error → ¬ready store ∧ error.OfServer
  staying : ready store → ready (action.outcome store).2

/-- What an action that looks something up comes to. -/
theorem Looks.of_outcome {action : Action σ α} {store after : σ} {result : Except StoreError α}
    (came : action.outcome store = (result, after)) (logged : log after = log store)
    (own : ∀ error, result = .error error → error.OfServer)
    (answered : ready store → (∃ value, result = .ok value) ∧ ready after) :
    Looks log ready action store := by
  constructor
  · rw [came, logged]
  · intro error failed
    rw [came] at failed
    refine ⟨fun here => ?_, own error failed⟩
    obtain ⟨⟨value, succeeded⟩, -⟩ := answered here
    cases failed.symm.trans succeeded
  · rw [came]
    exact fun here => (answered here).2

theorem carriesFrom_pure (store : σ) :
    CarriesFrom log ready ([] : List (Except StoreError ε)) (pure () : Action σ Unit) store :=
  ⟨[], (List.append_nil _).symm, .done, id⟩

theorem carriesFrom_fault (error : StoreError) (store : σ) :
    CarriesFrom log ready (.error error :: later) (ofResult (.error error)) store :=
  ⟨[], (List.append_nil _).symm, .faulty error later, id⟩

/-- A command is sent, and its reply decides what comes of it. -/
theorem CarriesFrom.of_sent {action : Action σ Unit} {store after : σ} {command : ε}
    {result : Except StoreError Unit} (came : action.outcome store = (result, after))
    (logged : log after = log store ++ [command])
    (own : ∀ error, result = .error error → error.OfServer)
    (answered : ready store → result = .ok () ∧ ready after) :
    CarriesFrom log ready [.ok command] action store := by
  unfold CarriesFrom
  rw [came]
  refine ⟨[command], logged, .next ?_, fun here => (answered here).2⟩
  cases result with
  | ok => exact .done
  | error error => exact .stopped (fun here => nomatch (answered here).1) (own error rfl) []

/-- Nothing is sent where the server is not ready. -/
theorem CarriesFrom.of_unsent {action : Action σ Unit} {store : σ} {error : StoreError}
    (came : action.outcome store = (.error error, store)) (own : error.OfServer)
    (shut : ¬ready store) : CarriesFrom log ready commands action store := by
  unfold CarriesFrom
  rw [came]
  exact ⟨[], (List.append_nil _).symm, .stopped shut own commands, id⟩

/-- One action after the other. -/
theorem CarriesFrom.seq {first next : Action σ Unit} {store : σ}
    (one : CarriesFrom log ready commands first store)
    (two : CarriesFrom log ready later next (first.outcome store).2) :
    CarriesFrom log ready (commands ++ later) (first >>= fun _ => next) store := by
  obtain ⟨sent, grown, carried, stays⟩ := one
  obtain ⟨more, grownToo, carriedToo, staysToo⟩ := two
  unfold CarriesFrom
  rw [outcome_bind]
  revert grown carried stays grownToo carriedToo staysToo
  obtain ⟨_ | ⟨⟨⟩⟩, after⟩ := first.outcome store
  · intro grown carried stays _ _ _
    exact ⟨sent, grown, carried.append_of_error, stays⟩
  · intro grown carried stays grownToo carriedToo staysToo
    refine ⟨sent ++ more, ?_, carried.append (carriedToo.mono (mt stays)), staysToo ∘ stays⟩
    rw [← List.append_assoc, ← grown]
    exact grownToo

/-- What is looked up first decides what is carried out. -/
theorem Looks.carriesFrom {look : Action σ α} {next : α → Action σ Unit} {store : σ}
    (looks : Looks log ready look store)
    (carries : ∀ value, (look.outcome store).1 = .ok value →
      CarriesFrom log ready commands (next value) (look.outcome store).2) :
    CarriesFrom log ready commands (look >>= next) store := by
  obtain ⟨logged, failing, staying⟩ := looks
  unfold CarriesFrom
  rw [outcome_bind]
  revert carries logged failing staying
  obtain ⟨error | value, after⟩ := look.outcome store
  · intro _ logged failing staying
    obtain ⟨may, own⟩ := failing error rfl
    exact ⟨[], logged.trans (List.append_nil _).symm, .stopped may own commands, staying⟩
  · intro carries logged _ staying
    obtain ⟨sent, grown, carried, stays⟩ := carries value rfl
    exact ⟨sent, logged ▸ grown, carried.mono (mt staying), stays ∘ staying⟩

/-- An action for each item of a list. -/
theorem carriesFrom_forM {items : List β} {action : β → Action σ Unit}
    {each : β → List (Except StoreError ε)}
    (carries : ∀ item store, CarriesFrom log ready (each item) (action item) store) (store : σ) :
    CarriesFrom log ready (items.flatMap each) (items.forM action) store := by
  induction items generalizing store with
  | nil => exact carriesFrom_pure store
  | cons item rest step => exact (carries item store).seq (step _)

/-- What is carried out in a store is carried out in its world. -/
theorem CarriesFrom.act {action : Action σ Unit} {world : World σ}
    (carries : CarriesFrom log ready commands action world.store) :
    CarriesFrom (fun world => log world.store) (fun world => ready world.store) commands
      (World.act action) world := carries

theorem Looks.act {action : Action σ α} {world : World σ}
    (looks : Looks log ready action world.store) :
    Looks (fun world => log world.store) (fun world => ready world.store) (World.act action)
      world := ⟨looks.logged, looks.failing, looks.staying⟩

end Action

/-! ### Verbs that define a table -/

/-- The verbs that bring a table in line with its description. -/
inductive TableVerb where
  | create
  | ensure
  | recreate

/-- Performs a verb. -/
def TableVerb.perform (connection : Connection σ κ) (table : Table) :
    TableVerb → Action (World σ) Unit
  | create => connection.createTable table
  | ensure => connection.ensureTable table
  | recreate => connection.recreateTable table

/-- The commands that a backend compiles for its definitions, in order. Those that create a table
may depend on the state of the store. -/
structure Definer (σ ε : Type) where
  create : Table → σ → List (Except StoreError ε)
  addColumns : String → List Column → List (Except StoreError ε)
  addIndex : String → TableIndex → List (Except StoreError ε)
  drop : String → List (Except StoreError ε)

/-- The backend lists a table of this name. -/
def Backend.knows (backend : Backend σ κ) (channel : κ) (name : String) (store : σ) : Bool :=
  match ((backend.tables channel).outcome store).1 with
  | .ok names => names.contains name
  | .error _ => false

/-- The commands of a verb, in order. -/
def TableVerb.commands (definer : Definer σ ε) (backend : Backend σ κ) (channel : κ) (table : Table)
    (store : σ) : TableVerb → List (Except StoreError ε)
  | create => definer.create table store
  | ensure =>
    if backend.knows channel table.name store then
      definer.addColumns table.name table.userColumns ++
        table.indexes.flatMap (definer.addIndex table.name)
    else definer.create table ((backend.tables channel).outcome store).2
  | recreate =>
    definer.drop table.name ++
      definer.create table ((backend.dropTable channel table.name).outcome store).2

/-- Through a channel, a backend carries out the commands of its definitions. -/
structure Backend.Carries (backend : Backend σ κ) (channel : κ) (definer : Definer σ ε)
    (log : σ → List ε) (ready : σ → Prop) : Prop where
  tables : ∀ store, (backend.tables channel).Looks log ready store
  create : ∀ table store,
    (backend.createTable channel table).CarriesFrom log ready (definer.create table store) store
  addColumns : ∀ name columns store,
    (backend.addColumns channel name columns).CarriesFrom log ready
      (definer.addColumns name columns) store
  addIndex : ∀ name index store,
    (backend.addIndex channel name index).CarriesFrom log ready (definer.addIndex name index) store
  drop : ∀ name store,
    (backend.dropTable channel name).CarriesFrom log ready (definer.drop name) store

/-- **A verb carries its commands out.** -/
theorem TableVerb.carriesFrom_perform {connection : Connection σ κ} {definer : Definer σ ε}
    {log : σ → List ε} {ready : σ → Prop}
    (carries : connection.backend.Carries connection.channel definer log ready)
    (verb : TableVerb) (table : Table) (world : World σ) :
    (verb.perform connection table).CarriesFrom (fun world => log world.store)
      (fun world => ready world.store)
      (verb.commands definer connection.backend connection.channel table world.store) world := by
  cases verb with
  | create => exact (carries.create table world.store).act
  | recreate => exact (carries.drop table.name world.store).act.seq (carries.create table _).act
  | ensure =>
    refine (carries.tables world.store).act.carriesFrom fun names listed => ?_
    have known : connection.backend.knows connection.channel table.name world.store =
        names.contains table.name := by
      unfold Backend.knows
      rw [show ((connection.backend.tables connection.channel).outcome world.store).1 = .ok names
        from listed]
    unfold commands
    rw [known]
    cases names.contains table.name with
    | true =>
      exact (carries.addColumns table.name table.userColumns _).act.seq
        (Action.carriesFrom_forM (fun index world =>
          (carries.addIndex table.name index world.store).act) _)
    | false => exact (carries.create table _).act

end TwinStore
