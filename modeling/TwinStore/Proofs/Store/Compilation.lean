/-
**What is compiled before a store is asked.** A verb compiles everything that it needs, and asks the
store only then.

* `RecordVerb`: the verbs on the records of a class as data, each with the type of what it yields.
* `Compiler`: the faults of what a backend has to compile for each of its verbs;
  `RecordVerb.faults` are those of a verb, in the order in which they are found.
* `CompilesFirst` is closed under compiling one thing more; `Backend.CompilesFirst` says it of all
  verbs of a backend.
* `RecordVerb.perform_of_faults`: on a backend that compiles first, a verb with faults yields the
  first of them and leaves the store as it is.
-/

import TwinStore.Store.Connection

namespace TwinStore

variable {σ κ τ α β : Type}

/-! ### Verbs -/

/-- The verbs on the records of a class. -/
inductive RecordVerb : Type → Type 1 where
  | count (query : FindQuery) : RecordVerb (Except StoreError UInt64)
  | forEach {τ : Type} (query : FindQuery) (body : Connection.Body τ) (start : τ) :
      RecordVerb (Except StoreError Unit × τ)
  | toList (query : FindQuery) : RecordVerb (Except StoreError (List Record))
  | stream (query : FindQuery) : RecordVerb (List (Except StoreError Record))
  | first (query : FindQuery) : RecordVerb (Except StoreError (Option Record))
  | insert (query : FindQuery) (fields : Fields Value) : RecordVerb (Except StoreError Record)
  | update (query : FindQuery) (changes : UpdateSet) (returning : Returning) :
      RecordVerb (Except StoreError (Option Record))
  | upsert (query : FindQuery) (changes : UpdateSet) (setOnInsert : Fields Value)
      (returning : Returning) : RecordVerb (Except StoreError (Option Record))
  | delete (query : FindQuery) : RecordVerb (Except StoreError (Option Record))
  | deleteAll (query : FindQuery) : RecordVerb (Except StoreError (Option UInt64))

namespace RecordVerb

/-- Performs a verb. -/
def perform (connection : Connection σ κ) : RecordVerb α → StateM (World σ) α
  | .count query => (connection.count query).run
  | .forEach query body start => connection.forEach query body start
  | .toList query => (connection.toList query).run
  | .stream query => connection.stream query
  | .first query => (connection.first query).run
  | .insert query fields => (connection.insert query fields).run
  | .update query changes returning => (connection.update query changes returning).run
  | .upsert query changes setOnInsert returning =>
    (connection.upsert query changes setOnInsert returning).run
  | .delete query => (connection.delete query).run
  | .deleteAll query => (connection.deleteAll query).run

/-- What a verb yields that fails before it has read anything: a stream has the failure as its only
item, and an iteration leaves its body where it started. -/
def failed (error : StoreError) : RecordVerb α → α
  | .forEach _ _ start => (.error error, start)
  | .stream _ => [.error error]
  | .count _ | .toList _ | .first _ | .insert _ _ | .update _ _ _ | .upsert _ _ _ _ | .delete _
  | .deleteAll _ => .error error

end RecordVerb

/-! ### Faults -/

/-- The fault of a result, if there is one. -/
def faultsOf : Except StoreError α → List StoreError
  | .ok _ => []
  | .error error => [error]

/-- The faults of what a backend has to compile for each of its verbs, the first one first. -/
structure Compiler where
  count : FindQuery → List StoreError
  find : FindQuery → List StoreError
  insert : String → InsertPlan → List StoreError
  update : FindQuery → UpdateSet → Returning → List StoreError
  upsert : FindQuery → UpsertPlan → Returning → List StoreError
  delete : FindQuery → List StoreError
  deleteAll : FindQuery → List StoreError

/-- The faults of a verb: a class that is missing, a filter that fixes the id of an upsert, and then
those of what the backend compiles. A new record has the given id. -/
def RecordVerb.faults (compiler : Compiler) (id : String) (now : Instant) :
    RecordVerb α → List StoreError
  | .count query => faultsOf query.requireClass ++ compiler.count query
  | .forEach query _ _ | .toList query | .stream query =>
    faultsOf query.requireClass ++ compiler.find query
  | .first query => faultsOf query.requireClass ++ compiler.find query.first
  | .insert query fields =>
    match query.requireClass with
    | .error error => [error]
    | .ok className => compiler.insert className (InsertPlan.of fields id now)
  | .update query changes returning =>
    faultsOf query.requireClass ++ compiler.update query (changes.stamped now) returning
  | .upsert query changes setOnInsert returning =>
    faultsOf query.requireClass ++
      match UpsertPlan.of query changes setOnInsert id now with
      | .error error => [error]
      | .ok plan => compiler.upsert query plan returning
  | .delete query => faultsOf query.requireClass ++ compiler.delete query
  | .deleteAll query => faultsOf query.requireClass ++ compiler.deleteAll query

/-! ### Compiling first -/

/-- Where there are faults, a computation fails with the first of them and does nothing else. -/
def CompilesFirst {μ : Type → Type} [Monad μ] (faults : List StoreError)
    (computation : ExceptT StoreError μ α) : Prop :=
  ∀ error ∈ faults.head?, computation = ExceptT.mk (pure (.error error))

namespace CompilesFirst

variable {μ : Type → Type} [Monad μ] {faults : List StoreError} {compiled : Except StoreError β}
  {next : β → ExceptT StoreError μ α}

theorem nil {computation : ExceptT StoreError μ α} : CompilesFirst [] computation := nofun

/-- One thing more is compiled in front. -/
theorem cons [LawfulMonad μ]
    (later : ∀ value, compiled = .ok value → CompilesFirst faults (next value)) :
    CompilesFirst (faultsOf compiled ++ faults) (ExceptT.mk (pure compiled) >>= next) := by
  have step : ExceptT.mk (pure compiled) >>= next = ExceptT.mk (ExceptT.bindCont next compiled) :=
    congrArg ExceptT.mk (pure_bind _ _)
  rw [step]
  cases compiled with
  | error error =>
    rintro _ ⟨⟩
    rfl
  | ok value => exact later value rfl

theorem last [LawfulMonad μ] :
    CompilesFirst (faultsOf compiled) (ExceptT.mk (pure compiled) >>= next) := by
  rw [← List.append_nil (faultsOf compiled)]
  exact cons fun _ _ => nil

/-- What an action on a store does first, it does first in the store's world. -/
theorem act {action : Action σ α} (first : CompilesFirst faults action) :
    CompilesFirst faults (World.act action) := by
  intro error found
  rw [first error found]
  rfl

/-- An action with faults leaves the world as it is. -/
theorem run_act {action : Action σ α} (first : CompilesFirst faults action) {error : StoreError}
    (found : error ∈ faults.head?) (world : World σ) :
    (World.act action).run.run world = pure (.error error, world) := by
  rw [first.act error found]
  rfl

end CompilesFirst

/-- A backend compiles what its verbs need before it asks its store. -/
structure Backend.CompilesFirst (backend : Backend σ κ) (compiler : Compiler) : Prop where
  count : ∀ channel query,
    TwinStore.CompilesFirst (compiler.count query) (backend.count channel query)
  find : ∀ {τ : Type} channel query (sink : Record → Work σ τ Unit),
    TwinStore.CompilesFirst (compiler.find query) (backend.find channel query sink)
  insert : ∀ channel className plan,
    TwinStore.CompilesFirst (compiler.insert className plan) (backend.insert channel className plan)
  update : ∀ channel query changes returning,
    TwinStore.CompilesFirst (compiler.update query changes returning)
      (backend.update channel query changes returning)
  upsert : ∀ channel query plan returning,
    TwinStore.CompilesFirst (compiler.upsert query plan returning)
      (backend.upsert channel query plan returning)
  delete : ∀ channel query,
    TwinStore.CompilesFirst (compiler.delete query) (backend.delete channel query)
  deleteAll : ∀ channel query,
    TwinStore.CompilesFirst (compiler.deleteAll query) (backend.deleteAll channel query)

/-! ### Verbs with faults -/

section Verbs

variable {connection : Connection σ κ} {compiler : Compiler}

/-- An iteration with faults does not begin. -/
theorem Connection.forEach_of_faults (first : connection.backend.CompilesFirst compiler)
    {query : FindQuery} {error : StoreError} (body : Body τ) (start : τ)
    (found : error ∈ (faultsOf query.requireClass ++ compiler.find query).head?) :
    connection.forEach query body start = pure (.error error, start) := by
  unfold forEach
  cases named : query.requireClass with
  | error missing =>
    rw [named] at found
    cases found
    rfl
  | ok className =>
    rw [named] at found
    show World.onStore _ = _
    rw [first.find connection.channel query _ error found]
    rfl

theorem Connection.insert_of_faults (first : connection.backend.CompilesFirst compiler)
    {query : FindQuery} {fields : Fields Value} {error : StoreError} (world : World σ)
    (found : error ∈ ((RecordVerb.insert query fields).faults compiler
      (connection.capabilities.idAt world.issued) connection.capabilities.now).head?) :
    ∃ issued, (connection.insert query fields).run.run world =
      pure (.error error, { world with issued }) := by
  unfold insert
  rw [RecordVerb.faults] at found
  cases named : query.requireClass with
  | error missing =>
    rw [named] at found
    cases found
    exact ⟨world.issued, rfl⟩
  | ok className =>
    rw [named] at found
    exact ⟨world.issued + 1, (first.insert connection.channel className _).run_act found
      { world with issued := world.issued + 1 }⟩

theorem Connection.upsert_of_faults (first : connection.backend.CompilesFirst compiler)
    {query : FindQuery} {changes : UpdateSet} {setOnInsert : Fields Value}
    {returning : Returning} {error : StoreError} (world : World σ)
    (found : error ∈ ((RecordVerb.upsert query changes setOnInsert returning).faults compiler
      (connection.capabilities.idAt world.issued) connection.capabilities.now).head?) :
    ∃ issued, (connection.upsert query changes setOnInsert returning).run.run world =
      pure (.error error, { world with issued }) := by
  unfold upsert upsertPlan
  rw [RecordVerb.faults] at found
  cases named : query.requireClass with
  | error missing =>
    rw [named] at found
    cases found
    exact ⟨world.issued, rfl⟩
  | ok className =>
    rw [named] at found
    unfold UpsertPlan.of at found ⊢
    cases pinned : UpsertPlan.pinnedId? query.predicate? with
    | some field =>
      rw [pinned] at found
      cases found
      exact ⟨world.issued, rfl⟩
    | none =>
      rw [pinned] at found
      exact ⟨world.issued + 1, (first.upsert connection.channel query _ returning).run_act found
        { world with issued := world.issued + 1 }⟩

/-- **A verb with faults yields the first of them** and leaves the store as it is. -/
theorem RecordVerb.perform_of_faults (first : connection.backend.CompilesFirst compiler)
    (verb : RecordVerb α) (world : World σ) {error : StoreError}
    (found : error ∈ (verb.faults compiler (connection.capabilities.idAt world.issued)
      connection.capabilities.now).head?) :
    ∃ issued, (verb.perform connection).run world =
      pure (verb.failed error, { world with issued }) := by
  -- Only a verb that writes a new record gives out an id before it finds a fault.
  have plain {result : StateM (World σ) α} (same : result = pure (verb.failed error)) :
      ∃ issued, result.run world = pure (verb.failed error, { world with issued }) :=
    ⟨world.issued, by rw [same]; rfl⟩
  have guarded {β : Type} {query : FindQuery} {action : Action σ β} {faults : List StoreError}
      (compiles : CompilesFirst faults action)
      (head : error ∈ (faultsOf query.requireClass ++ faults).head?) :
      (Action.ofResult query.requireClass >>= fun _ => World.act action) =
        Action.ofResult (.error error) :=
    CompilesFirst.cons (fun _ _ => compiles.act) error head
  cases verb with
  | count query => exact plain (guarded (first.count connection.channel query) found)
  | forEach query body start =>
    exact plain (Connection.forEach_of_faults first body start found)
  | toList query =>
    refine plain ?_
    show (connection.toList query).run = _
    rw [Connection.toList, Connection.forEach_of_faults first _ _ found]
    rfl
  | stream query =>
    refine plain ?_
    show connection.stream query = _
    rw [Connection.stream, Connection.forEach_of_faults first _ _ found]
    rfl
  | first query =>
    refine plain ?_
    show (connection.first query).run = _
    rw [Connection.first, Connection.forEach_of_faults first _ _ found]
    rfl
  | insert query fields => exact Connection.insert_of_faults first world found
  | update query changes returning =>
    exact plain (guarded (first.update connection.channel query _ returning) found)
  | upsert query changes setOnInsert returning =>
    exact Connection.upsert_of_faults first world found
  | delete query => exact plain (guarded (first.delete connection.channel query) found)
  | deleteAll query => exact plain (guarded (first.deleteAll connection.channel query) found)

theorem RecordVerb.outcome_of_faults (first : connection.backend.CompilesFirst compiler)
    (verb : RecordVerb α) (world : World σ) {error : StoreError} {later : List StoreError}
    (faulty : verb.faults compiler (connection.capabilities.idAt world.issued)
      connection.capabilities.now = error :: later) :
    let outcome := Id.run ((verb.perform connection).run world)
    outcome.1 = verb.failed error ∧ outcome.2.store = world.store := by
  obtain ⟨issued, performed⟩ :=
    verb.perform_of_faults first world (show error ∈ _ by rw [faulty]; rfl)
  rw [performed]
  exact ⟨rfl, rfl⟩

end Verbs

end TwinStore
