/-
**Reading.** Every verb that reads has a backend offer it records, one after the other. What comes
of the verb is decided by the records and by how the offer ends.

* `Offering`: records are offered to a sink in order until it refuses one. `Backend.Offers`: that is
  what a backend does, with any sink. `Recording.offers`, `Postgres.offers` and `Mongo.offers`: all
  backends do.
* `Connection.Body.Reads`: a body is handed the records up to the first one that it refuses.
  `Connection.Body.read_noting`: exactly these, whatever it gathers.
* `Connection.fst_forEach`, `fst_toList`, `fst_stream` and `fst_first`: what the verbs give.
-/

import TwinStore.Mongo.Backend
import TwinStore.Postgres.Backend
import TwinStore.Proofs.Store.Action
import TwinStore.Store.Recording

namespace TwinStore

variable {σ κ τ : Type}

/-! ### Offers -/

/-- A sink is offered records in order. An offer stops at a record that the sink refuses, with its
error, and otherwise ends on its own. Meanwhile the store may change at will. -/
inductive Offering (sink : Record → Work σ τ Unit) (ending : Except StoreError Unit) :
    List Record → τ → Except StoreError Unit × τ → Prop where
  | ended (gathered : τ) : Offering sink ending [] gathered (ending, gathered)
  | refused {record : Record} {rest : List Record} {gathered left : τ} {error : StoreError}
      (store : σ) (refuses : ((sink record).outcome gathered store).1 = (.error error, left)) :
      Offering sink ending (record :: rest) gathered (.error error, left)
  | accepted {record : Record} {rest : List Record} {gathered middle : τ}
      {outcome : Except StoreError Unit × τ} (store : σ)
      (accepts : ((sink record).outcome gathered store).1 = (.ok (), middle))
      (goesOn : Offering sink ending rest middle outcome) :
      Offering sink ending (record :: rest) gathered outcome

/-- Asked for a query, a backend offers records in order to whatever sink there is. -/
def Backend.Offers (backend : Backend σ κ) (channel : κ) (query : FindQuery) (store : σ)
    (records : List Record) (ending : Except StoreError Unit) : Prop :=
  ∀ (τ : Type) (sink : Record → Work σ τ Unit) (start : τ),
    Offering sink ending records start ((backend.find channel query sink).outcome start store).1

/-! ### Rows that may not be readable -/

/-- Hands what can be read to a sink until something cannot, or the sink fails. -/
def Work.handOn (sink : Record → Work σ τ Unit) : List (Except StoreError Record) → Work σ τ Unit
  | [] => pure ()
  | item :: rest => do
    sink (← Work.ofResult item)
    handOn sink rest

/-- The records in front of what cannot be read, and how an offer of them ends. -/
def readable (ending : Except StoreError Unit) :
    List (Except StoreError Record) → List Record × Except StoreError Unit
  | [] => ([], ending)
  | .error error :: _ => ([], .error error)
  | .ok record :: rest => (record :: (readable ending rest).1, (readable ending rest).2)

theorem handOn_ended (sink : Record → Work σ τ Unit) (items : List (Except StoreError Record)) :
    (Work.handOn sink items >>= fun _ => Work.ofResult (.ok ())) = Work.handOn sink items :=
  bind_pure _

/-- What can be read is offered. -/
theorem offering_handOn (sink : Record → Work σ τ Unit) (ending : Except StoreError Unit)
    (items : List (Except StoreError Record)) (start : τ) (store : σ) :
    Offering sink (readable ending items).2 (readable ending items).1 start
      ((Work.handOn sink items >>= fun _ => Work.ofResult ending).outcome start store).1 := by
  induction items generalizing start store with
  | nil => exact .ended start
  | cons item rest step =>
    cases item with
    | error error => exact .ended start
    | ok record =>
      rw [Work.handOn, bind_assoc, Work.ofResult_bind_ok, bind_assoc, Work.outcome_bind]
      rcases took : (sink record).outcome start store with ⟨⟨_ | _, middle⟩, after⟩
      · exact .refused store (congrArg Prod.fst took)
      · exact .accepted store (congrArg Prod.fst took) (step middle after)

/-- Work that takes something first, and then hands on what it can read of it, offers that. -/
theorem offering_of_taken {α : Type} (take : Action σ α)
    (items : α → List (Except StoreError Record)) (ending : α → Except StoreError Unit)
    (store : σ) :
    ∃ records ended, ∀ (τ : Type) (sink : Record → Work σ τ Unit) (start : τ),
      Offering sink ended records start
        ((Work.ofAction take >>= fun taken => Work.handOn sink (items taken) >>= fun _ =>
          Work.ofResult (ending taken)).outcome start store).1 := by
  rcases took : take.outcome store with ⟨error | taken, after⟩
  · refine ⟨[], .error error, fun τ sink start => ?_⟩
    rw [Work.outcome_bind, Work.outcome_ofAction, took]
    exact .ended start
  · let readable := readable (ending taken) (items taken)
    refine ⟨readable.1, readable.2, fun τ sink start => ?_⟩
    rw [Work.outcome_bind, Work.outcome_ofAction, took]
    exact offering_handOn sink (ending taken) (items taken) start after

theorem readable_map_ok (records : List Record) :
    readable (.ok ()) (records.map .ok) = (records, .ok ()) := by
  induction records with
  | nil => rfl
  | cons record rest step => rw [List.map_cons, readable, step]

theorem offer_eq_handOn (sink : Record → Work σ τ Unit) (records : List Record) :
    Work.offer sink records = Work.handOn sink (records.map .ok) := by
  induction records with
  | nil => rfl
  | cons record rest step =>
    rw [Work.offer, step]
    rfl

/-! ### Backends -/

/-- **The recording backend offers** the records that a query finds. -/
theorem Recording.offers (recording : Recording) (query : FindQuery) (log : Log) :
    recording.backend.Offers () query log (recording.matched query) (.ok ()) := by
  intro τ sink start
  have offered := offering_handOn sink (.ok ()) ((recording.matched query).map .ok) start
    (log ++ [.find query])
  rw [readable_map_ok, handOn_ended, ← offer_eq_handOn] at offered
  exact offered

/-- Rows are handed on as they are read. -/
theorem Postgres.deliver_eq {σ : Type} (className : String)
    (sink : Record → Work (Session σ) τ Unit) (rows : List Row) :
    deliver className sink rows = Work.handOn sink (rows.map (Row.toRecord className)) := by
  induction rows with
  | nil => rfl
  | cons row rest step =>
    rw [deliver, step]
    rfl

/-- **PostgreSQL offers** what it can read of the rows. -/
theorem Postgres.offers (server : Server σ) (channel : Channel) (query : FindQuery)
    (session : Session σ) :
    ∃ records ending, (backend server).Offers channel query session records ending := by
  show ∃ records ending, ∀ (τ : Type) (sink : Record → Work (Session σ) τ Unit) (start : τ),
    Offering sink ending records start ((find server channel query sink).outcome start session).1
  unfold find
  cases query.requireClass with
  | error error => exact ⟨[], .error error, fun _ _ start => .ended start⟩
  | ok className =>
    cases Statement.select query with
    | error error => exact ⟨[], .error error, fun _ _ start => .ended start⟩
    | ok statement =>
      simp only [Work.ofResult_bind_ok]
      cases channel with
      | none =>
        simp only [deliver_eq]
        exact offering_of_taken _ _ _ session
      | some number =>
        simp only [deliver_eq]
        simpa only [handOn_ended] using offering_of_taken
          (fetchAll server (some number) (.run statement)) (List.map (Row.toRecord className))
          (fun _ => .ok ()) session

theorem Mongo.deliver_eq {σ : Type} (className : String)
    (sink : Record → Work (Session σ) τ Unit) (documents : List Document) :
    deliver className sink documents =
      Work.handOn sink (documents.map (Record.ofDocument className)) := by
  induction documents with
  | nil => rfl
  | cons document rest step =>
    rw [deliver, step]
    rfl

/-- **MongoDB offers** what it can read of the documents. -/
theorem Mongo.offers (server : Server σ) (channel : Channel) (query : FindQuery)
    (session : Session σ) :
    ∃ records ending, (backend server).Offers channel query session records ending := by
  show ∃ records ending, ∀ (τ : Type) (sink : Record → Work (Session σ) τ Unit) (start : τ),
    Offering sink ending records start ((find server channel query sink).outcome start session).1
  unfold find
  cases query.requireClass with
  | error error => exact ⟨[], .error error, fun _ _ start => .ended start⟩
  | ok className =>
    cases query.filterDocument with
    | error error => exact ⟨[], .error error, fun _ _ start => .ended start⟩
    | ok filter =>
      cases findOptions query with
      | error error => exact ⟨[], .error error, fun _ _ start => .ended start⟩
      | ok options =>
        simp only [Work.ofResult_bind_ok]
        cases channel with
        | none =>
          simp only [deliver_eq]
          exact offering_of_taken _ _ _ session
        | some number =>
          simp only [deliver_eq]
          simpa only [handOn_ended] using offering_of_taken
            (fetchAll server (some number) (.find className filter options))
            (List.map (Record.ofDocument className)) (fun _ => .ok ()) session

/-! ### Bodies -/

namespace Connection.Body

/-- A body accepts records one after the other. -/
inductive Accepts (body : Body τ) : List Record → τ → τ → Prop where
  | nothing (gathered : τ) : Accepts body [] gathered gathered
  | next {record : Record} {rest : List Record} {before middle after : τ}
      (accepts : Id.run ((body record).run before) = (.ok (), middle))
      (goesOn : Accepts body rest middle after) : Accepts body (record :: rest) before after

/-- What a body is called with when it is offered records, what comes of that, and what it has
gathered then: it is called with all records, or with those up to the first one that it refuses. -/
inductive Reads (body : Body τ) (ending : Except StoreError Unit) (records : List Record)
    (start : τ) : List Record → Except StoreError Unit × τ → Prop where
  | all {after : τ} (accepts : body.Accepts records start after) :
      Reads body ending records start records (ending, after)
  | stopped {early late : List Record} {record : Record} {middle after : τ} {message : String}
      (offered : records = early ++ record :: late) (accepts : body.Accepts early start middle)
      (refuses : Id.run ((body record).run middle) = (.error message, after)) :
      Reads body ending records start (early ++ [record]) (.error (.callback message), after)

/-- What comes of offering records to a body. -/
def read (body : Body τ) (ending : Except StoreError Unit) :
    List Record → τ → Except StoreError Unit × τ
  | [], gathered => (ending, gathered)
  | record :: rest, gathered =>
    match Id.run ((body record).run gathered) with
    | (.ok (), middle) => read body ending rest middle
    | (.error message, left) => (.error (.callback message), left)

/-- A body that also writes down what it is called with. -/
def noting (body : Body τ) : Body (List Record × τ) := fun record noted =>
  let (result, gathered) := Id.run ((body record).run noted.2)
  pure (result, (noted.1 ++ [record], gathered))

variable {body : Body τ} {ending : Except StoreError Unit}

theorem Reads.next {record : Record} {rest called : List Record} {before middle : τ}
    {outcome : Except StoreError Unit × τ}
    (accepts : Id.run ((body record).run before) = (.ok (), middle))
    (reads : body.Reads ending rest middle called outcome) :
    body.Reads ending (record :: rest) before (record :: called) outcome := by
  cases reads with
  | all goesOn => exact .all (.next accepts goesOn)
  | stopped offered goesOn refuses =>
    exact .stopped (congrArg (record :: ·) offered) (.next accepts goesOn) refuses

theorem run_noting (body : Body τ) (record : Record) (called : List Record) (gathered : τ) :
    Id.run ((body.noting record).run (called, gathered)) =
      let outcome := Id.run ((body record).run gathered)
      (outcome.1, (called ++ [record], outcome.2)) := rfl

/-- **A body is called with the records up to the first one that it refuses**, and what comes of it
does not depend on whether they are written down. -/
theorem read_noting (body : Body τ) (ending : Except StoreError Unit)
    (records called : List Record) (start : τ) :
    let outcome := body.read ending records start
    ∃ more, body.noting.read ending records (called, start) =
        (outcome.1, (called ++ more, outcome.2)) ∧
      body.Reads ending records start more outcome := by
  induction records generalizing called start with
  | nil => exact ⟨[], by rw [List.append_nil]; rfl, .all (.nothing start)⟩
  | cons record rest step =>
    unfold read
    rw [run_noting]
    rcases took : Id.run ((body record).run start) with ⟨message | _, middle⟩
    · have offered : record :: rest = [] ++ record :: rest := rfl
      exact ⟨[record], rfl, .stopped offered (.nothing start) took⟩
    · obtain ⟨more, noted, reads⟩ := step (called ++ [record]) middle
      rw [List.append_assoc] at noted
      exact ⟨record :: more, noted, reads.next took⟩

theorem outcome_sink (body : Body τ) (record : Record) (gathered : τ) (store : σ) :
    ((body.sink record).outcome gathered store).1 =
      let outcome := Id.run ((body record).run gathered)
      (outcome.1.mapError .callback, outcome.2) := rfl

/-- A sink that is a body gives what the body does. -/
theorem eq_read_of_offering {records : List Record} {start : τ}
    {outcome : Except StoreError Unit × τ}
    (offering : Offering (σ := σ) body.sink ending records start outcome) :
    outcome = body.read ending records start := by
  induction offering with
  | ended gathered => rfl
  | @refused record rest gathered left error store refuses =>
    unfold read
    rw [outcome_sink] at refuses
    rcases took : Id.run ((body record).run gathered) with ⟨message | _, middle⟩
    · rw [took] at refuses
      exact refuses.symm
    · rw [took] at refuses
      cases refuses
  | @accepted record rest gathered middle outcome store accepts goesOn step =>
    unfold read
    rw [outcome_sink] at accepts
    rcases took : Id.run ((body record).run gathered) with ⟨message | _, after⟩
    · rw [took] at accepts
      cases accepts
    · rw [took] at accepts
      cases accepts
      exact step

end Connection.Body

/-! ### Verbs -/

namespace Connection

variable {connection : Connection σ κ} {query : FindQuery} {world : World σ} {className : String}
  {records : List Record} {ending : Except StoreError Unit}

theorem read_gatherAll (records gathered : List Record) (ending : Except StoreError Unit) :
    gatherAll.read ending records gathered = (ending, gathered ++ records) := by
  induction records generalizing gathered with
  | nil => rw [List.append_nil, Body.read]
  | cons record rest step =>
    rw [List.append_cons]
    exact step (gathered ++ [record])

theorem read_keepFirst (records : List Record) (found : Option Record)
    (ending : Except StoreError Unit) :
    keepFirst.read ending records found = (ending, found <|> records.head?) := by
  induction records generalizing found with
  | nil => cases found <;> rfl
  | cons record rest step =>
    refine (step (found <|> some record)).trans ?_
    cases found <;> rfl

/-- What was gathered is given if all has succeeded. -/
theorem fst_outcome_gathered (step : StateM (World σ) (Except StoreError Unit × τ))
    (world : World σ) :
    ((do
      let (result, gathered) ← Action.ofState step
      Action.ofResult (result.map fun _ => gathered) : Action (World σ) τ).outcome world).1 =
      (Id.run (step.run world)).1.1.map fun _ => (Id.run (step.run world)).1.2 := rfl

/-- The items of a stream: records, and behind them the failure if there is one. -/
def items (records : List Record) (ending : Except StoreError Unit) :
    List (Except StoreError Record) :=
  records.map .ok ++ match ending with
    | .ok () => []
    | .error error => [.error error]

section Classed

variable (classed : query.requireClass = .ok className)

include classed

/-- What comes of handing the matches to a body. -/
theorem fst_forEach
    (offers : connection.backend.Offers connection.channel query world.store records ending)
    (body : Body τ) (start : τ) :
    (Id.run ((connection.forEach query body start).run world)).1 =
      body.read ending records start := by
  unfold forEach
  rw [classed]
  exact Body.eq_read_of_offering (offers τ body.sink start)

/-- All records are gathered if the offer succeeds. -/
theorem fst_toList
    (offers : connection.backend.Offers connection.channel query world.store records ending) :
    ((connection.toList query).outcome world).1 = ending.map fun _ => records := by
  unfold toList
  rw [fst_outcome_gathered, fst_forEach classed offers, read_gatherAll, List.nil_append]

theorem fst_stream
    (offers : connection.backend.Offers connection.channel query world.store records ending) :
    (Id.run ((connection.stream query).run world)).1 = items records ending := by
  have read := fst_forEach classed offers gatherAll []
  rw [read_gatherAll, List.nil_append] at read
  show (let read := (Id.run ((connection.forEach query gatherAll []).run world)).1
    items read.2 read.1) = _
  rw [read]

theorem fst_first
    (offers : connection.backend.Offers connection.channel query.first world.store records ending) :
    ((connection.first query).outcome world).1 = ending.map fun _ => records.head? := by
  have classedFirst : query.first.requireClass = .ok className := classed
  unfold first
  rw [fst_outcome_gathered, fst_forEach classedFirst offers, read_keepFirst]
  rfl

end Classed

end Connection

end TwinStore
