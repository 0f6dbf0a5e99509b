/-
**Iterating inside a transaction.** Outside of transactions a sink is called while matches arrive;
inside of one it is called when all matches have been taken. Whoever iterates does not notice which.

* `Iteration` is what comes of an iteration, `Backend.iterate` the one of a search.
  `Iteration.along` says what an iteration over given items is: the sink is called with one record
  after the other, until an item is no record or the sink refuses one.
* `Iteration.along_alike`: sinks that cannot tell two stores apart make the same of both.
  `Iteration.free_along`: a sink that leaves a store free finds it free.
* `Backend.IteratesAlike`: two channels of a backend iterate alike. `iterates_alike` says what this
  takes, `Postgres.iterates_alike_inside` and `Mongo.iterates_alike_inside` that the channel of a
  transaction has it.
* `iteration_inside_is_outside`: this on both backends.
-/

import TwinStore.Proofs.Mongo.Waiting
import TwinStore.Proofs.Postgres.Waiting

namespace TwinStore

variable {σ κ τ α β : Type}

/-! ### Iterations -/

/-- What comes of an iteration: its result, the calls of the sink with the store as each of them
found it, what was gathered, and the store behind all. -/
structure Iteration (σ τ : Type) where
  result : Except StoreError Unit
  calls : List (Record × σ)
  gathered : τ
  store : σ

/-- A sink that also notes its calls, and how they find the store. -/
def Work.noting (sink : Record → Work σ τ Unit) (record : Record) :
    Work σ (List (Record × σ) × τ) Unit :=
  ExceptT.mk fun noted store =>
    let ((result, gathered), after) := (sink record).outcome noted.2 store
    pure ((result, (noted.1 ++ [(record, store)], gathered)), after)

/-- The iteration over the matches of a query. -/
def Backend.iterate (backend : Backend σ κ) (channel : κ) (query : FindQuery)
    (sink : Record → Work σ τ Unit) (start : τ) (store : σ) : Iteration σ τ :=
  let ((result, (calls, gathered)), after) :=
    (backend.find channel query (Work.noting sink)).outcome ([], start) store
  ⟨result, calls, gathered, after⟩

/-- What an action takes is worked on from the store on that it leaves. -/
theorem Work.outcome_ofAction_bind {action : Action σ α} {value : α} {store taken : σ}
    (took : action.outcome store = (.ok value, taken)) (next : α → Work σ τ β) (start : τ) :
    (Work.ofAction action >>= next).outcome start store = (next value).outcome start taken := by
  rw [outcome_bind, outcome_ofAction, took]

namespace Iteration

/-- An iteration over items, from a store on. -/
def along (sink : Record → Work σ τ Unit) :
    List (Except StoreError Record) → τ → σ → Iteration σ τ
  | [], gathered, store => ⟨.ok (), [], gathered, store⟩
  | .error error :: _, gathered, store => ⟨.error error, [], gathered, store⟩
  | .ok record :: rest, gathered, store =>
    match (sink record).outcome gathered store with
    | ((.error error, left), after) => ⟨.error error, [(record, store)], left, after⟩
    | ((.ok (), left), after) =>
      let later := along sink rest left after
      { later with calls := (record, store) :: later.calls }

theorem outcome_noting (sink : Record → Work σ τ Unit) (record : Record)
    (noted : List (Record × σ) × τ) (store : σ) :
    (Work.noting sink record).outcome noted store =
      let made := (sink record).outcome noted.2 store
      ((made.1.1, (noted.1 ++ [(record, store)], made.1.2)), made.2) := rfl

/-- Items that are handed on are iterated over. -/
theorem outcome_handOn (sink : Record → Work σ τ Unit) (items : List (Except StoreError Record))
    (start : τ) (store : σ) :
    (Work.handOn sink items).outcome start store =
      (((along sink items start store).result, (along sink items start store).gathered),
        (along sink items start store).store) := by
  fun_induction along sink items start store with
  | case1 gathered store => rfl
  | case2 error rest gathered store => rfl
  | case3 record rest gathered store error left after refused =>
    rw [Work.handOn, Work.ofResult_bind_ok, Work.outcome_bind, refused]
  | case4 record rest gathered store left after accepted later step =>
    rw [Work.handOn, Work.ofResult_bind_ok, Work.outcome_bind, accepted]
    exact step

/-- Noting the calls changes nothing else. -/
theorem outcome_handOn_noting (sink : Record → Work σ τ Unit)
    (items : List (Except StoreError Record)) (start : τ) (store : σ)
    (noted : List (Record × σ)) :
    (Work.handOn (Work.noting sink) items).outcome (noted, start) store =
      (((along sink items start store).result,
        (noted ++ (along sink items start store).calls, (along sink items start store).gathered)),
        (along sink items start store).store) := by
  fun_induction along sink items start store generalizing noted with
  | case1 gathered store => rw [List.append_nil]; rfl
  | case2 error rest gathered store => rw [List.append_nil]; rfl
  | case3 record rest gathered store error left after refused =>
    rw [Work.handOn, Work.ofResult_bind_ok, Work.outcome_bind, outcome_noting, refused]
  | case4 record rest gathered store left after accepted later step =>
    rw [Work.handOn, Work.ofResult_bind_ok, Work.outcome_bind, outcome_noting, accepted]
    refine (step _).trans ?_
    rw [List.append_assoc]
    rfl

/-! ### Two stores -/

/-- Alike iterations: the same calls in the same order, each in stores that are alike, with the same
result, and the same was gathered. -/
structure Alike (alike : σ → σ → Prop) (one two : Iteration σ τ) : Prop where
  result : one.result = two.result
  calls : List.Forall₂ (fun first second => first.1 = second.1 ∧ alike first.2 second.2)
    one.calls two.calls
  gathered : one.gathered = two.gathered
  store : alike one.store two.store

end Iteration

/-- Work that cannot tell stores apart which are alike: it makes the same of them, and leaves them
alike. -/
def Work.Agrees (alike : σ → σ → Prop) (work : Work σ τ α) : Prop :=
  ∀ start one two, alike one two →
    (work.outcome start one).1 = (work.outcome start two).1 ∧
      alike (work.outcome start one).2 (work.outcome start two).2

namespace Iteration

/-- **From stores that a sink cannot tell apart, iterations are alike.** -/
theorem along_alike {alike : σ → σ → Prop} {sink : Record → Work σ τ Unit}
    (agrees : ∀ record, (sink record).Agrees alike) (items : List (Except StoreError Record))
    (start : τ) {one two : σ} (same : alike one two) :
    (along sink items start one).Alike alike (along sink items start two) := by
  induction items generalizing start one two with
  | nil => exact ⟨rfl, .nil, rfl, same⟩
  | cons item rest step =>
    cases item with
    | error error => exact ⟨rfl, .nil, rfl, same⟩
    | ok record =>
      obtain ⟨made, left⟩ := agrees record start one two same
      unfold along
      rcases first : (sink record).outcome start one with ⟨made₁, after⟩
      rcases second : (sink record).outcome start two with ⟨made₂, behind⟩
      rw [first, second] at made left
      simp only at made left
      subst made
      rcases made₁ with ⟨error | _, gathered⟩
      · exact ⟨rfl, .cons ⟨rfl, same⟩ .nil, rfl, left⟩
      · have later := step gathered left
        exact ⟨later.result, .cons ⟨rfl, same⟩ later.calls, later.gathered, later.store⟩

/-! ### Free stores -/

/-- **A sink that leaves a store free finds it free** whenever it is called. -/
theorem free_along {free : σ → Prop} {sink : Record → Work σ τ Unit}
    (each : ∀ record, (sink record).Unhindered free) (items : List (Except StoreError Record))
    (start : τ) {store : σ} (at_ : free store) :
    ∀ call ∈ (along sink items start store).calls, free call.2 := by
  fun_induction along sink items start store with
  | case1 | case2 => exact List.forall_mem_nil _
  | case3 record rest gathered store error left after refused =>
    exact List.forall_mem_singleton.mpr at_
  | case4 record rest gathered store left after accepted later step =>
    have behind := (each record gathered store at_).1
    rw [accepted] at behind
    exact List.forall_mem_cons.mpr ⟨at_, step behind⟩

end Iteration

/-! ### Two channels -/

/-- Asked through a channel, a backend takes the matches of a query, which leaves another store
behind, and hands them on to whatever sink there is. -/
def Backend.HandsOn (backend : Backend σ κ) (channel : κ) (query : FindQuery) (store : σ)
    (items : List (Except StoreError Record)) (taken : σ) : Prop :=
  ∀ (τ : Type) (sink : Record → Work σ τ Unit) (start : τ),
    (backend.find channel query sink).outcome start store =
      (Work.handOn sink items).outcome start taken

theorem Backend.iterate_of_handsOn {backend : Backend σ κ} {channel : κ} {query : FindQuery}
    {store taken : σ} {items : List (Except StoreError Record)}
    (hands : backend.HandsOn channel query store items taken) (sink : Record → Work σ τ Unit)
    (start : τ) :
    backend.iterate channel query sink start store = .along sink items start taken := by
  unfold iterate
  rw [hands, Iteration.outcome_handOn_noting]
  rfl

/-- Two channels of a backend iterate alike over the same items, the one from one store on, the
other from another. -/
structure Backend.IteratesAlike (backend : Backend σ κ) (query : FindQuery) (outer inner : κ)
    (before within taken takenInside : σ) (items : List (Except StoreError Record))
    (through : κ → Prop) (free : σ → Prop) : Prop where
  /-- Both iterate over the items, from the store on that is left when they are taken. -/
  direct : ∀ {τ : Type} (sink : Record → Work σ τ Unit) (start : τ),
    backend.iterate outer query sink start before = .along sink items start taken
  inside : ∀ {τ : Type} (sink : Record → Work σ τ Unit) (start : τ),
    backend.iterate inner query sink start within = .along sink items start takenInside
  /-- A sink that cannot tell these stores apart is called alike, with the same result. -/
  same : ∀ {τ : Type} (sink : Record → Work σ τ Unit) (start : τ) (alike : σ → σ → Prop),
    (∀ record, (sink record).Agrees alike) → alike taken takenInside →
      (backend.iterate outer query sink start before).Alike alike
        (backend.iterate inner query sink start within)
  /-- A sink that uses the other channel itself always finds it free, and never has to wait. -/
  released : ∀ {τ : Type} (sink : Record → Work σ τ Unit) (start : τ),
    (∀ record, backend.Uses through (sink record)) →
      (∀ call ∈ (backend.iterate inner query sink start within).calls, free call.2) ∧
        Result.Unhindered (backend.iterate inner query sink start within).result ∧
        free (backend.iterate inner query sink start within).store

theorem iterates_alike {backend : Backend σ κ} {query : FindQuery} {outer inner : κ}
    {before within taken takenInside : σ} {items : List (Except StoreError Record)}
    {through : κ → Prop} {free : σ → Prop}
    (one : backend.HandsOn outer query before items taken)
    (two : backend.HandsOn inner query within items takenInside)
    (never : backend.NeverWaits through free) (may : through inner) (at_ : free within)
    (atTaken : free takenInside) :
    backend.IteratesAlike query outer inner before within taken takenInside items through
      free where
  direct := Backend.iterate_of_handsOn one
  inside := Backend.iterate_of_handsOn two
  same sink start alike agrees related := by
    rw [Backend.iterate_of_handsOn one, Backend.iterate_of_handsOn two]
    exact Iteration.along_alike agrees items start related
  released sink start uses := by
    have each (record : Record) : (sink record).Unhindered free := (uses record).unhindered never
    obtain ⟨left, came⟩ := never.find query may each start within at_
    rw [two, Iteration.outcome_handOn] at left came
    rw [Backend.iterate_of_handsOn two]
    exact ⟨Iteration.free_along each items start atTaken, came, left⟩

/-! ### PostgreSQL -/

namespace Postgres

variable {server : Server σ} {query : FindQuery} {rows : List Row} {session : Session σ}
  {number : Nat}

/-- The class of a query and the statement that searches for its matches. -/
def searchOf (query : FindQuery) : Except StoreError (String × Statement) := do
  let className ← query.requireClass
  return (className, ← Statement.select query)

/-- The records of rows, as far as they can be read, or why there is no search. -/
def itemsOf (query : FindQuery) (rows : List Row) : List (Except StoreError Record) :=
  match searchOf query with
  | .ok (className, _) => rows.map (Row.toRecord className)
  | .error error => [.error error]

/-- The session when a search has been answered. -/
def searched (server : Server σ) (channel : Channel) (query : FindQuery) (session : Session σ) :
    Session σ :=
  match searchOf query with
  | .ok (_, statement) => { session with
      server := (Id.run ((server.answer channel (.run statement)).run session.server)).2 }
  | .error _ => session

/-- Asked in a state for the matches of a query, a server has these rows, and no fault. -/
def Server.Delivers (server : Server σ) (channel : Channel) (query : FindQuery) (state : σ)
    (rows : List Row) : Prop :=
  ∀ className statement, searchOf query = .ok (className, statement) →
    (Id.run ((server.answer channel (.run statement)).run state)).1.complete = .ok rows

theorem find_of_error {error : StoreError} (refused : searchOf query = .error error)
    (channel : Channel) (sink : Record → Work (Session σ) τ Unit) :
    find server channel query sink = Work.ofResult (.error error) := by
  unfold searchOf at refused
  unfold find
  cases classed : query.requireClass with
  | error other =>
    rw [classed] at refused
    cases refused
    rfl
  | ok className =>
    cases built : Statement.select query with
    | error other =>
      rw [classed, built] at refused
      cases refused
      rfl
    | ok statement =>
      rw [classed, built] at refused
      cases refused

section Compiled

variable {className : String} {statement : Statement}
  (compiled : searchOf query = .ok (className, statement)) (sink : Record → Work (Session σ) τ Unit)
include compiled

theorem find_outside : find server none query sink =
    (Work.ofAction (ask server none (.run statement)) >>= fun reply =>
      deliver className sink reply.rows >>= fun _ =>
        Work.ofResult (reply.complete.map fun _ => ())) := by
  obtain ⟨name, classed, more⟩ := Result.bind_eq_ok.mp compiled
  obtain ⟨selected, built, made⟩ := Result.bind_eq_ok.mp more
  cases made
  unfold find
  rw [classed, built]
  rfl

theorem find_inside (number : Nat) : find server (some number) query sink =
    (Work.ofAction (fetchAll server (some number) (.run statement)) >>= fun rows =>
      deliver className sink rows) := by
  obtain ⟨name, classed, more⟩ := Result.bind_eq_ok.mp compiled
  obtain ⟨selected, built, made⟩ := Result.bind_eq_ok.mp more
  cases made
  unfold find
  rw [classed, built]
  rfl

end Compiled

/-- The rows of a request inside an open transaction, which nobody uses behind it. -/
theorem outcome_fetchAll_idle (idle : session.phase number = .idle) {request : Request}
    (answered : (Id.run ((server.answer (some number) request).run session.server)).1.complete =
      .ok rows) :
    (fetchAll server (some number) request).outcome session = (.ok rows, { session with
      server := (Id.run ((server.answer (some number) request).run session.server)).2 }) := by
  unfold fetchAll send
  rw [Action.outcome_bind, outcome_exclusively_idle idle, ← setPhase_restored idle, ← answered]
  rfl

theorem rows_of_complete {reply : Reply} (complete : reply.complete = .ok rows) :
    reply.rows = rows := by
  unfold Reply.complete at complete
  split at complete
  · exact Except.ok.inj complete
  · cases complete

theorem handsOn_of_error {error : StoreError} (refused : searchOf query = .error error)
    (channel : Channel) : (backend server).HandsOn channel query session (itemsOf query rows)
      (searched server channel query session) := by
  intro τ sink start
  show (find server channel query sink).outcome start session = _
  rw [find_of_error refused, itemsOf, searched, refused]
  rfl

theorem handsOn_outside (delivers : server.Delivers none query session.server rows) :
    (backend server).HandsOn none query session (itemsOf query rows)
      (searched server none query session) := by
  rcases compiled : searchOf query with error | ⟨className, statement⟩
  · exact handsOn_of_error compiled none
  intro τ sink start
  have complete := delivers className statement compiled
  have asked : (ask server none (.run statement)).outcome session =
      (.ok (Id.run ((server.answer none (.run statement)).run session.server)).1,
        searched server none query session) := by
    rw [searched, compiled]
    rfl
  show (find server none query sink).outcome start session = _
  rw [find_outside compiled, Work.outcome_ofAction_bind asked, complete, rows_of_complete complete,
    deliver_eq, itemsOf, compiled]
  exact congrArg (fun work => work.outcome start (searched server none query session))
    (handOn_ended sink (rows.map (Row.toRecord className)))

theorem handsOn_inside (idle : session.phase number = .idle)
    (delivers : server.Delivers (some number) query session.server rows) :
    (backend server).HandsOn (some number) query session (itemsOf query rows)
      (searched server (some number) query session) := by
  rcases compiled : searchOf query with error | ⟨className, statement⟩
  · exact handsOn_of_error compiled (some number)
  intro τ sink start
  have fetched : (fetchAll server (some number) (.run statement)).outcome session =
      (.ok rows, searched server (some number) query session) := by
    rw [outcome_fetchAll_idle idle (delivers className statement compiled), searched, compiled]
  show (find server (some number) query sink).outcome start session = _
  rw [find_inside compiled, Work.outcome_ofAction_bind fetched, deliver_eq, itemsOf, compiled]

theorem searched_phase (channel : Channel) : (searched server channel query session).phase =
    session.phase := by
  unfold searched
  split <;> rfl

/-- **Through an open transaction, an iteration is what it is outside of it.** -/
theorem iterates_alike_inside (number : Nat) {before within : Session σ}
    (idle : within.phase number = .idle)
    (outside : server.Delivers none query before.server rows)
    (inside : server.Delivers (some number) query within.server rows) :
    (backend server).IteratesAlike query none (some number) before within
      (searched server none query before) (searched server (some number) query within)
      (itemsOf query rows) (Own number) (Free number) := by
  have free : Free number within := by
    rw [Free, idle]
    intro busy
    cases busy
  refine iterates_alike (handsOn_outside outside) (handsOn_inside idle inside)
    (neverWaits server number) (fun other member => (Option.some.inj member).symm) free ?_
  rwa [Free, searched_phase]

end Postgres

/-! ### MongoDB -/

namespace Mongo

variable {server : Server σ} {query : FindQuery} {documents : List Document} {session : Session σ}
  {number : Nat}

/-- The class of a query and the command that searches for its matches. -/
def searchOf (query : FindQuery) : Except StoreError (String × Command) := do
  let className ← query.requireClass
  let filter ← query.filterDocument
  return (className, .find className filter (← findOptions query))

/-- The records of documents, as far as they can be read, or why there is no search. -/
def itemsOf (query : FindQuery) (documents : List Document) : List (Except StoreError Record) :=
  match searchOf query with
  | .ok (className, _) => documents.map (Record.ofDocument className)
  | .error error => [.error error]

/-- The way to the server of what is asked through a transaction: outside any once that is over. -/
def Session.way (session : Session σ) (number : Nat) : Channel :=
  if (session.transaction number).stage = .finished then none else some number

/-- The session when the server knows of a transaction, unless that is over. -/
def Session.begun (session : Session σ) (number : Nat) : Session σ :=
  session.alter number fun state =>
    if state.stage = .finished then state else { state with stage := .active }

/-- The session when a search has been answered outside of transactions. -/
def searched (server : Server σ) (query : FindQuery) (session : Session σ) : Session σ :=
  match searchOf query with
  | .ok (_, command) => { session with
      server := (Id.run ((server.answer none command).run session.server)).2 }
  | .error _ => session

/-- The session when a search has been answered through a transaction. -/
def searchedInside (server : Server σ) (number : Nat) (query : FindQuery) (session : Session σ) :
    Session σ :=
  match searchOf query with
  | .ok (_, command) => { session.begun number with
      server := (Id.run ((server.answer (session.way number) command).run session.server)).2 }
  | .error _ => session

/-- Asked in a state for the matches of a query, a server has these documents, and no fault. -/
def Server.Delivers (server : Server σ) (channel : Channel) (query : FindQuery) (state : σ)
    (documents : List Document) : Prop :=
  ∀ className command, searchOf query = .ok (className, command) →
    (Id.run ((server.answer channel command).run state)).1.complete = .ok documents

theorem find_of_error {error : StoreError} (refused : searchOf query = .error error)
    (channel : Channel) (sink : Record → Work (Session σ) τ Unit) :
    find server channel query sink = Work.ofResult (.error error) := by
  unfold searchOf at refused
  unfold find
  cases classed : query.requireClass with
  | error other =>
    rw [classed] at refused
    cases refused
    rfl
  | ok className =>
    cases filtered : query.filterDocument with
    | error other =>
      rw [classed, filtered] at refused
      cases refused
      rfl
    | ok filter =>
      cases limited : findOptions query with
      | error other =>
        rw [classed, filtered, limited] at refused
        cases refused
        rfl
      | ok options =>
        rw [classed, filtered, limited] at refused
        cases refused

section Compiled

variable {className : String} {command : Command}
  (compiled : searchOf query = .ok (className, command)) (sink : Record → Work (Session σ) τ Unit)
include compiled

theorem find_outside : find server none query sink =
    (Work.ofAction (ask server none command) >>= fun reply =>
      deliver className sink reply.documents >>= fun _ =>
        Work.ofResult (reply.complete.map fun _ => ())) := by
  obtain ⟨name, classed, more⟩ := Result.bind_eq_ok.mp compiled
  obtain ⟨filter, filtered, more⟩ := Result.bind_eq_ok.mp more
  obtain ⟨options, limited, made⟩ := Result.bind_eq_ok.mp more
  cases made
  unfold find
  rw [classed, filtered, limited]
  rfl

theorem find_inside (number : Nat) : find server (some number) query sink =
    (Work.ofAction (fetchAll server (some number) command) >>= fun documents =>
      deliver className sink documents) := by
  obtain ⟨name, classed, more⟩ := Result.bind_eq_ok.mp compiled
  obtain ⟨filter, filtered, more⟩ := Result.bind_eq_ok.mp more
  obtain ⟨options, limited, made⟩ := Result.bind_eq_ok.mp more
  cases made
  unfold find
  rw [classed, filtered, limited]
  rfl

end Compiled

theorem alter_transaction (change : TransactionState → TransactionState) :
    (session.alter number change).transaction number = change (session.transaction number) :=
  if_pos rfl

theorem alter_congr {one two : TransactionState → TransactionState}
    (same : one (session.transaction number) = two (session.transaction number)) :
    session.alter number one = session.alter number two := by
  refine congrArg (Session.mk session.server session.opened) (funext fun other => ?_)
  by_cases here : other = number
  · rw [if_pos here, if_pos here, here, same]
  · rw [if_neg here, if_neg here]

theorem alter_eq_self {change : TransactionState → TransactionState}
    (same : change (session.transaction number) = session.transaction number) :
    session.alter number change = session := by
  refine congrArg (Session.mk session.server session.opened) (funext fun other => ?_)
  by_cases here : other = number
  · rw [if_pos here, here, same]
  · exact if_neg here

theorem alter_alter (one two : TransactionState → TransactionState) :
    (session.alter number one).alter number two = session.alter number (two ∘ one) := by
  refine congrArg (Session.mk session.server session.opened) (funext fun other => ?_)
  by_cases here : other = number
  · rw [if_pos here, if_pos here, here, alter_transaction]
    rfl
  · rw [if_neg here, if_neg here]
    exact if_neg here

/-- A transaction tells the server of itself with its first command, and of nothing when it is
over. -/
theorem outcome_sendInside_eq (command : Command) :
    (sendInside server number command).outcome session =
      let answered := Id.run ((server.answer (session.way number) command).run session.server)
      (.ok answered.1, { session.begun number with server := answered.2 }) := by
  unfold sendInside
  rw [Action.outcome_get_bind]
  cases stage : (session.transaction number).stage with
  | finished =>
    have outside : session.way number = none := if_pos stage
    have same : session.begun number = session := alter_eq_self (if_pos stage)
    rw [outside, same]
    rfl
  | fresh | active =>
    have unfinished : (session.transaction number).stage ≠ .finished := by
      rw [stage]
      nofun
    have inside : session.way number = some number := if_neg unfinished
    have begun : session.begun number = session.alter number ({ · with stage := .active }) :=
      alter_congr (if_neg unfinished)
    rw [inside, begun]
    rfl

/-- A command sent through a transaction, which nobody uses behind it. -/
theorem outcome_send_free (free : Free number session) (command : Command) :
    (send server (some number) command).outcome session =
      let answered := Id.run ((server.answer (session.way number) command).run session.server)
      (.ok answered.1, { session.begun number with server := answered.2 }) := by
  have way : (session.alter number ({ · with busy := true })).way number = session.way number := by
    rw [Session.way, alter_transaction]
    rfl
  have restored : ((session.alter number ({ · with busy := true })).begun number).alter number
      ({ · with busy := false }) = session.begun number := by
    rw [Session.begun, alter_alter, alter_alter]
    refine alter_congr ?_
    revert free
    show (session.transaction number).busy = false → _
    rcases session.transaction number with ⟨stage, busy⟩
    rintro ⟨⟩
    cases stage <;> rfl
  show (exclusively number (sendInside server number command)).outcome session = _
  rw [outcome_exclusively_free _ free, outcome_sendInside_eq, way]
  let answered := Id.run ((server.answer (session.way number) command).run session.server)
  exact congrArg (fun after : Session σ =>
    ((.ok answered.1 : Except StoreError Reply), { after with server := answered.2 })) restored

theorem documents_of_complete {reply : Reply} (complete : reply.complete = .ok documents) :
    reply.documents = documents := by
  unfold Reply.complete at complete
  split at complete
  · exact Except.ok.inj complete
  · cases complete

theorem handsOn_outside (delivers : server.Delivers none query session.server documents) :
    (backend server).HandsOn none query session (itemsOf query documents)
      (searched server query session) := by
  intro τ sink start
  show (find server none query sink).outcome start session = _
  rcases compiled : searchOf query with error | ⟨className, command⟩
  · rw [find_of_error compiled, itemsOf, searched, compiled]
    rfl
  have complete := delivers className command compiled
  have asked : (ask server none command).outcome session =
      (.ok (Id.run ((server.answer none command).run session.server)).1,
        searched server query session) := by
    rw [searched, compiled]
    rfl
  rw [find_outside compiled, Work.outcome_ofAction_bind asked, complete,
    documents_of_complete complete, deliver_eq, itemsOf, compiled]
  exact congrArg (fun work => work.outcome start (searched server query session))
    (handOn_ended sink (documents.map (Record.ofDocument className)))

theorem handsOn_inside (free : Free number session)
    (delivers : server.Delivers (session.way number) query session.server documents) :
    (backend server).HandsOn (some number) query session (itemsOf query documents)
      (searchedInside server number query session) := by
  intro τ sink start
  show (find server (some number) query sink).outcome start session = _
  rcases compiled : searchOf query with error | ⟨className, command⟩
  · rw [find_of_error compiled, itemsOf, searchedInside, compiled]
    rfl
  have fetched : (fetchAll server (some number) command).outcome session =
      (.ok documents, searchedInside server number query session) := by
    rw [fetchAll, Action.outcome_bind, outcome_send_free free]
    show (Action.ofResult (Reply.complete _)).outcome _ = _
    rw [delivers className command compiled, searchedInside, compiled]
    rfl
  rw [find_inside compiled, Work.outcome_ofAction_bind fetched, deliver_eq, itemsOf, compiled]

theorem free_searchedInside (free : Free number session) :
    Free number (searchedInside server number query session) := by
  unfold searchedInside
  split
  · show ((session.begun number).transaction number).busy = false
    rw [Session.begun, alter_transaction]
    split
    · exact free
    · exact free
  · exact free

/-- **Through a transaction, an iteration is what it is outside of it.** -/
theorem iterates_alike_inside (number : Nat) {before within : Session σ}
    (free : Free number within)
    (outside : server.Delivers none query before.server documents)
    (inside : server.Delivers (within.way number) query within.server documents) :
    (backend server).IteratesAlike query none (some number) before within
      (searched server query before) (searchedInside server number query within)
      (itemsOf query documents) (Own number) (Free number) :=
  iterates_alike (handsOn_outside outside) (handsOn_inside free inside)
    (neverWaits server number) (fun _ member => (Option.some.inj member).symm) free
    (free_searchedInside free)

end Mongo

/-! ### Both backends -/

/-- **Iterations inside a transaction and outside of it are alike**, on both backends and for every
sink, whatever of the rows or documents can be read: the same records in the same order up to the
same error. A sink finds the transaction free in each of its calls, and never waits for it. -/
theorem iteration_inside_is_outside (query : FindQuery) (number : Nat) :
    (∀ {σ : Type} (server : Postgres.Server σ) (rows : List Postgres.Row)
      (before within : Postgres.Session σ), within.phase number = .idle →
      server.Delivers none query before.server rows →
      server.Delivers (some number) query within.server rows →
      (Postgres.backend server).IteratesAlike query none (some number) before within
        (Postgres.searched server none query before)
        (Postgres.searched server (some number) query within) (Postgres.itemsOf query rows)
        (Postgres.Own number) (Postgres.Free number)) ∧
    ∀ {σ : Type} (server : Mongo.Server σ) (documents : List Document)
      (before within : Mongo.Session σ), Mongo.Free number within →
      server.Delivers none query before.server documents →
      server.Delivers (within.way number) query within.server documents →
      (Mongo.backend server).IteratesAlike query none (some number) before within
        (Mongo.searched server query before) (Mongo.searchedInside server number query within)
        (Mongo.itemsOf query documents) (Mongo.Own number) (Mongo.Free number) :=
  ⟨fun _ _ _ _ idle => Postgres.iterates_alike_inside number idle,
    fun _ _ _ _ free => Mongo.iterates_alike_inside number free⟩

/-- A row with a name, and one with a location, which is no value. -/
def playerRows : List Postgres.Row :=
  [⟨[⟨"name", "TEXT"⟩], [.text "Ann"]⟩, ⟨[⟨"home", "POINT"⟩], [.text "(0,0)"]⟩]

/-- A document with a name, and one with a pattern, which is no value. -/
def playerDocuments : List Document :=
  [[("name", .text "Ann")], [("home", .foreign .regularExpression)]]

/-- Counts the players anew for each player that is found, and how often that was. -/
def recounting (backend : Backend σ κ) (channel : κ) (query : FindQuery) (_ : Record) :
    Work σ Nat Unit := do
  let _ ← (Work.ofAction (backend.count channel query)).attempt
  Work.gather (· + 1)

theorem uses_recounting (backend : Backend σ κ) {channel : κ} {through : κ → Prop}
    (may : through channel) (query : FindQuery) (record : Record) :
    backend.Uses through (recounting backend channel query record) :=
  .seq (.attempt (.verb may (.count query))) fun _ => .gather _

theorem iteration_inside_is_outside_players :
    let query := { FindQuery.empty with className := some "players" }
    let postgres : Postgres.Server Unit := ⟨fun _ _ => pure ⟨playerRows, 0, none⟩⟩
    let mongo : Mongo.Server Unit := ⟨fun _ _ => pure ⟨playerDocuments, none, none, none⟩⟩
    let session := (Postgres.Session.start ()).setPhase 0 .idle
    let iteration := (Postgres.backend postgres).iterate (some 0) query
      (recounting (Postgres.backend postgres) (some 0) query) 0 session
    let other := (Mongo.backend mongo).iterate (some 0) query
      (recounting (Mongo.backend mongo) (some 0) query) 0 (Mongo.Session.start ())
    session.phase 0 = .idle ∧ Mongo.Free 0 (Mongo.Session.start ()) ∧
    (∀ channel, postgres.Delivers channel query () playerRows) ∧
    (∀ channel, mongo.Delivers channel query () playerDocuments) ∧
    iteration.calls.map (·.1.fields) = [[("name", .text "Ann")]] ∧
    (∀ call ∈ iteration.calls, Postgres.Free 0 call.2) ∧
    iteration.result = .error (.compile (.unsupported (.columnType "home" "POINT"))) ∧
    other.calls.map (·.1.fields) = [[("name", .text "Ann")]] ∧
    (∀ call ∈ other.calls, Mongo.Free 0 call.2) ∧
    other.result = .error (.compile (.unsupported (.foreign .regularExpression))) := by
  intro query postgres mongo session iteration other
  obtain ⟨onPostgres, onMongo⟩ := iteration_inside_is_outside query 0
  have rows (channel : Postgres.Channel) : postgres.Delivers channel query () playerRows :=
    fun _ _ _ => rfl
  have documents (channel : Mongo.Channel) : mongo.Delivers channel query () playerDocuments :=
    fun _ _ _ => rfl
  have one := onPostgres postgres playerRows session session rfl (rows none) (rows (some 0))
  have two := onMongo mongo playerDocuments (.start ()) (.start ()) rfl (documents none)
    (documents none)
  refine ⟨rfl, rfl, rows, documents, ?_, (one.released _ 0 ?_).1, ?_, ?_, (two.released _ 0 ?_).1,
    ?_⟩
  · rfl
  · exact uses_recounting _ (fun _ member => (Option.some.inj member).symm) query
  · rfl
  · rfl
  · exact uses_recounting _ (fun _ member => (Option.some.inj member).symm) query
  · rfl

end TwinStore
