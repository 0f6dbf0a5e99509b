/-
**Exchanges with a server.** What the requests of one verb do to a transaction, by the state that
the transaction is in.

* `Server.heard`: the server with a log of what it was asked and what it answered.
* `Sends`: what becomes of requests that are to be sent one after the other.
* `Asks`: an action that sends such requests through an open transaction, leaves it open, and does
  nothing through one that is over. It is closed under what verbs are made of.
-/

import TwinStore.Postgres.Backend
import TwinStore.Proofs.Store.Action

namespace TwinStore.Postgres

variable {σ τ α β : Type}

/-! ### Operations -/

/-- What can be done with a transaction. -/
inductive Operation where
  | count (query : FindQuery)
  | find (query : FindQuery)
  | insert (className : String) (plan : InsertPlan)
  | update (query : FindQuery) (update : UpdateSet) (returning : Returning)
  | upsert (query : FindQuery) (plan : UpsertPlan) (returning : Returning)
  | delete (query : FindQuery)
  | deleteAll (query : FindQuery)
  | tables
  | createTable (table : Table)
  | addColumns (className : String) (columns : List Column)
  | dropTable (className : String)
  | dropColumns (className : String) (columns : List String)
  | addIndex (className : String) (index : TableIndex)
  | dropIndex (className name : String)
  | openTransaction
  | commit
  | abort

/-- What happens at a server: a request is answered. Operations are noted where they begin and
where they return. -/
inductive Entry where
  | issued (operation : Operation)
  | asked (channel : Channel) (request : Request) (reply : Reply)
  | returned (operation : Operation) (failure : Option StoreError)

/-- The state of a server, and what happened so far. -/
structure Heard (σ : Type) where
  state : σ
  entries : List Entry

/-- The server with a log. -/
def Server.heard (server : Server σ) : Server (Heard σ) where
  answer channel request := fun heard =>
    let (reply, state) := Id.run ((server.answer channel request).run heard.state)
    pure (reply, ⟨state, heard.entries ++ [.asked channel request reply]⟩)

/-- A request with its reply as it is logged. -/
def Entry.ofExchange (number : Nat) (exchange : Request × Reply) : Entry :=
  .asked (some number) exchange.1 exchange.2

/-- From one session to the next a transaction exchanges requests and replies, and nothing else
happens at the server. -/
def Exchanged (number : Nat) (sent : List (Request × Reply)) (before after : Session (Heard σ)) :
    Prop :=
  after.server.entries = before.server.entries ++ sent.map (Entry.ofExchange number)

namespace Exchanged

variable {number : Nat} {before middle after : Session (Heard σ)}
  {first later : List (Request × Reply)}

theorem nothing : Exchanged number [] before before := (List.append_nil _).symm

theorem trans (one : Exchanged number first before middle)
    (two : Exchanged number later middle after) :
    Exchanged number (first ++ later) before after := by
  unfold Exchanged at *
  rw [two, one, List.append_assoc, List.map_append]

end Exchanged

/-! ### Keeping a transaction -/

section Keeping

variable {number : Nat} {session : Session σ}

theorem outcome_exclusively_finished (finished : session.phase number = .finished)
    (action : Action (Session σ) α) :
    (exclusively number action).outcome session = (.error .transactionFinished, session) := by
  unfold exclusively
  rw [Action.outcome_get_bind, finished]
  rfl

theorem outcome_exclusively_busy (busy : session.phase number = .busy)
    (action : Action (Session σ) α) :
    (exclusively number action).outcome session = (.error .transactionBusy, session) := by
  unfold exclusively
  rw [Action.outcome_get_bind, busy]
  rfl

theorem outcome_exclusively_idle (idle : session.phase number = .idle)
    (action : Action (Session σ) α) :
    (exclusively number action).outcome session =
      ((action.outcome (session.setPhase number .busy)).1,
        (action.outcome (session.setPhase number .busy)).2.setPhase number .idle) := by
  unfold exclusively
  rw [Action.outcome_get_bind, idle]
  rfl

/-- Behind a request, a transaction that was kept for it is as it was. -/
theorem setPhase_restored (idle : session.phase number = .idle) (state : σ) :
    ({ session.setPhase number .busy with server := state } : Session σ).setPhase number .idle =
      { session with server := state } := by
  refine congrArg (Session.mk state session.opened) (funext fun other => ?_)
  show (if other = number then .idle else if other = number then .busy else session.phase other) =
    session.phase other
  split
  · next here => rw [here, idle]
  · rfl

end Keeping

/-! ### One request -/

section Request

variable (server : Server σ) {number : Nat}

/-- A request is answered, whatever the answer. -/
theorem outcome_ask (number : Nat) (session : Session (Heard σ)) (request : Request) :
    ∃ reply after,
      (ask server.heard (some number) request).outcome session = (.ok reply, after) ∧
        Exchanged number [(request, reply)] session after :=
  ⟨_, _, rfl, rfl⟩

theorem outcome_send_finished {session : Session σ} (finished : session.phase number = .finished)
    (request : Request) :
    (send server (some number) request).outcome session =
      (.error .transactionFinished, session) :=
  outcome_exclusively_finished finished _

theorem outcome_send_idle {session : Session (Heard σ)} (idle : session.phase number = .idle)
    (request : Request) :
    ∃ reply after,
      (send server.heard (some number) request).outcome session = (.ok reply, after) ∧
        Exchanged number [(request, reply)] session after ∧ after.phase number = .idle :=
  ⟨_, _, outcome_exclusively_idle idle _, rfl, if_pos rfl⟩

end Request

/-! ### Requests in order -/

/-- What becomes of requests that are to be sent one after the other: each is answered, up to one
that cannot be compiled or whose reply ends the matter. -/
inductive Sends (goesOn : Reply → Prop) :
    List (Except StoreError Request) → List (Request × Reply) → Prop where
  | nothing : Sends goesOn [] []
  | broken (error : StoreError) (later : List (Except StoreError Request)) :
      Sends goesOn (.error error :: later) []
  | last {request : Request} {reply : Reply} {later : List (Except StoreError Request)}
      (stops : ¬goesOn reply) : Sends goesOn (.ok request :: later) [(request, reply)]
  | next {request : Request} {reply : Reply} {later : List (Except StoreError Request)}
      {sent : List (Request × Reply)} (on : goesOn reply) (rest : Sends goesOn later sent) :
      Sends goesOn (.ok request :: later) ((request, reply) :: sent)

/-- Only what is to be sent is sent. -/
theorem Sends.mem {goesOn : Reply → Prop} {requests : List (Except StoreError Request)}
    {sent : List (Request × Reply)} (sends : Sends goesOn requests sent) :
    ∀ exchange ∈ sent, .ok exchange.1 ∈ requests := by
  induction sends with
  | nothing | broken => nofun
  | last => simp
  | next on rest step =>
    rintro exchange (_ | ⟨_, member⟩)
    · exact List.mem_cons_self
    · exact List.mem_cons_of_mem _ (step exchange member)

/-- There is something to send, and it compiles. -/
def Sendable (requests : List (Except StoreError Request)) : Prop :=
  ∃ request later, requests = .ok request :: later

/-! ### Actions that ask -/

/-- The action leaves every session as it is. -/
def Still (action : Action σ α) : Prop := ∀ store, (action.outcome store).2 = store

namespace Still

theorem ofResult (result : Except StoreError α) : Still (Action.ofResult result : Action σ α) :=
  fun _ => rfl

theorem snd_outcome_bind {first : Action σ α} {next : α → Action σ β}
    (still : ∀ value, Still (next value)) (store : σ) :
    ((first >>= next).outcome store).2 = (first.outcome store).2 := by
  rw [Action.outcome_bind]
  obtain ⟨_ | value, after⟩ := first.outcome store
  · rfl
  · exact still value after

theorem bind {first : Action σ α} {next : α → Action σ β} (one : Still first)
    (two : ∀ value, Still (next value)) : Still (first >>= next) :=
  fun store => (snd_outcome_bind two store).trans (one store)

end Still

/-- An action exchanges requests in order, whatever the state of the transaction. -/
def Exchanges (number : Nat) (goesOn : Reply → Prop) (requests : List (Except StoreError Request))
    (action : Action (Session (Heard σ)) α) : Prop :=
  ∀ session, ∃ sent, Sends goesOn requests sent ∧
    Exchanged number sent session (action.outcome session).2

namespace Exchanges

variable {server : Server σ} {number : Nat} {goesOn : Reply → Prop}
  {later : List (Except StoreError Request)}

theorem still {action : Action (Session (Heard σ)) α} (still : Still action) :
    Exchanges number goesOn [] action := by
  intro session
  rw [still session]
  exact ⟨[], .nothing, .nothing⟩

/-- The first request is sent, and the others if its reply lets them. -/
theorem ask_then {request : Request} {next : Reply → Action (Session (Heard σ)) α}
    (on : ∀ reply, goesOn reply → Exchanges number goesOn later (next reply))
    (off : ∀ reply, ¬goesOn reply → Still (next reply)) :
    Exchanges number goesOn (.ok request :: later)
      (ask server.heard (some number) request >>= next) := by
  intro session
  obtain ⟨reply, middle, answered, first⟩ :=
    outcome_ask server number session request
  rw [Action.outcome_bind, answered]
  by_cases goes : goesOn reply
  · obtain ⟨sent, sends, rest⟩ := on reply goes middle
    exact ⟨_, .next goes sends, first.trans rest⟩
  · refine ⟨_, .last goes, ?_⟩
    show Exchanged number _ session ((next reply).outcome middle).2
    rw [off reply goes middle]
    exact first

theorem ask_last {request : Request} {next : Reply → Action (Session (Heard σ)) α}
    (still : ∀ reply, Still (next reply)) :
    Exchanges number goesOn [.ok request] (ask server.heard (some number) request >>= next) :=
  ask_then (fun reply _ => .still (still reply)) fun reply _ => still reply

end Exchanges

/-- An action sends requests in order through an open transaction, which stays open. Through one
that is over it does nothing, and fails for that if there is something to send. -/
structure Asks (number : Nat) (goesOn : Reply → Prop) (requests : List (Except StoreError Request))
    (action : Action (Session (Heard σ)) α) : Prop where
  idle : ∀ session, session.phase number = .idle →
    ∃ sent, Sends goesOn requests sent ∧ Exchanged number sent session (action.outcome session).2 ∧
      (action.outcome session).2.phase number = .idle
  finished : ∀ session, session.phase number = .finished →
    (action.outcome session).2 = session ∧
      (Sendable requests → (action.outcome session).1 = .error .transactionFinished)

namespace Asks

variable {server : Server σ} {number : Nat} {goesOn : Reply → Prop}
  {requests later : List (Except StoreError Request)}

/-- Nothing is sent where nothing is to be sent. -/
theorem still {action : Action (Session (Heard σ)) α} (still : Still action) :
    Asks number goesOn [] action := by
  refine ⟨fun session idle => ?_, fun session _ => ⟨still session, nofun⟩⟩
  rw [still session]
  exact ⟨[], .nothing, .nothing, idle⟩

/-- What does not compile is not sent. -/
theorem broken (error : StoreError) :
    Asks number goesOn (.error error :: later)
      (Action.ofResult (.error error) : Action (Session (Heard σ)) α) :=
  ⟨fun _ idle => ⟨[], .broken error later, .nothing, idle⟩, fun _ _ => ⟨rfl, nofun⟩⟩

/-- An open transaction is kept while requests are exchanged. -/
theorem exclusively {action : Action (Session (Heard σ)) α}
    (exchanges : Exchanges number goesOn requests action) :
    Asks number goesOn requests (exclusively number action) where
  idle session idle := by
    obtain ⟨sent, sends, exchanged⟩ := exchanges (session.setPhase number .busy)
    rw [outcome_exclusively_idle idle]
    exact ⟨sent, sends, exchanged, if_pos rfl⟩
  finished session finished := by
    rw [outcome_exclusively_finished finished]
    exact ⟨rfl, fun _ => rfl⟩

/-- The first request is sent, and the others if its reply lets them. -/
theorem send_then {request : Request} {next : Reply → Action (Session (Heard σ)) α}
    (on : ∀ reply, goesOn reply → Asks number goesOn later (next reply))
    (off : ∀ reply, ¬goesOn reply → Still (next reply)) :
    Asks number goesOn (.ok request :: later)
      (send server.heard (some number) request >>= next) := by
  refine ⟨fun session idle => ?_, fun session finished => ?_⟩
  · obtain ⟨reply, middle, answered, first, open_⟩ :=
      outcome_send_idle server idle request
    rw [Action.outcome_bind, answered]
    by_cases goes : goesOn reply
    · obtain ⟨sent, sends, rest, last⟩ := (on reply goes).idle middle open_
      exact ⟨_, .next goes sends, first.trans rest, last⟩
    · show ∃ sent, _ ∧ Exchanged number sent session ((next reply).outcome middle).2 ∧ _
      rw [off reply goes middle]
      exact ⟨_, .last goes, first, open_⟩
  · rw [Action.outcome_bind, outcome_send_finished _ finished]
    exact ⟨rfl, fun _ => rfl⟩

theorem send (request : Request) :
    Asks number goesOn [.ok request] (send server.heard (some number) request) := by
  rw [← bind_pure (Postgres.send server.heard (some number) request)]
  exact send_then (fun _ _ => .still fun _ => rfl) fun _ _ _ => rfl

/-- What is made of an answer sends nothing. -/
theorem then_still {action : Action (Session (Heard σ)) α}
    {next : α → Action (Session (Heard σ)) β} (asks : Asks number goesOn requests action)
    (still : ∀ value, Still (next value)) : Asks number goesOn requests (action >>= next) := by
  have same (session : Session (Heard σ)) :
      ((action >>= next).outcome session).2 = (action.outcome session).2 :=
    Still.snd_outcome_bind still session
  refine ⟨fun session idle => ?_, fun session finished => ?_⟩
  · rw [same]
    exact asks.idle session idle
  · obtain ⟨untouched, fails⟩ := asks.finished session finished
    refine ⟨(same session).trans untouched, fun sendable => ?_⟩
    have failed := fails sendable
    rw [Action.outcome_bind]
    revert failed
    obtain ⟨result, after⟩ := action.outcome session
    rintro rfl
    rfl

/-- What is compiled first is sent if it compiles. -/
theorem compile {γ : Type} {compiled : Except StoreError γ}
    {request : γ → Except StoreError Request} {next : γ → Action (Session (Heard σ)) α}
    (asks : ∀ value, Asks number goesOn (request value :: later) (next value)) :
    Asks number goesOn ((compiled >>= request) :: later) (Action.ofResult compiled >>= next) := by
  cases compiled with
  | error error => exact broken error
  | ok value => exact asks value

end Asks

end TwinStore.Postgres
