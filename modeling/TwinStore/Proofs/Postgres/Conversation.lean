/-
**Conversations with a server.** What a transaction asks, where each request may depend on the
replies to those before it.

* `Conversation.run` holds a conversation with a server, and `Conversation.Course` are the exchanges
  that it may consist of; `course_run`: what a server hears is a course.
* `Held`: requests that are sent while a transaction is kept, and `held_run`: so are those of a
  conversation for which it is kept.
* `Upsert.conversation`: the statements of an upsert. `Upsert.outcome_run`: that is what is sent.
* `Upsert.alone`: the upsert as a transaction of its own. `outcome_upsert` and `held_upsert`:
  outside a transaction, an upsert is this conversation with whatever server.
-/

import TwinStore.Proofs.Postgres.Exchange

namespace TwinStore.Postgres

variable {σ α β : Type}

/-- Requests to a server, each depending on the replies so far. -/
inductive Conversation (α : Type) where
  | done (value : α)
  | ask (request : Request) (next : Reply → Conversation α)

namespace Conversation

/-- One conversation, and then another. -/
def bind : Conversation α → (α → Conversation β) → Conversation β
  | done value, next => next value
  | ask request following, next => ask request fun reply => (following reply).bind next

/-- Holds a conversation with a server. -/
def run (server : Server σ) (channel : Channel) : Conversation α → StateM σ α
  | done value => pure value
  | ask request next => do (next (← server.answer channel request)).run server channel

/-- The exchanges that a conversation may consist of, and what comes of it then. -/
inductive Course : Conversation α → List (Request × Reply) → α → Prop where
  | done (value : α) : Course (done value) [] value
  | ask {request : Request} {next : Reply → Conversation α} {sent : List (Request × Reply)}
      {value : α} (reply : Reply) (rest : Course (next reply) sent value) :
      Course (ask request next) ((request, reply) :: sent) value

theorem run_bind (server : Server σ) (channel : Channel) (first : Conversation α)
    (next : α → Conversation β) :
    (first.bind next).run server channel =
      first.run server channel >>= fun value => (next value).run server channel := by
  induction first with
  | done value => rfl
  | ask request following step => simp only [bind, run, step, bind_assoc]

/-- The course of two conversations is that of the one and then that of the other. -/
theorem course_bind {first : Conversation α} {next : α → Conversation β}
    {sent : List (Request × Reply)} {value : β} (course : (first.bind next).Course sent value) :
    ∃ early middle late, sent = early ++ late ∧ first.Course early middle ∧
      (next middle).Course late value := by
  induction first generalizing sent with
  | done middle => exact ⟨[], middle, sent, rfl, .done middle, course⟩
  | ask request following step =>
    obtain _ | ⟨reply, rest⟩ := course
    obtain ⟨early, middle, late, rfl, one, two⟩ := step reply rest
    exact ⟨(request, reply) :: early, middle, late, rfl, .ask reply one, two⟩

/-- **What a server hears of a conversation is a course.** -/
theorem course_run (server : Server σ) (number : Nat) (conversation : Conversation α)
    (heard : Heard σ) :
    ∃ sent, conversation.Course sent
        (Id.run ((conversation.run server.heard (some number)).run heard)).1 ∧
      (Id.run ((conversation.run server.heard (some number)).run heard)).2.entries =
        heard.entries ++ sent.map (Entry.ofExchange number) := by
  induction conversation generalizing heard with
  | done value => exact ⟨[], .done value, (List.append_nil _).symm⟩
  | ask request next step =>
    let answered := Id.run ((server.heard.answer (some number) request).run heard)
    obtain ⟨sent, course, grown⟩ := step answered.1 answered.2
    refine ⟨(request, answered.1) :: sent, .ask answered.1 course, grown.trans ?_⟩
    show (heard.entries ++ [Entry.ofExchange number (request, answered.1)]) ++ _ = _
    rw [List.append_assoc, List.singleton_append, List.map_cons]

end Conversation

/-! ### Keeping a transaction for a conversation -/

/-- From one session to the next a transaction exchanges requests and replies, and is kept all the
while. -/
inductive Held (server : Server σ) (number : Nat) :
    Session (Heard σ) → List (Request × Reply) → Session (Heard σ) → Prop where
  | nothing (session : Session (Heard σ)) : Held server number session [] session
  | ask {session middle after : Session (Heard σ)} {sent : List (Request × Reply)}
      {request : Request} {reply : Reply} (kept : session.phase number = .busy)
      (answered : (ask server.heard (some number) request).outcome session = (.ok reply, middle))
      (rest : Held server number middle sent after) :
      Held server number session ((request, reply) :: sent) after

/-- An answer is logged. -/
theorem exchanged_of_ask {server : Server σ} {number : Nat} {request : Request} {reply : Reply}
    {session middle : Session (Heard σ)}
    (answered : (ask server.heard (some number) request).outcome session = (.ok reply, middle)) :
    Exchanged number [(request, reply)] session middle := by
  cases answered
  rfl

theorem Held.exchanged {server : Server σ} {number : Nat} {before after : Session (Heard σ)}
    {sent : List (Request × Reply)} (held : Held server number before sent after) :
    Exchanged number sent before after := by
  induction held with
  | nothing => exact .nothing
  | ask kept answered rest step => exact (exchanged_of_ask answered).trans step

/-- **A conversation for which a transaction is kept** sends all its requests meanwhile. -/
theorem held_run (server : Server σ) (number : Nat) (conversation : Conversation α)
    (session : Session (Heard σ)) (kept : session.phase number = .busy) :
    let held := Id.run ((conversation.run server.heard (some number)).run session.server)
    ∃ sent, conversation.Course sent held.1 ∧
      Held server number session sent { session with server := held.2 } := by
  induction conversation generalizing session with
  | done value => exact ⟨[], .done value, .nothing session⟩
  | ask request next step =>
    let answered := Id.run ((server.heard.answer (some number) request).run session.server)
    obtain ⟨sent, course, rest⟩ := step answered.1 { session with server := answered.2 } kept
    exact ⟨_, .ask answered.1 course, .ask kept rfl rest⟩

/-! ### Upserts -/

namespace Upsert

/-- What comes of the reply to an insertion. -/
def insertion (statements : Upsert) (inserted : Reply) : Except StoreError (Option Record) :=
  match inserted.complete, statements.returning with
  | .error error, _ => .error error
  | .ok [], _ => .error (.postgres .missingRow)
  | .ok (_ :: _), .before => .ok none
  | .ok (row :: _), .after => (row.toRecord statements.className).map some

/-- The statements of an upsert: the update, and the insertion if there was nothing to update. -/
def conversation (statements : Upsert) : Conversation (Except StoreError (Option Record)) :=
  .ask (.run statements.update) fun updated =>
    match updated.complete with
    | .error error => .done (.error error)
    | .ok (row :: _) => .done ((row.toRecord statements.className).map some)
    | .ok [] =>
      .ask (.run statements.insert) fun inserted => .done (statements.insertion inserted)

/-- An upsert commits if it has succeeded, and is given up if it has failed. -/
def ending : Except StoreError (Option Record) → Conversation (Except StoreError (Option Record))
  | .ok record => .ask .commit fun ended => .done (ended.complete.map fun _ => record)
  | .error error => .ask .giveUp fun _ => .done (.error error)

/-- An upsert in a transaction of its own. -/
def alone (statements : Upsert) : Conversation (Except StoreError (Option Record)) :=
  .ask .openTransaction fun begun =>
    match begun.complete with
    | .error error => .done (.error error)
    | .ok _ => statements.conversation.bind ending

variable (server : Server σ) (number : Nat)

/-- What comes of asking a server, and the session behind it. -/
theorem outcome_ask_bind (request : Request) (next : Reply → Action (Session σ) α)
    (session : Session σ) :
    (ask server (some number) request >>= next).outcome session =
      let answered := Id.run ((server.answer (some number) request).run session.server)
      (next answered.1).outcome { session with server := answered.2 } := rfl

/-- **The statements of an upsert are its conversation.** -/
theorem outcome_run (statements : Upsert) (session : Session σ) :
    (statements.run server number).outcome session =
      let held := Id.run ((statements.conversation.run server (some number)).run session.server)
      (held.1, { session with server := held.2 }) := by
  unfold run conversation Conversation.run
  rw [outcome_ask_bind]
  simp only [StateT.run_bind, Id.run_bind]
  obtain ⟨updated, middle⟩ :=
    Id.run ((server.answer (some number) (.run statements.update)).run session.server)
  simp only
  cases updated.complete with
  | error error => rfl
  | ok rows =>
    cases rows with
    | cons row rest =>
      dsimp only [Action.ofResult_bind_ok]
      cases row.toRecord statements.className <;> rfl
    | nil =>
      rw [Action.ofResult_bind_ok]
      simp only [outcome_ask_bind, Conversation.run, StateT.run_bind, Id.run_bind]
      obtain ⟨inserted, after⟩ :=
        Id.run ((server.answer (some number) (.run statements.insert)).run middle)
      unfold insertion
      simp only
      cases inserted.complete with
      | error error => rfl
      | ok rows =>
        cases rows with
        | nil => rfl
        | cons row rest =>
          cases statements.returning with
          | before => rfl
          | after =>
            dsimp only [Action.ofResult_bind_ok]
            cases row.toRecord statements.className <;> rfl

/-! ### Transactions of their own -/

/-- The session behind a transaction that was opened, in a phase of it. -/
def opened (session : Session σ) (phase : Phase) (state : σ) : Session σ :=
  { session.setPhase session.opened phase with server := state, opened := session.opened + 1 }

theorem phase_opened (session : Session σ) (phase : Phase) (state : σ) :
    (opened session phase state).phase session.opened = phase := if_pos rfl

theorem setPhase_opened (session : Session σ) (phase : Phase) (state final : σ) :
    { (opened session .idle state).setPhase session.opened phase with server := final } =
      opened session phase final := by
  have last : (fun other => if other = session.opened then phase else
      if other = session.opened then Phase.idle else session.phase other) =
        fun other => if other = session.opened then phase else session.phase other := by
    funext other
    split <;> rfl
  simp only [Session.setPhase, opened, last]

theorem outcome_openNew (session : Session σ) :
    (openNew server).outcome session =
      let begun :=
        Id.run ((server.answer (some session.opened) .openTransaction).run session.server)
      match begun.1.complete with
      | .error error => (.error error, { session with server := begun.2 })
      | .ok _ => (.ok session.opened, opened session .idle begun.2) := by
  unfold openNew command
  rw [Action.outcome_get_bind, bind_assoc, outcome_ask_bind]
  simp only
  cases (Id.run ((server.answer (some session.opened) .openTransaction).run
    session.server)).1.complete <;> rfl

theorem outcome_close_opened (session : Session σ) (state : σ) (request : Request) :
    (close server session.opened request).outcome (opened session .idle state) =
      let ended := Id.run ((server.answer (some session.opened) request).run state)
      (ended.1.complete.map fun _ => (), opened session .finished ended.2) := by
  unfold close
  rw [Action.outcome_get_bind, phase_opened]
  exact Prod.ext rfl (setPhase_opened session .finished state _)

theorem outcome_giveUp_opened (session : Session σ) (state : σ) :
    (giveUp server session.opened).outcome (opened session .idle state) =
      let lost := Id.run ((server.answer (some session.opened) .giveUp).run state)
      (.ok (), opened session .finished lost.2) := by
  unfold giveUp
  exact Prod.ext rfl (setPhase_opened session .finished state _)

/-- How a transaction of its own ends that was opened. -/
theorem outcome_ending (session : Session σ) (state : σ)
    (made : Except StoreError (Option Record)) :
    (match made with
      | .ok record => do
        close server session.opened .commit
        return record
      | .error error => do
        giveUp server session.opened
        throw error : Action (Session σ) (Option Record)).outcome (opened session .idle state) =
      let held := Id.run (((ending made).run server (some session.opened)).run state)
      (held.1, opened session .finished held.2) := by
  cases made with
  | ok record =>
    simp only [Action.outcome_bind, outcome_close_opened, ending, Conversation.run,
      StateT.run_bind, Id.run_bind]
    cases (Id.run ((server.answer (some session.opened) .commit).run state)).1.complete <;> rfl
  | error error =>
    simp only [Action.outcome_bind, outcome_giveUp_opened]
    rfl

section Alone

variable {query : FindQuery} {plan : UpsertPlan} {returning : Returning} {statements : Upsert}
  (compiled : Upsert.of query plan returning = .ok statements)

include compiled

/-- What comes of an upsert outside a transaction. -/
theorem outcome_upsert (session : Session σ) :
    (upsert server none query plan returning).outcome session =
      let begun :=
        Id.run ((server.answer (some session.opened) .openTransaction).run session.server)
      match begun.1.complete with
      | .error error => (.error error, { session with server := begun.2 })
      | .ok _ =>
        let held := Id.run (((statements.conversation.bind ending).run server
          (some session.opened)).run begun.2)
        (held.1, opened session .finished held.2) := by
  unfold upsert
  rw [compiled, Action.ofResult_bind_ok, Action.outcome_bind, outcome_openNew]
  obtain ⟨begun, state⟩ :=
    Id.run ((server.answer (some session.opened) .openTransaction).run session.server)
  simp only
  cases begun.complete with
  | error error => rfl
  | ok rows =>
    have attempted : ((statements.run server session.opened).attempt).outcome
        (opened session .idle state) =
          let held := Id.run ((statements.conversation.run server (some session.opened)).run state)
          (.ok held.1, opened session .idle held.2) := by
      show (Except.ok ((statements.run server session.opened).outcome _).1,
        ((statements.run server session.opened).outcome _).2) = _
      rw [outcome_run]
      rfl
    simp only [Action.outcome_bind, attempted, Conversation.run_bind, StateT.run_bind,
      Id.run_bind]
    exact outcome_ending server session _ _

/-- **Outside a transaction, an upsert is a conversation of its own** with the server. -/
theorem held_upsert (session : Session σ) :
    let outcome := (upsert server none query plan returning).outcome session
    (outcome.1, outcome.2.server) =
      Id.run ((statements.alone.run server (some session.opened)).run session.server) := by
  rw [outcome_upsert server compiled, alone, Conversation.run, StateT.run_bind, Id.run_bind]
  obtain ⟨begun, state⟩ :=
    Id.run ((server.answer (some session.opened) .openTransaction).run session.server)
  dsimp only
  cases begun.complete <;> rfl

end Alone

end Upsert

end TwinStore.Postgres
