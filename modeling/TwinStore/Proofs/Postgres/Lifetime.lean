/-
**The life of a transaction.** What users of one transaction do to it, in whatever order and through
however many copies of its channel.

* `Usage`: operations one after the other, as data; the sink of a search may use the transaction.
* `Story`: what happens at the server meanwhile, operation by operation.
* `Usage.tells_run`: every usage has a story. One operation is `tells_observed`.
* `finished_transaction_is_dead`: a transaction ends once, and then nothing is sent through it.
-/

import TwinStore.Proofs.Postgres.Operation
import TwinStore.Store.Verb

namespace TwinStore.Postgres

variable {σ τ α β : Type}

/-! ### Usages -/

/-- Does an operation on a transaction; only a search uses the sink. -/
def Operation.perform (server : Server σ) (number : Nat)
    (sink : Record → Work (Session σ) τ Unit) : Operation → Work (Session σ) τ Answer
  | .count query =>
    return .number (← Work.ofAction ((backend server).count (some number) query))
  | .find query => do
    (backend server).find (some number) query sink
    return .done
  | .insert className plan =>
    return .record (some (← Work.ofAction ((backend server).insert (some number) className plan)))
  | .update query changes returning =>
    return .record
      (← Work.ofAction ((backend server).update (some number) query changes returning))
  | .upsert query plan returning =>
    return .record (← Work.ofAction ((backend server).upsert (some number) query plan returning))
  | .delete query =>
    return .record (← Work.ofAction ((backend server).delete (some number) query))
  | .deleteAll query =>
    return ((← Work.ofAction ((backend server).deleteAll (some number) query)).map .number).getD
      .done
  | .tables => return .names (← Work.ofAction ((backend server).tables (some number)))
  | .createTable table => do
    Work.ofAction ((backend server).createTable (some number) table)
    return .done
  | .addColumns className columns => do
    Work.ofAction ((backend server).addColumns (some number) className columns)
    return .done
  | .dropTable className => do
    Work.ofAction ((backend server).dropTable (some number) className)
    return .done
  | .dropColumns className columns => do
    Work.ofAction ((backend server).dropColumns (some number) className columns)
    return .done
  | .addIndex className index => do
    Work.ofAction ((backend server).addIndex (some number) className index)
    return .done
  | .dropIndex className name => do
    Work.ofAction ((backend server).dropIndex (some number) className name)
    return .done
  | .openTransaction => do
    let _ ← Work.ofAction ((backend server).openTransaction (some number))
    return .done
  | .commit => do
    Work.ofAction ((backend server).commit (some number))
    return .done
  | .abort => do
    Work.ofAction ((backend server).abort (some number))
    return .done

/-- The session with one more entry in the log. -/
def noted (session : Session (Heard σ)) (entry : Entry) : Session (Heard σ) :=
  { session with server.entries := session.server.entries ++ [entry] }

/-- Does an operation, with entries before and behind it. -/
def Operation.observed (server : Server σ) (number : Nat) (operation : Operation)
    (sink : Record → Work (Session (Heard σ)) τ Unit) (start : τ) :
    StateM (Session (Heard σ)) (Except StoreError Answer × τ) := do
  modify fun session => noted session (.issued operation)
  let outcome ← (operation.perform server.heard number sink).gathered start
  modify fun session => noted session (.returned operation (failureOf outcome.1))
  return outcome

/-- What the users of a transaction do, each step depending on what came of those before. The sink
of a search may use the transaction, and keeps a state of its own. -/
inductive Usage : Type → Type 1 where
  | done {α : Type} (value : α) : Usage α
  | perform {α ς : Type} (operation : Operation)
      (sink : ς → Record → Usage (Except StoreError Unit × ς)) (start : ς)
      (next : Except StoreError Answer → ς → Usage α) : Usage α

def Usage.run (server : Server σ) (number : Nat) :
    {α : Type} → Usage α → StateM (Session (Heard σ)) α
  | _, .done value => pure value
  | _, .perform operation sink start next => do
    let outcome ← operation.observed server number
      (fun record => ExceptT.mk fun state => (sink state record).run server number) start
    (next outcome.1 outcome.2).run server number

/-! ### Stories -/

/-- What may happen at a transaction on the way from one phase to another. -/
inductive Story (number : Nat) : Phase → List Entry → Phase → Prop where
  | done (phase : Phase) : Story number phase [] phase
  /-- An operation on an open transaction sends its requests. What a search calls while it hands
  records on is a story inside. -/
  | live {operation : Operation} {sent : List (Request × Reply)} {failure : Option StoreError}
      {within rest : List Entry} {middle after : Phase} (working : operation.ending? = none)
      (sends : Sends operation.GoesOn operation.requests sent)
      (inside : Story number .idle within middle) (behind : Story number middle rest after) :
      Story number .idle
        (.issued operation :: (sent.map (Entry.ofExchange number) ++
          (within ++ .returned operation failure :: rest))) after
  /-- A commit or an abort of an open transaction sends its one request. -/
  | ended {operation : Operation} {request : Request} {reply : Reply}
      {failure : Option StoreError} {rest : List Entry} {after : Phase}
      (ends : operation.ending? = some request) (behind : Story number .finished rest after) :
      Story number .idle
        (.issued operation :: .asked (some number) request reply ::
          .returned operation failure :: rest) after
  /-- An operation on a transaction that is over sends nothing, and fails for that if it has
  something to send. -/
  | dead {operation : Operation} {failure : Option StoreError} {rest : List Entry} {after : Phase}
      (refused : Sendable operation.requests → failure = some .transactionFinished)
      (behind : Story number .finished rest after) :
      Story number .finished (.issued operation :: .returned operation failure :: rest) after

/-- A request is answered here. -/
def Entry.IsAsked : Entry → Prop
  | .asked .. => True
  | _ => False

/-- A request that ends a transaction is answered here. -/
def Entry.Ends : Entry → Prop
  | .asked _ request _ => request.Ends
  | _ => False

/-- If a request is answered here, it came through the transaction of a number. -/
def Entry.Through (number : Nat) : Entry → Prop
  | .asked channel _ _ => channel = some number
  | _ => True

/-- One entry ends the transaction, and behind it nothing is asked any more. -/
def EndsOnce (number : Nat) (entries : List Entry) : Prop :=
  ∃ front request reply back, entries = front ++ .asked (some number) request reply :: back ∧
    request.Ends ∧ (∀ entry ∈ front, ¬entry.Ends) ∧ ∀ entry ∈ back, ¬entry.IsAsked

namespace Story

variable {number : Nat} {before middle after : Phase} {entries first later : List Entry}

theorem append (one : Story number before first middle) (two : Story number middle later after) :
    Story number before (first ++ later) after := by
  induction one with
  | done phase => exact two
  | live working sends inside behind _ step =>
    rw [List.cons_append, List.append_assoc, List.append_assoc, List.cons_append]
    exact .live working sends inside (step two)
  | ended ends behind step => exact .ended ends (step two)
  | dead refused behind step => exact .dead refused (step two)

theorem not_busy (story : Story number before entries after) (free : before ≠ .busy) :
    after ≠ .busy := by
  induction story with
  | done phase => exact free
  | live working sends inside behind inner step => exact step (inner nofun)
  | ended ends behind step => exact step nofun
  | dead refused behind step => exact step nofun

/-- All requests come through the one transaction. -/
theorem through (story : Story number before entries after) :
    ∀ entry ∈ entries, entry.Through number := by
  induction story with
  | done phase => exact List.forall_mem_nil _
  | live working sends inside behind inner step =>
    refine List.forall_mem_cons.mpr ⟨trivial, List.forall_mem_append.mpr ⟨?_,
      List.forall_mem_append.mpr ⟨inner, List.forall_mem_cons.mpr ⟨trivial, step⟩⟩⟩⟩
    exact List.forall_mem_map.mpr fun _ _ => rfl
  | ended ends behind step =>
    exact List.forall_mem_cons.mpr ⟨trivial, List.forall_mem_cons.mpr ⟨rfl,
      List.forall_mem_cons.mpr ⟨trivial, step⟩⟩⟩
  | dead refused behind step =>
    exact List.forall_mem_cons.mpr ⟨trivial, List.forall_mem_cons.mpr ⟨trivial, step⟩⟩

/-- Behind the end of a transaction nothing is asked. -/
theorem quiet (story : Story number before entries after) (finished : before = .finished) :
    after = .finished ∧ ∀ entry ∈ entries, ¬entry.IsAsked := by
  induction story with
  | done phase => exact ⟨finished, List.forall_mem_nil _⟩
  | live | ended => cases finished
  | dead refused behind step =>
    obtain ⟨closed, silent⟩ := step rfl
    exact ⟨closed, List.forall_mem_cons.mpr ⟨id, List.forall_mem_cons.mpr ⟨id, silent⟩⟩⟩

end Story

namespace EndsOnce

variable {number : Nat} {front entries back : List Entry}

theorem prepend (open_ : ∀ entry ∈ front, ¬entry.Ends) (ends : EndsOnce number entries) :
    EndsOnce number (front ++ entries) := by
  obtain ⟨before, request, reply, behind, rfl, ending, quiet, silent⟩ := ends
  exact ⟨front ++ before, request, reply, behind, (List.append_assoc ..).symm, ending,
    List.forall_mem_append.mpr ⟨open_, quiet⟩, silent⟩

theorem append (ends : EndsOnce number entries) (silent : ∀ entry ∈ back, ¬entry.IsAsked) :
    EndsOnce number (entries ++ back) := by
  obtain ⟨before, request, reply, behind, rfl, ending, quiet, still⟩ := ends
  exact ⟨before, request, reply, behind ++ back, by rw [List.append_assoc, List.cons_append],
    ending, quiet, List.forall_mem_append.mpr ⟨still, silent⟩⟩

end EndsOnce

/-- **A transaction ends at most once.** An open transaction stays open, or one request ends it. -/
theorem Story.ends_once {number : Nat} {before after : Phase} {entries : List Entry}
    (story : Story number before entries after) (idle : before = .idle) :
    after = .idle ∧ (∀ entry ∈ entries, ¬entry.Ends) ∨
      after = .finished ∧ EndsOnce number entries := by
  induction story with
  | done phase => exact .inl ⟨idle, List.forall_mem_nil _⟩
  | dead => cases idle
  | @ended operation request reply failure rest after ends behind step =>
    obtain ⟨closed, silent⟩ := behind.quiet rfl
    exact .inr ⟨closed, [.issued operation], request, reply, .returned operation failure :: rest,
      rfl, Operation.ends_of_ending ends, List.forall_mem_singleton.mpr id,
      List.forall_mem_cons.mpr ⟨id, silent⟩⟩
  | @live operation sent failure within rest middle after working sends inside behind inner step =>
    have open_ : ∀ entry ∈ Entry.issued operation :: sent.map (Entry.ofExchange number),
        ¬entry.Ends := List.forall_mem_cons.mpr ⟨id, List.forall_mem_map.mpr fun exchange member =>
          Operation.not_ends_of_mem working (sends.mem exchange member)⟩
    obtain ⟨rfl, quiet⟩ | ⟨rfl, ends⟩ := inner rfl
    · obtain ⟨rfl, later⟩ | ⟨rfl, ends⟩ := step rfl
      · exact .inl ⟨rfl, List.forall_mem_append.mpr ⟨open_, List.forall_mem_append.mpr ⟨quiet,
          List.forall_mem_cons.mpr ⟨id, later⟩⟩⟩⟩
      · have returned : ∀ entry ∈ [Entry.returned operation failure], ¬entry.Ends :=
          List.forall_mem_singleton.mpr id
        exact .inr ⟨rfl, ((ends.prepend returned).prepend quiet).prepend open_⟩
    · obtain ⟨rfl, silent⟩ := behind.quiet rfl
      have silent : ∀ entry ∈ Entry.returned operation failure :: rest, ¬entry.IsAsked :=
        List.forall_mem_cons.mpr ⟨id, silent⟩
      exact .inr ⟨rfl, (ends.append silent).prepend open_⟩

/-! ### Every usage has a story -/

/-- What a step adds to the log is a story. -/
def Tells (number : Nat) (step : StateM (Session (Heard σ)) α) : Prop :=
  ∀ session, session.phase number ≠ .busy →
    ∃ entries, (Id.run (step.run session)).2.server.entries = session.server.entries ++ entries ∧
      Story number (session.phase number) entries ((Id.run (step.run session)).2.phase number)

namespace Tells

variable {number : Nat}

theorem pure (value : α) : Tells number (pure value : StateM (Session (Heard σ)) α) :=
  fun _ _ => ⟨[], (List.append_nil _).symm, .done _⟩

theorem bind {first : StateM (Session (Heard σ)) α} {next : α → StateM (Session (Heard σ)) β}
    (one : Tells number first) (two : ∀ value, Tells number (next value)) :
    Tells number (first >>= next) := by
  intro session free
  obtain ⟨entries, grown, story⟩ := one session free
  obtain ⟨more, further, rest⟩ := two (Id.run (first.run session)).1
    (Id.run (first.run session)).2 (story.not_busy free)
  refine ⟨entries ++ more, ?_, story.append rest⟩
  rw [← List.append_assoc, ← grown]
  exact further

end Tells

/-- What work adds to the log is a story. -/
def WorkTells (number : Nat) (work : Work (Session (Heard σ)) τ α) : Prop :=
  ∀ start, Tells number (work.gathered start)

/-- Handing on records adds what the sink does with them. -/
theorem tells_deliver {number : Nat} {sink : Record → Work (Session (Heard σ)) τ Unit}
    (tells : ∀ record, WorkTells number (sink record)) (className : String) (rows : List Row) :
    WorkTells number (deliver className sink rows) := by
  induction rows with
  | nil => exact fun _ => .pure _
  | cons row rest step =>
    intro start
    unfold deliver
    cases row.toRecord className with
    | error error => exact .pure _
    | ok record =>
      rw [Work.ofResult_bind_ok, Work.gathered_bind]
      refine .bind (tells record start) fun outcome => ?_
      obtain ⟨_ | _, gathered⟩ := outcome
      · exact .pure _
      · exact step gathered

/-- What becomes of an operation with a sink, by the phase of the transaction. -/
structure Acts (number : Nat) (operation : Operation)
    (sink : Record → Work (Session (Heard σ)) τ Unit)
    (work : Work (Session (Heard σ)) τ Answer) : Prop where
  live : operation.ending? = none → (∀ record, WorkTells number (sink record)) →
    ∀ start session, session.phase number = .idle → ∃ sent within,
      Sends operation.GoesOn operation.requests sent ∧
      (work.outcome start session).2.server.entries =
        session.server.entries ++ (sent.map (Entry.ofExchange number) ++ within) ∧
      Story number .idle within ((work.outcome start session).2.phase number)
  ended : ∀ request, operation.ending? = some request → ∀ start session,
    session.phase number = .idle →
      ∃ reply, Exchanged number [(request, reply)] session (work.outcome start session).2 ∧
        (work.outcome start session).2.phase number = .finished
  dead : ∀ start session, session.phase number = .finished →
    (work.outcome start session).2 = session ∧
      (Sendable operation.requests →
        (work.outcome start session).1 = (.error .transactionFinished, start))

namespace Acts

variable {number : Nat} {operation : Operation} {server : Server σ}
  {sink : Record → Work (Session (Heard σ)) τ Unit}

/-- Most operations do nothing but ask. -/
theorem of_asks {action : Action (Session (Heard σ)) α} {answer : α → Answer}
    (working : operation.ending? = none)
    (asks : Asks number operation.GoesOn operation.requests action) :
    Acts number operation sink (do return answer (← Work.ofAction action)) where
  live _ _ start session idle := by
    obtain ⟨sent, sends, exchanged, open_⟩ := asks.idle session idle
    rw [Work.outcome_map, Work.outcome_ofAction]
    refine ⟨sent, [], sends, ?_, ?_⟩
    · rw [List.append_nil]
      exact exchanged
    · rw [open_]
      exact .done _
  ended request ends := by rw [working] at ends; cases ends
  dead start session finished := by
    obtain ⟨untouched, fails⟩ := asks.finished session finished
    rw [Work.outcome_map, Work.outcome_ofAction]
    exact ⟨untouched, fun sendable => by rw [fails sendable]; rfl⟩

/-- A commit and an abort close the transaction. -/
theorem of_close {request : Request} (ends : operation.ending? = some request) :
    Acts number operation sink (do
      Work.ofAction (close server.heard number request)
      return .done) where
  live working := by rw [working] at ends; cases ends
  ended other same start session idle := by
    obtain rfl : request = other := Option.some.inj (ends.symm.trans same)
    rw [Work.outcome_map, Work.outcome_ofAction]
    exact outcome_close_idle idle request
  dead start session finished := by
    rw [Work.outcome_map, Work.outcome_ofAction, outcome_close_finished finished]
    exact ⟨rfl, fun _ => rfl⟩

/-- A search takes its rows, and then the sink uses the transaction. -/
theorem of_find (query : FindQuery) :
    Acts number (.find query) sink (do
      find server.heard (some number) query sink
      return .done) where
  live _ tells start session idle := by
    obtain ⟨sent, sends, exchanged, open_⟩ := (asks_selected server _ query).idle session idle
    rw [Work.outcome_map, outcome_find]
    revert exchanged open_
    obtain ⟨_ | ⟨className, rows⟩, middle⟩ :=
      (selected server.heard (some number) query).outcome session
    · intro exchanged open_
      exact ⟨sent, [], sends, by rw [List.append_nil]; exact exchanged, open_ ▸ .done _⟩
    · intro exchanged open_
      obtain ⟨within, grown, story⟩ := tells_deliver tells className rows start middle
        (by rw [open_]; nofun)
      refine ⟨sent, within, sends, ?_, open_ ▸ story⟩
      rw [← List.append_assoc, ← exchanged]
      exact grown
  ended request ends := by cases ends
  dead start session finished := by
    obtain ⟨untouched, fails⟩ :=
      (asks_selected server Reply.Succeeds query).finished session finished
    rw [Work.outcome_map, outcome_find]
    cases took : (selected server.heard (some number) query).outcome session with
    | mk result middle =>
      rw [took] at untouched fails
      cases result with
      | error error => exact ⟨untouched, fun sendable => by cases fails sendable; rfl⟩
      | ok rows => exact nomatch fails (sendable_of_selected took)

/-- Between the beginning and the return of an operation there is what its phase allows. -/
theorem story {work : Work (Session (Heard σ)) τ Answer} (acts : Acts number operation sink work)
    (tells : ∀ record, WorkTells number (sink record)) (start : τ) (session : Session (Heard σ))
    (free : session.phase number ≠ .busy) :
    ∃ added, (work.outcome start session).2.server.entries = session.server.entries ++ added ∧
      Story number (session.phase number)
        (.issued operation ::
          (added ++ [.returned operation (failureOf (work.outcome start session).1.1)]))
        ((work.outcome start session).2.phase number) := by
  cases phase : session.phase number with
  | busy => exact absurd phase free
  | finished =>
    obtain ⟨untouched, fails⟩ := acts.dead start session phase
    rw [untouched, phase]
    exact ⟨[], (List.append_nil _).symm,
      .dead (fun sendable => congrArg (failureOf ∘ Prod.fst) (fails sendable)) (.done _)⟩
  | idle =>
    cases ends : operation.ending? with
    | none =>
      obtain ⟨sent, within, sends, grown, inside⟩ := acts.live ends tells start session phase
      refine ⟨_, grown, ?_⟩
      rw [List.append_assoc]
      exact .live ends sends inside (.done _)
    | some request =>
      obtain ⟨reply, exchanged, closed⟩ := acts.ended request ends start session phase
      exact ⟨_, exchanged, closed ▸ .ended ends (.done _)⟩

end Acts

/-- What every operation comes to. -/
theorem Operation.acts_perform (server : Server σ) {number : Nat}
    (sink : Record → Work (Session (Heard σ)) τ Unit) (operation : Operation) :
    Acts number operation sink (operation.perform server.heard number sink) := by
  cases operation with
  | count query => exact .of_asks rfl (asks_count query)
  | find query => exact .of_find query
  | insert className plan => exact .of_asks rfl (asks_insert className plan)
  | update query changes returning => exact .of_asks rfl (asks_update query changes returning)
  | upsert query plan returning => exact .of_asks rfl (asks_upsert query plan returning)
  | delete query => exact .of_asks rfl (asks_delete query)
  | deleteAll query => exact .of_asks rfl (asks_deleteAll query)
  | tables => exact .of_asks rfl asks_tables
  | createTable table => exact .of_asks rfl (asks_createTable table)
  | addColumns | dropTable | dropColumns | addIndex | dropIndex =>
    exact .of_asks rfl (asks_define _)
  | openTransaction => exact .of_asks rfl (asks_openTransaction server)
  | commit | abort => exact .of_close rfl

/-- One operation is a story. -/
theorem Operation.tells_observed (server : Server σ) {number : Nat}
    {sink : Record → Work (Session (Heard σ)) τ Unit}
    (tells : ∀ record, WorkTells number (sink record)) (operation : Operation) (start : τ) :
    Tells number (operation.observed server number sink start) := by
  intro session free
  let issued := noted session (.issued operation)
  let outcome := (operation.perform server.heard number sink).outcome start issued
  obtain ⟨added, grown, story⟩ := (operation.acts_perform server sink).story tells start issued free
  have grown : outcome.2.server.entries =
      (session.server.entries ++ [.issued operation]) ++ added := grown
  refine ⟨_, ?_, story⟩
  show outcome.2.server.entries ++ [.returned operation (failureOf outcome.1.1)] = _
  rw [grown, List.append_assoc, List.append_assoc, List.singleton_append]

/-- **Every usage has a story.** -/
theorem Usage.tells_run (server : Server σ) {number : Nat} (usage : Usage α) :
    Tells number (usage.run server number) := by
  induction usage with
  | done value => exact .pure value
  | perform operation sink start next stepSink step =>
    exact .bind (operation.tells_observed server (fun record state => stepSink state record) start)
      fun outcome => step outcome.1 outcome.2

/-! ### After the end -/

/-- **A finished transaction is dead.** Whatever is done with an open transaction, in whatever order
and out of whatever sink: what happens at the server is a story. Operation by operation, in the
order in which they are issued, every statement that compiles is sent, and through this transaction;
the insertion of an upsert is due where its update has succeeded and found nothing. At most one
request commits or rolls back, and then nothing is sent any more. In every session in which the
transaction is over, an operation changes nothing, and fails for that if it compiles and has
something to send; a search does not call its sink. No transaction opens inside, in whatever phase,
and nothing is sent for it. -/
theorem finished_transaction_is_dead (server : Server σ) {number : Nat}
    {session : Session (Heard σ)} (idle : session.phase number = .idle) (usage : Usage α) :
    let after := (Id.run ((usage.run server number).run session)).2
    (∃ entries, after.server.entries = session.server.entries ++ entries ∧
      Story number .idle entries (after.phase number) ∧
      (∀ entry ∈ entries, entry.Through number) ∧
      (after.phase number = .idle ∧ (∀ entry ∈ entries, ¬entry.Ends) ∨
        after.phase number = .finished ∧ EndsOnce number entries)) ∧
    (∀ (τ : Type) (operation : Operation) (sink : Record → Work (Session (Heard σ)) τ Unit)
      (start : τ) (later : Session (Heard σ)), later.phase number = .finished →
        let outcome := (operation.perform server.heard number sink).outcome start later
        outcome.2 = later ∧
          (Sendable operation.requests → outcome.1 = (.error .transactionFinished, start))) ∧
    StoreError.transactionFinished.message = "Unknown error: transaction already finished" ∧
    ∀ later : Session (Heard σ), (openTransaction server.heard (some number)).outcome later =
      (.error (.transactionUnsupported "nested postgres transaction"), later) := by
  intro after
  obtain ⟨entries, grown, story⟩ := usage.tells_run server session (by rw [idle]; nofun)
  rw [idle] at story
  exact ⟨⟨entries, grown, story, story.through, story.ends_once rfl⟩,
    fun τ operation sink start => (operation.acts_perform server sink).dead start, rfl,
    fun _ => rfl⟩

/-- A server that finds nothing and has no fault. -/
def emptyServer : Server Unit := ⟨fun _ _ => pure ⟨[], 0, none⟩⟩

/-- An operation whose sink takes every record. -/
def Usage.step (operation : Operation) (next : Except StoreError Answer → Usage α) : Usage α :=
  .perform operation (fun _ _ => .done (.ok (), ())) () fun answer _ => next answer

/-- Players are deleted, the transaction commits, and is used again then. -/
def deleting : Usage (Except StoreError Answer) :=
  .step (.deleteAll { FindQuery.empty with className := some "players" }) fun _ =>
    .step .commit fun _ => .step .tables fun _ => .step .openTransaction .done

theorem finished_transaction_is_dead_deleting :
    let session : Session (Heard Unit) := ⟨⟨(), []⟩, 1, fun _ => .idle⟩
    let outcome := Id.run ((deleting.run emptyServer 0).run session)
    session.phase 0 = .idle ∧ EndsOnce 0 outcome.2.server.entries ∧
      outcome.2.server.entries.length = 10 ∧
      failureOf outcome.1 = some (.transactionUnsupported "nested postgres transaction") ∧
      (Operation.perform emptyServer.heard 0 (fun _ => pure ()) .tables).outcome () outcome.2 =
        ((.error .transactionFinished, ()), outcome.2) := by
  intro session outcome
  have idle : session.phase 0 = .idle := rfl
  have closed : outcome.2.phase 0 = .finished := rfl
  obtain ⟨⟨entries, grown, -, -, ends⟩, dead, -, -⟩ :=
    finished_transaction_is_dead emptyServer idle deleting
  refine ⟨idle, ?_, rfl, rfl, ?_⟩
  · obtain ⟨open_, -⟩ | ⟨-, once⟩ := ends
    · cases closed.symm.trans open_
    · exact grown ▸ once
  · obtain ⟨untouched, fails⟩ := dead Unit .tables (fun _ => pure ()) () outcome.2 closed
    exact Prod.ext (fails ⟨_, _, rfl⟩) untouched

end TwinStore.Postgres
