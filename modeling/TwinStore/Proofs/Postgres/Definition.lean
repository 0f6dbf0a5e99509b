/-
**Definitions in PostgreSQL.** A table is defined by a statement, and each of its indexes by
another. Every statement is compiled and run before the next one is compiled.

* `definitions`: the statements that a server was given to run.
* `Server.Faultless`: the server answers everything without a fault.
* `definer` and `carries`: the statements of each definition, and that the backend of any server
  carries them out.
-/

import TwinStore.Proofs.Postgres.Operation
import TwinStore.Proofs.Store.Definition

namespace TwinStore.Postgres

variable {σ α : Type}

/-! ### Answers -/

/-- The request, if it is to run a statement. -/
def Request.definition? : Request → Option Request
  | .run statement => some (.run statement)
  | _ => none

def Entry.definition? : Entry → Option Request
  | .asked _ request _ => request.definition?
  | _ => none

/-- The statements that a server was given to run. -/
def definitions (session : Session (Heard σ)) : List Request :=
  session.server.entries.filterMap Entry.definition?

theorem definitions_of_logged {before after : Session (Heard σ)} {channel : Channel}
    {request : Request} {reply : Reply}
    (logged : after.server.entries = before.server.entries ++ [.asked channel request reply]) :
    definitions after = definitions before ++ request.definition?.toList := by
  unfold definitions
  rw [logged, List.filterMap_append]
  cases request <;> rfl

/-- A server may give this reply. -/
def Server.Replies (server : Server σ) (channel : Channel) (request : Request) (reply : Reply) :
    Prop :=
  ∃ state, (Id.run ((server.answer channel request).run state)).1 = reply

/-- A server answers without a fault, and its list of tables can be read. -/
structure Server.Faultless (server : Server σ) : Prop where
  complete : ∀ {channel request reply}, server.Replies channel request reply → reply.fault = none
  lists : ∀ {channel reply}, server.Replies channel .listTables reply →
    ∃ names, reply.rows.mapM Row.text = .ok names

theorem Reply.ofServer_of_complete {reply : Reply} {error : StoreError}
    (incomplete : reply.complete = .error error) : error.OfServer := by
  unfold complete at incomplete
  split at incomplete
  · cases incomplete
  · cases incomplete
    trivial

theorem Server.Faultless.complete_eq_ok {server : Server σ} (faultless : server.Faultless)
    {channel : Channel} {request : Request} {reply : Reply}
    (replied : server.Replies channel request reply) : reply.complete = .ok reply.rows := by
  unfold Reply.complete
  rw [faultless.complete replied]

/-- A channel takes requests. -/
def Channel.Open (channel : Channel) (session : Session σ) : Prop :=
  ∀ number ∈ channel, session.phase number = .idle

/-- Everything is answered without a fault. -/
def Ready (server : Server σ) (channel : Channel) (session : Session (Heard σ)) : Prop :=
  server.Faultless ∧ channel.Open session

/-! ### Requests -/

section Requests

variable (server : Server σ) (channel : Channel) (request : Request)
  (session : Session (Heard σ))

/-- A request is answered and logged, or the channel does not take it. -/
theorem send_cases :
    (∃ reply after, (send server.heard channel request).outcome session = (.ok reply, after) ∧
        after.server.entries = session.server.entries ++ [.asked channel request reply] ∧
        server.Replies channel request reply ∧ (channel.Open session → channel.Open after)) ∨
      ∃ error, (send server.heard channel request).outcome session = (.error error, session) ∧
        error.OfServer ∧ ¬channel.Open session := by
  cases channel with
  | none => exact .inl ⟨_, _, rfl, rfl, ⟨session.server.state, rfl⟩, fun _ => nofun⟩
  | some number =>
    cases phase : session.phase number with
    | idle =>
      refine .inl ⟨_, _, outcome_exclusively_idle phase _, rfl, ⟨session.server.state, rfl⟩, ?_⟩
      rintro - _ ⟨⟩
      exact if_pos rfl
    | busy =>
      refine .inr ⟨.transactionBusy, ?_, trivial, fun taken => ?_⟩
      · exact outcome_exclusively_busy phase _
      · cases phase.symm.trans (taken number rfl)
    | finished =>
      refine .inr ⟨.transactionFinished, outcome_send_finished _ phase request, trivial, ?_⟩
      intro taken
      cases phase.symm.trans (taken number rfl)

end Requests

section Definitions

variable (server : Server σ) (channel : Channel)

/-- A statement is run. -/
theorem carriesFrom_execute (statement : Statement) (session : Session (Heard σ)) :
    (execute server.heard channel statement >>= fun _ => pure ()).CarriesFrom definitions
      (Ready server channel) [.ok (.run statement)] session := by
  have came : (execute server.heard channel statement >>= fun _ => pure ()).outcome session =
      match (send server.heard channel (.run statement)).outcome session with
      | (.ok reply, after) => (reply.complete.map fun _ => (), after)
      | (.error error, after) => (.error error, after) := by
    unfold execute
    rw [Action.outcome_bind, Action.outcome_bind]
    obtain ⟨_ | ⟨rows, affected, _ | fault⟩, after⟩ :=
      (send server.heard channel (.run statement)).outcome session <;> rfl
  obtain ⟨reply, after, sent, logged, replied, stays⟩ | ⟨error, refused, own, shut⟩ :=
    send_cases server channel (.run statement) session
  · rw [sent] at came
    refine .of_sent came (definitions_of_logged logged)
      (fun _ failed => Reply.ofServer_of_complete (Result.map_eq_error.mp failed))
      fun ready => ⟨?_, ready.1, stays ready.2⟩
    rw [ready.1.complete_eq_ok replied]
    rfl
  · rw [refused] at came
    exact .of_unsent came own fun ready => shut ready.2

theorem carriesFrom_define (definition : Except StoreError (Option Statement))
    (session : Session (Heard σ)) :
    (define server.heard channel definition).CarriesFrom definitions (Ready server channel)
      (definitionRequests definition) session :=
  match definition with
  | .error error => Action.carriesFrom_fault error session
  | .ok none => Action.carriesFrom_pure session
  | .ok (some statement) => carriesFrom_execute server channel statement session

theorem carriesFrom_createTable (table : Table) (session : Session (Heard σ)) :
    (createTable server.heard channel table).CarriesFrom definitions (Ready server channel)
      (Operation.createTable table).requests session :=
  (carriesFrom_define server channel _ session).seq
    (Action.carriesFrom_forM (fun _ => carriesFrom_define server channel _) _)

end Definitions

/-! ### The list of tables -/

theorem Row.ofServer_of_text {row : Row} {error : StoreError} (failed : row.text = .error error) :
    error.OfServer := by
  unfold Row.text at failed
  split at failed
  · split at failed
    · cases failed
    · cases failed
      trivial
  · cases failed
    trivial

/-- The names in a list of tables. -/
def Reply.names (reply : Reply) : Except StoreError (List String) := do
  (← reply.complete).mapM Row.text

theorem Reply.ofServer_of_names {reply : Reply} {error : StoreError}
    (failed : reply.names = .error error) : error.OfServer := by
  obtain incomplete | ⟨rows, -, unreadable⟩ := Result.bind_eq_error.mp failed
  · exact ofServer_of_complete incomplete
  · obtain ⟨row, -, failed⟩ := Result.exists_of_mapM_error unreadable
    exact Row.ofServer_of_text failed

/-- A server without faults has a list of tables. -/
theorem Server.Faultless.names_eq_ok {server : Server σ} (faultless : server.Faultless)
    {channel : Channel} {reply : Reply} (replied : server.Replies channel .listTables reply) :
    ∃ names, reply.names = .ok names := by
  obtain ⟨names, readable⟩ := faultless.lists replied
  refine ⟨names, ?_⟩
  unfold Reply.names
  rw [faultless.complete_eq_ok replied]
  exact readable

theorem looks_tables (server : Server σ) (channel : Channel) (session : Session (Heard σ)) :
    (tables server.heard channel).Looks definitions (Ready server channel) session := by
  have came : (tables server.heard channel).outcome session =
      match (send server.heard channel .listTables).outcome session with
      | (.ok reply, after) => (reply.names, after)
      | (.error error, after) => (.error error, after) := by
    unfold tables fetchAll Reply.names
    rw [Action.outcome_bind, Action.outcome_bind]
    obtain ⟨_ | ⟨rows, affected, _ | fault⟩, after⟩ :=
      (send server.heard channel .listTables).outcome session <;> rfl
  obtain ⟨reply, after, sent, logged, replied, stays⟩ | ⟨error, refused, own, shut⟩ :=
    send_cases server channel .listTables session
  · rw [sent] at came
    exact .of_outcome came ((definitions_of_logged logged).trans (List.append_nil _))
      (fun _ => Reply.ofServer_of_names)
      fun ready => ⟨ready.1.names_eq_ok replied, ready.1, stays ready.2⟩
  · rw [refused] at came
    refine .of_outcome came rfl ?_ fun ready => absurd ready.2 shut
    rintro _ ⟨⟩
    exact own

/-! ### The backend -/

/-- The statements of each definition. -/
def definer : Definer (Session (Heard σ)) Request where
  create table _ := (Operation.createTable table).requests
  addColumns name columns := (Operation.addColumns name columns).requests
  addIndex name index := (Operation.addIndex name index).requests
  drop name := (Operation.dropTable name).requests

/-- **Definitions are carried out in order**, through any channel. -/
theorem carries (server : Server σ) (channel : Channel) :
    (backend server.heard).Carries channel definer definitions (Ready server channel) where
  tables := looks_tables server channel
  create := carriesFrom_createTable server channel
  addColumns _ _ := carriesFrom_define server channel _
  addIndex _ _ := carriesFrom_define server channel _
  drop _ := carriesFrom_define server channel _

end TwinStore.Postgres
