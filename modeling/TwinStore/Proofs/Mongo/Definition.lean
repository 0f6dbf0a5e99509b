/-
**Definitions in MongoDB.** A collection is created by a command, and each of its indexes by
another. Every index is compiled and created before the next one is compiled.

* `definitions`: the commands that a server was sent, its lists of collections apart.
* `Server.Faultless`: the server answers everything without a fault.
* `definer` and `carries`: the commands of each definition, and that the backend of any server
  carries them out.
-/

import TwinStore.Proofs.Mongo.Exchange
import TwinStore.Proofs.Result
import TwinStore.Proofs.Store.Definition

namespace TwinStore.Mongo

variable {σ : Type}

/-! ### Answers -/

/-- The command, unless it lists the collections. -/
def Command.definition? : Command → Option Command
  | .listCollections => none
  | command => some command

/-- The commands that a server was sent, its lists of collections apart. -/
def definitions (session : Session (Heard σ)) : List Command :=
  session.server.entries.filterMap fun entry => entry.command.definition?

theorem definitions_of_logged {before after : Session (Heard σ)} {entry : Entry}
    (logged : after.server.entries = before.server.entries ++ [entry]) :
    definitions after = definitions before ++ entry.command.definition?.toList := by
  unfold definitions
  rw [logged, List.filterMap_append, List.filterMap_cons, List.filterMap_nil]
  cases entry.command.definition? <;> rfl

/-- A server may give this reply. -/
def Server.Replies (server : Server σ) (command : Command) (reply : Reply) : Prop :=
  ∃ channel state, (Id.run ((server.answer channel command).run state)).1 = reply

/-- A server answers without a fault, and its list of collections can be read. -/
structure Server.Faultless (server : Server σ) : Prop where
  complete : ∀ {command reply}, server.Replies command reply → reply.fault = none
  lists : ∀ {reply}, server.Replies .listCollections reply →
    ∃ names, reply.documents.mapM collectionName = .ok names

theorem Reply.ofServer_of_complete {reply : Reply} {error : StoreError}
    (incomplete : reply.complete = .error error) : error.OfServer := by
  unfold complete at incomplete
  split at incomplete
  · cases incomplete
  · cases incomplete
    trivial

theorem Server.Faultless.complete_eq_ok {server : Server σ} (faultless : server.Faultless)
    {command : Command} {reply : Reply} (replied : server.Replies command reply) :
    reply.complete = .ok reply.documents := by
  unfold Reply.complete
  rw [faultless.complete replied]

/-- A channel takes commands. -/
def Channel.Open (channel : Channel) (session : Session σ) : Prop :=
  ∀ number ∈ channel, (session.transaction number).busy = false

/-- Everything is answered without a fault. -/
def Ready (server : Server σ) (channel : Channel) (session : Session (Heard σ)) : Prop :=
  server.Faultless ∧ channel.Open session

/-! ### Commands -/

section Keeping

variable {α : Type} {number : Nat} {session : Session σ} (action : Action (Session σ) α)

theorem outcome_exclusively_busy (busy : (session.transaction number).busy = true) :
    (exclusively number action).outcome session = (.error .transactionBusy, session) := by
  unfold exclusively
  rw [Action.outcome_get_bind, busy]
  rfl

theorem outcome_exclusively_free (free : (session.transaction number).busy = false) :
    (exclusively number action).outcome session =
      ((action.outcome (session.alter number ({ · with busy := true }))).1,
        (action.outcome (session.alter number ({ · with busy := true }))).2.alter number
          ({ · with busy := false })) := by
  unfold exclusively
  rw [Action.outcome_get_bind, free]
  rfl

end Keeping

section Commands

variable (server : Server σ) (command : Command)

/-- Inside a transaction or behind its end, a command is answered and logged. -/
theorem outcome_sendInside (number : Nat) (session : Session (Heard σ)) :
    ∃ reply after via,
      (sendInside server.heard number command).outcome session = (.ok reply, after) ∧
        after.server.entries = session.server.entries ++ [⟨via, command, reply⟩] ∧
        server.Replies command reply := by
  unfold sendInside
  rw [Action.outcome_get_bind]
  cases (session.transaction number).stage with
  | finished => exact ⟨_, _, none, rfl, rfl, none, session.server.state, rfl⟩
  | fresh | active =>
    exact ⟨_, _, some number, rfl, rfl, some number, session.server.state, rfl⟩

/-- A command is answered and logged, or the channel does not take it. -/
theorem send_cases (channel : Channel) (session : Session (Heard σ)) :
    (∃ reply after via, (send server.heard channel command).outcome session = (.ok reply, after) ∧
        after.server.entries = session.server.entries ++ [⟨via, command, reply⟩] ∧
        server.Replies command reply ∧ channel.Open after) ∨
      ∃ error, (send server.heard channel command).outcome session = (.error error, session) ∧
        error.OfServer ∧ ¬channel.Open session := by
  cases channel with
  | none => exact .inl ⟨_, _, none, rfl, rfl, ⟨none, session.server.state, rfl⟩, nofun⟩
  | some number =>
    cases busy : (session.transaction number).busy with
    | true =>
      refine .inr ⟨.transactionBusy, outcome_exclusively_busy _ busy, trivial, fun taken => ?_⟩
      cases busy.symm.trans (taken number rfl)
    | false =>
      obtain ⟨reply, after, via, sent, logged, replied⟩ := outcome_sendInside server command number
        (session.alter number ({ · with busy := true }))
      refine .inl
        ⟨reply, after.alter number ({ · with busy := false }), via, ?_, logged, replied, ?_⟩
      · show (exclusively number _).outcome session = _
        rw [outcome_exclusively_free _ busy, sent]
      · rintro _ ⟨⟩
        show (if number = number then _ else _ : TransactionState).busy = false
        rw [if_pos rfl]

/-- A command is sent, and what comes of it is said by its reply, which fails only where it is not
complete. -/
theorem carriesFrom_settled (defines : command.definition? = some command) (channel : Channel)
    (settle : Reply → Except StoreError Unit)
    (settles : ∀ reply, settle reply = .ok () ∨ settle reply = reply.complete.map fun _ => ())
    {action : Action (Session (Heard σ)) Unit} {session : Session (Heard σ)}
    (came : action.outcome session =
      match (send server.heard channel command).outcome session with
      | (.ok reply, after) => (settle reply, after)
      | (.error error, after) => (.error error, after)) :
    action.CarriesFrom definitions (Ready server channel) [.ok command] session := by
  obtain ⟨reply, after, via, sent, logged, replied, stays⟩ | ⟨error, refused, own, shut⟩ :=
    send_cases server command channel session
  · have grown := definitions_of_logged logged
    rw [defines] at grown
    rw [sent] at came
    refine .of_sent came grown (fun error failed => ?_) fun ready => ⟨?_, ready.1, stays⟩
    · obtain settled | settled := settles reply
      · cases settled.symm.trans failed
      · exact Reply.ofServer_of_complete (Result.map_eq_error.mp (settled.symm.trans failed))
    · obtain settled | settled := settles reply
      · exact settled
      · rw [settled, ready.1.complete_eq_ok replied]
        rfl
  · rw [refused] at came
    exact .of_unsent came own fun ready => shut ready.2

/-- A command that only succeeds or fails is sent. -/
theorem carriesFrom_execute (defines : command.definition? = some command) (channel : Channel)
    (session : Session (Heard σ)) :
    (execute server.heard channel command).CarriesFrom definitions (Ready server channel)
      [.ok command] session := by
  refine carriesFrom_settled server command defines channel
    (fun reply => reply.complete.map fun _ => ()) (fun _ => .inr rfl) ?_
  unfold execute fetchAll
  rw [Action.outcome_bind, Action.outcome_bind]
  obtain ⟨_ | ⟨documents, number, value, _ | fault⟩, after⟩ :=
    (send server.heard channel command).outcome session <;> rfl

end Commands

/-! ### The list of collections -/

theorem ofServer_of_collectionName {entry : Document} {error : StoreError}
    (failed : collectionName entry = .error error) : error.OfServer := by
  unfold collectionName at failed
  split at failed
  · cases failed
  · cases failed
    trivial

/-- The names in a list of collections. -/
def Reply.names (reply : Reply) : Except StoreError (List String) := do
  (← reply.complete).mapM collectionName

theorem Reply.ofServer_of_names {reply : Reply} {error : StoreError}
    (failed : reply.names = .error error) : error.OfServer := by
  obtain incomplete | ⟨entries, -, unreadable⟩ := Result.bind_eq_error.mp failed
  · exact ofServer_of_complete incomplete
  · obtain ⟨entry, -, failed⟩ := Result.exists_of_mapM_error unreadable
    exact ofServer_of_collectionName failed

/-- A server without faults has a list of collections. -/
theorem Server.Faultless.names_eq_ok {server : Server σ} (faultless : server.Faultless)
    {reply : Reply} (replied : server.Replies .listCollections reply) :
    ∃ names, reply.names = .ok names := by
  obtain ⟨names, readable⟩ := faultless.lists replied
  refine ⟨names, ?_⟩
  unfold Reply.names
  rw [faultless.complete_eq_ok replied]
  exact readable

theorem looks_tables (server : Server σ) (channel : Channel) (session : Session (Heard σ)) :
    (tables server.heard channel).Looks definitions (Ready server channel) session := by
  have came : (tables server.heard channel).outcome session =
      match (send server.heard channel .listCollections).outcome session with
      | (.ok reply, after) => (reply.names, after)
      | (.error error, after) => (.error error, after) := by
    unfold tables fetchAll Reply.names
    rw [Action.outcome_bind, Action.outcome_bind]
    obtain ⟨_ | ⟨documents, number, value, _ | fault⟩, after⟩ :=
      (send server.heard channel .listCollections).outcome session <;> rfl
  obtain ⟨reply, after, via, sent, logged, replied, stays⟩ | ⟨error, refused, own, shut⟩ :=
    send_cases server .listCollections channel session
  · rw [sent] at came
    exact .of_outcome came ((definitions_of_logged logged).trans (List.append_nil _))
      (fun _ => Reply.ofServer_of_names)
      fun ready => ⟨ready.1.names_eq_ok replied, ready.1, stays⟩
  · rw [refused] at came
    refine .of_outcome came rfl ?_ fun ready => absurd ready.2 shut
    rintro _ ⟨⟩
    exact own

/-! ### The backend -/

section Definitions

variable (server : Server σ) (channel : Channel)

/-- The command for an index. -/
def indexCommands (className : String) (index : TableIndex) : List (Except StoreError Command) :=
  [index.toModel.map (.createIndex className)]

/-- The commands of each definition. -/
def definer : Definer (Session (Heard σ)) Command where
  create table session :=
    (if (backend server.heard).knows channel table.name session then []
      else [.ok (.create table.name)]) ++ table.indexes.flatMap (indexCommands table.name)
  addColumns _ _ := []
  addIndex := indexCommands
  drop name := [.ok (.drop name)]

theorem carriesFrom_addIndex (className : String) (index : TableIndex)
    (session : Session (Heard σ)) :
    (addIndex server.heard channel className index).CarriesFrom definitions (Ready server channel)
      (indexCommands className index) session := by
  unfold addIndex indexCommands
  cases index.toModel with
  | error error => exact Action.carriesFrom_fault error session
  | ok model => exact carriesFrom_execute server (.createIndex className model) rfl channel session

theorem carriesFrom_createTable (table : Table) (session : Session (Heard σ)) :
    (createTable server.heard channel table).CarriesFrom definitions (Ready server channel)
      ((definer server channel).create table session) session := by
  refine (looks_tables server channel session).carriesFrom fun names listed => ?_
  have known : (backend server.heard).knows channel table.name session =
      names.contains table.name := by
    unfold Backend.knows
    rw [show (((backend server.heard).tables channel).outcome session).1 = .ok names from listed]
  have indexed (session : Session (Heard σ)) :
      (table.indexes.forM (addIndex server.heard channel table.name)).CarriesFrom definitions
        (Ready server channel) (table.indexes.flatMap (indexCommands table.name)) session :=
    Action.carriesFrom_forM (carriesFrom_addIndex server channel table.name) session
  show Action.CarriesFrom _ _ ((if _ then _ else _) ++ _) _ _
  rw [known]
  cases names.contains table.name with
  | true => exact indexed _
  | false => exact (carriesFrom_execute server (.create table.name) rfl channel _).seq (indexed _)

/-- What comes of dropping a collection. -/
def Reply.dropped (reply : Reply) : Except StoreError Unit :=
  if reply.fault = some missingCollection then .ok () else reply.complete.map fun _ => ()

theorem carriesFrom_dropTable (className : String) (session : Session (Heard σ)) :
    (dropTable server.heard channel className).CarriesFrom definitions (Ready server channel)
      [.ok (.drop className)] session := by
  refine carriesFrom_settled server (.drop className) rfl channel Reply.dropped ?_ ?_
  · intro reply
    unfold Reply.dropped
    split
    · exact .inl rfl
    · exact .inr rfl
  · unfold dropTable
    rw [Action.outcome_bind]
    obtain ⟨error | reply, after⟩ := (send server.heard channel (.drop className)).outcome session
    · rfl
    · show Action.outcome (if reply.fault = some missingCollection then pure () else
        Action.ofResult (reply.complete.map fun _ => ())) after = (reply.dropped, after)
      unfold Reply.dropped
      split <;> rfl

/-- **Definitions are carried out in order**, through any channel. -/
theorem carries :
    (backend server.heard).Carries channel (definer server channel) definitions
      (Ready server channel) where
  tables := looks_tables server channel
  create := carriesFrom_createTable server channel
  addColumns _ _ := Action.carriesFrom_pure
  addIndex := carriesFrom_addIndex server channel
  drop := carriesFrom_dropTable server channel

end Definitions

end TwinStore.Mongo
