/-
**What the MongoDB verbs send.** The commands that a verb may send, through any channel and whatever
the server answers.

* `sends_send`: a command is sent as it is, inside a transaction or outside.
* `Command.projection?`: what a command that gives a record back is asked to leave out of it.
* `sends_update`, `sends_upsert` and `sends_delete`: the verbs that change a record and give it back
  send the projection of their query. Whether an upsert finds a record or inserts one, its command
  is the same.
-/

import TwinStore.Proofs.Mongo.Exchange

namespace TwinStore.Mongo

variable {σ α : Type} {permitted : Command → Prop}

/-- What happened at the server of a session. -/
def heardEntries (session : Session (Heard σ)) : List Entry := session.server.entries

/-- The action sends no command that is not permitted. -/
abbrev Sends (permitted : Command → Prop) (action : Action (Session (Heard σ)) α) : Prop :=
  action.Appends heardEntries fun entry => permitted entry.command

section Commands

variable (server : Server σ) {command : Command}

theorem sends_ask (channel : Channel) (allowed : permitted command) :
    Sends permitted (ask server.heard channel command) := by
  refine Action.appends_ofState fun session => ⟨[_], rfl, ?_⟩
  intro entry member
  rw [List.mem_singleton.mp member]
  exact allowed

theorem sends_exclusively {number : Nat} {action : Action (Session (Heard σ)) α}
    (sends : Sends permitted action) : Sends permitted (exclusively number action) := by
  refine Action.appends_bind Action.appends_get fun session => ?_
  cases (session.transaction number).busy with
  | true => exact Action.appends_throw _
  | false =>
    refine Action.appends_bind (Action.appends_modify fun _ => rfl) fun _ => ?_
    refine Action.appends_bind (Action.appends_attempt sends) fun result => ?_
    exact Action.appends_bind (Action.appends_modify fun _ => rfl) fun _ =>
      Action.appends_ofResult result

theorem sends_send (channel : Channel) (allowed : permitted command) :
    Sends permitted (send server.heard channel command) := by
  cases channel with
  | none => exact sends_ask server none allowed
  | some number =>
    refine sends_exclusively (Action.appends_bind Action.appends_get fun session => ?_)
    have inside : Sends permitted (do
        modify fun session =>
          session.alter number fun state => { state with stage := .active }
        ask server.heard (some number) command) :=
      Action.appends_bind (Action.appends_modify fun _ => rfl) fun _ =>
        sends_ask server (some number) allowed
    cases (session.transaction number).stage with
    | finished => exact sends_ask server none allowed
    | fresh => exact inside
    | active => exact inside

theorem sends_fetchRecord (channel : Channel) (className : String) (allowed : permitted command) :
    Sends permitted (fetchRecord server.heard channel className command) := by
  refine Action.appends_bind (sends_send server channel allowed) fun reply => ?_
  refine Action.appends_bind (Action.appends_ofResult _) fun _ => ?_
  cases reply.value with
  | none => exact Action.appends_pure _
  | some document => exact Action.appends_bind (Action.appends_ofResult _) fun _ =>
      Action.appends_pure _

end Commands

/-- What a command asks to leave out of the record that it gives back, if it gives one back. -/
def Command.projection? : Command → Option (Option Document)
  | .findAndUpdate _ _ _ options _ _ => some options.projection
  | .findAndDelete _ _ options => some options.projection
  | _ => none

section Verbs

variable (server : Server σ) (channel : Channel) (query : FindQuery)

/-- The command gives a record back, and asks for the fields of the query. -/
def Command.Obeys (query : FindQuery) (command : Command) : Prop :=
  command.projection? = some query.projectionDocument?

/-- **An update asks for the fields of its query.** -/
theorem sends_update (changes : UpdateSet) (returning : Returning) :
    Sends (Command.Obeys query) (update server.heard channel query changes returning) :=
  Action.appends_bind (Action.appends_ofResult _) fun className =>
    Action.appends_bind (Action.appends_ofResult _) fun _ =>
      Action.appends_bind (Action.appends_ofResult _) fun _ =>
        sends_fetchRecord server channel className rfl

/-- **So does an upsert**, whether it finds a record or not. -/
theorem sends_upsert (plan : UpsertPlan) (returning : Returning) :
    Sends (Command.Obeys query) (upsert server.heard channel query plan returning) :=
  Action.appends_bind (Action.appends_ofResult _) fun className =>
    Action.appends_bind (Action.appends_ofResult _) fun _ =>
      Action.appends_bind (Action.appends_ofResult _) fun _ =>
        sends_fetchRecord server channel className rfl

/-- **So does a deletion.** -/
theorem sends_delete : Sends (Command.Obeys query) (delete server.heard channel query) :=
  Action.appends_bind (Action.appends_ofResult _) fun className =>
    Action.appends_bind (Action.appends_ofResult _) fun _ =>
      sends_fetchRecord server channel className rfl

end Verbs

end TwinStore.Mongo
