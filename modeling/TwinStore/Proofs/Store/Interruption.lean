/-
**Definitions stop at a fault.** The verbs that define a table are not compiled as a whole: a fault
somewhere in the description of a table leaves undone only what comes behind it.

* `definitions_stop_at_fault`: of the commands of a verb, exactly those in front of the fault are
  sent, on either backend.
* `not_faults_change_no_schema`: a table is dropped and created again without its indexes.
-/

import TwinStore.Proofs.Mongo.Definition
import TwinStore.Proofs.Postgres.Definition
import TwinStore.Proofs.Store.Fault

namespace TwinStore

variable {σ κ ε : Type}

/-- What comes of a verb one of whose commands does not compile. -/
theorem TableVerb.outcome_of_fault (connection : Connection σ κ) {definer : Definer σ ε}
    {log : σ → List ε} {ready : σ → Prop}
    (carries : connection.backend.Carries connection.channel definer log ready) (verb : TableVerb)
    (table : Table) (world : World σ) {front : List ε} {error : StoreError}
    {later : List (Except StoreError ε)}
    (faulty : verb.commands definer connection.backend connection.channel table world.store =
      front.map .ok ++ .error error :: later) :
    let outcome := (verb.perform connection table).outcome world
    ∃ sent, log outcome.2.store = log world.store ++ sent ∧ sent <+: front ∧
      (sent = front ∧ outcome.1 = .error error ∨
        ¬ready world.store ∧ ∃ own, outcome.1 = .error own ∧ own.OfServer) := by
  obtain ⟨sent, grown, carried, -⟩ := verb.carriesFrom_perform carries table world
  rw [faulty] at carried
  exact ⟨sent, grown, carried.of_fault⟩

/-- **Definitions stop at a fault.** Let one of the commands that create, ensure or recreate a table
not compile. Through any channel, those in front of it are sent, in order, and none behind it; then
the fault is the result. Only a server that has faults of its own, or a channel that does not take
commands, may end the matter before, and then with its own error. Nothing is sent if the fault comes
first, and what was sent before a fault is not undone. -/
theorem definitions_stop_at_fault {σ : Type} (verb : TableVerb) (table : Table)
    (capabilities : Capabilities) :
    (∀ (server : Postgres.Server σ) (channel : Postgres.Channel)
        (world : World (Postgres.Session (Postgres.Heard σ))) (front : List Postgres.Request)
        (error : StoreError) (later : List (Except StoreError Postgres.Request)),
      let backend := Postgres.backend server.heard
      verb.commands Postgres.definer backend channel table world.store =
        front.map .ok ++ .error error :: later →
      let outcome := (verb.perform ⟨backend, channel, capabilities⟩ table).outcome world
      ∃ sent, Postgres.definitions outcome.2.store = Postgres.definitions world.store ++ sent ∧
        sent <+: front ∧
        (sent = front ∧ outcome.1 = .error error ∨
          ¬Postgres.Ready server channel world.store ∧
            ∃ own, outcome.1 = .error own ∧ own.OfServer)) ∧
    ∀ (server : Mongo.Server σ) (channel : Mongo.Channel)
        (world : World (Mongo.Session (Mongo.Heard σ))) (front : List Mongo.Command)
        (error : StoreError) (later : List (Except StoreError Mongo.Command)),
      let backend := Mongo.backend server.heard
      verb.commands (Mongo.definer server channel) backend channel table world.store =
        front.map .ok ++ .error error :: later →
      let outcome := (verb.perform ⟨backend, channel, capabilities⟩ table).outcome world
      ∃ sent, Mongo.definitions outcome.2.store = Mongo.definitions world.store ++ sent ∧
        sent <+: front ∧
        (sent = front ∧ outcome.1 = .error error ∨
          ¬Mongo.Ready server channel world.store ∧
            ∃ own, outcome.1 = .error own ∧ own.OfServer) :=
  ⟨fun server channel world _ _ _ faulty =>
      verb.outcome_of_fault ⟨_, channel, capabilities⟩ (Postgres.carries server channel) table world
        faulty,
    fun server channel world _ _ _ faulty =>
      verb.outcome_of_fault ⟨_, channel, capabilities⟩ (Mongo.carries server channel) table world
        faulty⟩

/-! ### A table with a fault -/

/-- Players with their names, an index by name, and one without columns. -/
def playersTable : Table :=
  ⟨"Player", [⟨"name", .text⟩], [⟨"by_name", [("name", .ascending)], false⟩, ⟨"bare", [], false⟩]⟩

/-- The fault of the index without columns. -/
def bareFault : StoreError := .compile (.operand "bare" .indexWithoutColumns)

/-- A world with a PostgreSQL server that was not asked anything yet. -/
def unaskedRows : World (Postgres.Session (Postgres.Heard Unit)) := ⟨0, .start ⟨(), []⟩⟩

/-- A world with a MongoDB server that was not asked anything yet. -/
def unaskedDocuments : World (Mongo.Session (Mongo.Heard Unit)) := ⟨0, .start ⟨(), []⟩⟩

/-- What comes of a verb in PostgreSQL. -/
def TableVerb.inRows (verb : TableVerb) (table : Table) :
    Except StoreError Unit × World (Postgres.Session (Postgres.Heard Unit)) :=
  (verb.perform ⟨Postgres.backend Postgres.emptyServer.heard, none, stillCapabilities⟩
    table).outcome unaskedRows

/-- What comes of a verb in MongoDB. -/
def TableVerb.inDocuments (verb : TableVerb) (table : Table) :
    Except StoreError Unit × World (Mongo.Session (Mongo.Heard Unit)) :=
  (verb.perform ⟨Mongo.backend Mongo.quietServer.heard, none, stillCapabilities⟩ table).outcome
    unaskedDocuments

theorem Postgres.faultless_emptyServer : emptyServer.Faultless :=
  ⟨fun ⟨_, same⟩ => same ▸ rfl, fun ⟨_, same⟩ => ⟨[], same ▸ rfl⟩⟩

theorem Mongo.faultless_quietServer : quietServer.Faultless :=
  ⟨fun ⟨_, _, same⟩ => same ▸ rfl, fun ⟨_, _, same⟩ => ⟨[], same ▸ rfl⟩⟩

theorem definitions_stop_at_fault_players :
    (∃ drop create index,
      TableVerb.recreate.commands Postgres.definer (Postgres.backend Postgres.emptyServer.heard)
          none playersTable unaskedRows.store =
        [drop, create, index].map .ok ++ [.error bareFault] ∧
      Postgres.definitions (TableVerb.recreate.inRows playersTable).2.store =
        [drop, create, index] ∧
      (TableVerb.recreate.inRows playersTable).1 = .error bareFault) ∧
    ∃ index,
      TableVerb.recreate.commands (Mongo.definer Mongo.quietServer none)
          (Mongo.backend Mongo.quietServer.heard) none playersTable unaskedDocuments.store =
        [.drop "Player", .create "Player", index].map .ok ++ [.error bareFault] ∧
      Mongo.definitions (TableVerb.recreate.inDocuments playersTable).2.store =
        [.drop "Player", .create "Player", index] ∧
      (TableVerb.recreate.inDocuments playersTable).1 = .error bareFault := by
  obtain ⟨inRows, inDocuments⟩ :=
    @definitions_stop_at_fault Unit .recreate playersTable stillCapabilities
  constructor
  · refine ⟨_, _, _, rfl, ?_⟩
    obtain ⟨sent, grown, -, ⟨rfl, failed⟩ | ⟨unready, -⟩⟩ :=
      inRows Postgres.emptyServer none unaskedRows [_, _, _] bareFault [] rfl
    · exact ⟨grown, failed⟩
    · exact absurd ⟨Postgres.faultless_emptyServer, nofun⟩ unready
  · refine ⟨_, rfl, ?_⟩
    obtain ⟨sent, grown, -, ⟨rfl, failed⟩ | ⟨unready, -⟩⟩ :=
      inDocuments Mongo.quietServer none unaskedDocuments [_, _, _] bareFault [] rfl
    · exact ⟨grown, failed⟩
    · exact absurd ⟨Mongo.faultless_quietServer, nofun⟩ unready

/-- A fault in the description of a table does not keep either backend from changing the schema: the
table is dropped, and created without the index that does not compile. -/
theorem not_faults_change_no_schema :
    (¬∀ (verb : TableVerb) (table : Table),
      (∃ index ∈ table.indexes, ∃ error, Statement.createIndex table.name index = .error error) →
        Postgres.definitions (verb.inRows table).2.store = []) ∧
    ¬∀ (verb : TableVerb) (table : Table),
      (∃ index ∈ table.indexes, ∃ error, index.toModel = .error error) →
        Mongo.definitions (verb.inDocuments table).2.store = [] := by
  have bare : ⟨"bare", [], false⟩ ∈ playersTable.indexes := by decide
  constructor
  · intro unchanged
    exact nomatch unchanged .recreate playersTable ⟨_, bare, bareFault, rfl⟩
  · intro unchanged
    exact nomatch unchanged .recreate playersTable ⟨_, bare, bareFault, rfl⟩

end TwinStore
