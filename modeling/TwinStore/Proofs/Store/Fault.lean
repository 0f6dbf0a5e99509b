/-
**Faults reach no server.** A verb that cannot be compiled as a whole sends nothing, through
whatever channel of whichever backend.

* `faults_reach_no_server`: the verb yields the first of its faults, and the session with the server
  stays as it is.
-/

import TwinStore.Proofs.Mongo.Compilation
import TwinStore.Proofs.Mongo.Exchange
import TwinStore.Proofs.Postgres.Compilation
import TwinStore.Proofs.Postgres.Lifetime

namespace TwinStore

/-- **Faults reach no server.** Let anything that a verb needs fail to compile: the class, the plan
of an upsert, a statement or a document. Outside a transaction and inside one, in whatever state,
the verb yields the first of these faults. Nothing is sent, so that the log of the server stays as
it is, and so do the transactions that were opened. -/
theorem faults_reach_no_server {σ α : Type} (verb : RecordVerb α) (capabilities : Capabilities) :
    (∀ (server : Postgres.Server σ) (channel : Postgres.Channel)
        (world : World (Postgres.Session (Postgres.Heard σ))) (error : StoreError)
        (later : List StoreError),
      verb.faults Postgres.compiler (capabilities.idAt world.issued) capabilities.now =
        error :: later →
      let connection := ⟨Postgres.backend server.heard, channel, capabilities⟩
      let outcome := Id.run ((verb.perform connection).run world)
      outcome.1 = verb.failed error ∧ outcome.2.store = world.store) ∧
    ∀ (server : Mongo.Server σ) (channel : Mongo.Channel)
        (world : World (Mongo.Session (Mongo.Heard σ))) (error : StoreError)
        (later : List StoreError),
      verb.faults Mongo.compiler (capabilities.idAt world.issued) capabilities.now =
        error :: later →
      let connection := ⟨Mongo.backend server.heard, channel, capabilities⟩
      let outcome := Id.run ((verb.perform connection).run world)
      outcome.1 = verb.failed error ∧ outcome.2.store = world.store :=
  ⟨fun server _ world _ _ faulty =>
      verb.outcome_of_faults (Postgres.compilesFirst server.heard) world faulty,
    fun server _ world _ _ faulty =>
      verb.outcome_of_faults (Mongo.compilesFirst server.heard) world faulty⟩

/-- An upsert whose update can be written, but whose new record has a column that cannot be named
and a number that no document holds. -/
def unwritable : RecordVerb (Except StoreError (Option Record)) :=
  .upsert { FindQuery.empty with className := some "Item" } []
    [("level", .number (.decimal ⟨10 ^ 34 + 1, 0⟩)), ("the place", .boolean true)] .after

/-- Every id is the same, and no time passes. -/
def stillCapabilities : Capabilities := ⟨fun _ => "a", Instant.clampMilliseconds 0⟩

theorem faults_reach_no_server_unwritable :
    let unnamed : StoreError := .compile (.identifier (.invalidCharacters "the place"))
    let unencodable : StoreError :=
      .compile (.unsupported (.decimalRange "10000000000000000000000000000000001"))
    let rows : World (Postgres.Session (Postgres.Heard Unit)) := ⟨0, .start ⟨(), []⟩⟩
    let documents : World (Mongo.Session (Mongo.Heard Unit)) := ⟨0, .start ⟨(), []⟩⟩
    let inRows := Id.run ((unwritable.perform
      ⟨Postgres.backend Postgres.emptyServer.heard, none, stillCapabilities⟩).run rows)
    let inDocuments := Id.run ((unwritable.perform
      ⟨Mongo.backend Mongo.quietServer.heard, none, stillCapabilities⟩).run documents)
    unwritable.faults Postgres.compiler "a" stillCapabilities.now = [unnamed] ∧
      unwritable.faults Mongo.compiler "a" stillCapabilities.now = [unencodable] ∧
      inRows.1 = .error unnamed ∧ inRows.2.store.server.entries = [] ∧
      inDocuments.1 = .error unencodable ∧ inDocuments.2.store.server.entries = [] := by
  intro unnamed unencodable rows documents inRows inDocuments
  have faultyRow : unwritable.faults Postgres.compiler "a" stillCapabilities.now = [unnamed] := by
    decide +kernel
  have faultyDocument :
      unwritable.faults Mongo.compiler "a" stillCapabilities.now = [unencodable] := by
    decide +kernel
  obtain ⟨ofRows, ofDocuments⟩ := faults_reach_no_server unwritable stillCapabilities
  obtain ⟨refused, untouched⟩ := ofRows Postgres.emptyServer none rows unnamed [] faultyRow
  obtain ⟨refusedToo, untouchedToo⟩ :=
    ofDocuments Mongo.quietServer none documents unencodable [] faultyDocument
  refine ⟨faultyRow, faultyDocument, refused, ?_, refusedToo, ?_⟩
  · exact congrArg (fun session => session.server.entries) untouched
  · exact congrArg (fun session => session.server.entries) untouchedToo

end TwinStore
