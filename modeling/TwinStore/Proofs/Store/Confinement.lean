/-
**Whose indexes are changed.** An operation on the indexes of a class is meant to leave those of all
other classes alone.

* `indexes_confined_iff`: on MongoDB it does. On PostgreSQL it does exactly if it does not meet the
  index of another class.
* `not_indexes_confined`: two classes with one index name.
-/

import TwinStore.Proofs.Mongo.IndexHistory
import TwinStore.Proofs.Postgres.IndexHistory

namespace TwinStore

/-- **Index operations are confined to their class** on MongoDB. On PostgreSQL they are as long as
none of them meets the index of another class, and no longer. -/
theorem indexes_confined_iff (documents : Mongo.Keeper) (tables : Postgres.Keeper)
    (retains : String → Postgres.Schema → Option ServerFault) (session : Mongo.Channel)
    (connection : Postgres.Channel) (capabilities : Capabilities) :
    Mongo.Confined documents session capabilities ∧
      Postgres.ConfinedIff tables retains connection capabilities :=
  ⟨Mongo.confined documents session capabilities,
    Postgres.confinedIff tables retains connection capabilities⟩

/-- Two classes with names, and no indexes. -/
def namedSchema : Postgres.Schema :=
  ⟨[("Player", [("name", .text)]), ("Team", [("name", .text)])], []⟩

/-- An index by name. -/
def byName : TableIndex := ⟨"by_name", [("name", .ascending)], false⟩

/-- Both classes have the index added, and one has it dropped. -/
def sharedHistory : IndexHistory :=
  [("Player", .add byName), ("Team", .add byName), ("Team", .drop "by_name")]

theorem indexes_confined_iff_shared :
    let keeper : Mongo.Keeper := ⟨fun _ _ => none⟩
    let server := Postgres.plainKeeper.dropping fun _ _ => none
    ∃ (documents : Mongo.Session Mongo.Catalogue) (tables : Postgres.Session Postgres.Schema),
      (sharedHistory.perform (Mongo.backend keeper.server) none).outcome (.start []) =
        (.ok (), documents) ∧
      (sharedHistory.perform (Postgres.backend server) none).outcome (.start namedSchema) =
        (.ok (), tables) ∧
      Postgres.NoTable Postgres.plainKeeper "by_name" namedSchema ∧
      documents.server.index? "Player" "by_name" = some (Mongo.indexModel "Player" byName) ∧
      documents.server.index? "Team" "by_name" = none ∧
      tables.server.indexes.get? "by_name" = none := by
  intro keeper server
  have capabilities : Capabilities := ⟨fun _ => "a", Instant.clampMilliseconds 0⟩
  have free : Postgres.NoTable Postgres.plainKeeper "by_name" namedSchema := fun _ => rfl
  obtain ⟨documents, kept⟩ : ∃ after, (sharedHistory.perform (Mongo.backend keeper.server)
    none).outcome (.start []) = (.ok (), after) := ⟨_, rfl⟩
  obtain ⟨tables, lost⟩ : ∃ after, (sharedHistory.perform (Postgres.backend server)
    none).outcome (.start namedSchema) = (.ok (), after) := ⟨_, rfl⟩
  obtain ⟨own, shared⟩ := indexes_confined_iff keeper Postgres.plainKeeper (fun _ _ => none) none
    none capabilities
  have remaining := own.histories sharedHistory kept
  exact ⟨documents, tables, kept, lost, free, remaining "Player" "by_name",
    remaining "Team" "by_name", shared.histories sharedHistory lost "by_name" free⟩

/-- Of two classes that add an index of one name, not every one has its own, and dropping that of
one drops that of the other. -/
theorem not_indexes_confined :
    ¬ ∀ (keeper : Postgres.Keeper) (retains : String → Postgres.Schema → Option ServerFault)
        (channel : Postgres.Channel) (one two : String) (index other : TableIndex)
        (session middle : Postgres.Session Postgres.Schema),
      one ≠ two → index.name = other.name →
      session.server.indexes.get? index.name = none →
      (IndexHistory.perform (Postgres.backend (keeper.dropping retains)) channel
        [(one, .add index), (two, .add other)]).outcome session = (.ok (), middle) →
      middle.server.indexOf? one index.name = some (Postgres.storedIndex one index) ∧
      middle.server.indexOf? two index.name = some (Postgres.storedIndex two other) ∧
      ∀ after, (IndexHistory.perform (Postgres.backend (keeper.dropping retains)) channel
          [(two, .drop index.name)]).outcome middle = (.ok (), after) →
        after.server.indexOf? one index.name = some (Postgres.storedIndex one index) := by
  intro confined
  obtain ⟨-, second, -⟩ := confined Postgres.plainKeeper (fun _ _ => none) none "Player" "Team"
    byName byName (.start namedSchema) _ (by decide) rfl rfl rfl
  have missing : (none : Option Postgres.StoredIndex) = some _ := second
  cases missing

end TwinStore
