/-
**The fields of a record that a verb gives back.** Whether they are those of the query's projection,
on either backend.

* `projection_obeyed`: every statement of a verb that changes a record obeys the projection, except
  that of the insertion in an upsert, which gives all columns back. On MongoDB both ends of an
  upsert come from one command with the projection.
* `not_projection_obeyed_inserting`: an upsert that finds nothing runs a statement that does not.
-/

import TwinStore.Proofs.Mongo.Sending
import TwinStore.Proofs.Postgres.Lifetime
import TwinStore.Proofs.Postgres.Sending
import TwinStore.Proofs.Sql.Projection

namespace TwinStore

open Sql (returnedColumns?)

variable {σ : Type}

namespace Postgres.Upsert

variable {query : FindQuery} {plan : UpsertPlan} {returning : Returning} {statements : Upsert}

/-- The update of an upsert obeys the projection. -/
theorem obeys_update (compiled : Upsert.of query plan returning = .ok statements) :
    statements.update.Obeys query :=
  Statement.obeys_of_updateOne (of_eq_ok_iff.mp compiled).update

/-- **The insertion of an upsert gives all columns back**, whatever was asked for. -/
theorem returned_insert (compiled : Upsert.of query plan returning = .ok statements) :
    returnedColumns? statements.insert.sql = some [none] ∧
      (statements.insert.Obeys query ↔ query.includes = none) := by
  have built := (of_eq_ok_iff.mp compiled).insert
  exact ⟨Statement.returned_of_insert built, Statement.obeys_insert_iff built⟩

end Postgres.Upsert

/-- **Records are given back with the fields of the projection**, except by the insertion of an
upsert. -/
theorem projection_obeyed (query : FindQuery) :
    (∀ (server : Postgres.Server σ) (channel : Postgres.Channel),
      (∀ (changes : UpdateSet) (returning : Returning),
        Postgres.Runs (Statement.Obeys query)
          (Postgres.update server.heard channel query changes returning)) ∧
      Postgres.Runs (Statement.Obeys query) (Postgres.delete server.heard channel query) ∧
      ∀ (plan : UpsertPlan) (returning : Returning),
        Postgres.Runs
          (fun statement => ∃ statements, Postgres.Upsert.of query plan returning = .ok statements ∧
            (statement = statements.update ∧ statement.Obeys query ∨
              statement = statements.insert ∧ returnedColumns? statement.sql = some [none] ∧
                (statement.Obeys query ↔ query.includes = none)))
          (Postgres.upsert server.heard channel query plan returning)) ∧
    ∀ (server : Mongo.Server σ) (channel : Mongo.Channel),
      (∀ (changes : UpdateSet) (returning : Returning),
        Mongo.Sends (Mongo.Command.Obeys query)
          (Mongo.update server.heard channel query changes returning)) ∧
      Mongo.Sends (Mongo.Command.Obeys query) (Mongo.delete server.heard channel query) ∧
      ∀ (plan : UpsertPlan) (returning : Returning),
        Mongo.Sends (Mongo.Command.Obeys query)
          (Mongo.upsert server.heard channel query plan returning) := by
  refine ⟨fun server channel => ⟨fun changes returning => ?_, ?_, fun plan returning => ?_⟩,
    fun server channel => ⟨Mongo.sends_update server channel query,
      Mongo.sends_delete server channel query, Mongo.sends_upsert server channel query⟩⟩
  · exact Postgres.runs_mono (Postgres.runs_update server channel query changes returning)
      fun _ => Statement.obeys_of_updateOne
  · exact Postgres.runs_mono (Postgres.runs_delete server channel query)
      fun _ => Statement.obeys_of_deleteOne
  · refine Postgres.runs_mono (Postgres.runs_upsert server channel query plan returning) ?_
    rintro _ ⟨statements, compiled, rfl | rfl⟩
    · exact ⟨statements, compiled, .inl ⟨rfl, Postgres.Upsert.obeys_update compiled⟩⟩
    · exact ⟨statements, compiled, .inr ⟨rfl, Postgres.Upsert.returned_insert compiled⟩⟩

/-- The names of items, and nothing else of them. -/
def namesOfItems : FindQuery :=
  { FindQuery.empty with className := some "Item", includes := some ["name"] }

/-- An item with a level and a name, where there is none. -/
def firstItem : UpsertPlan :=
  let now := Instant.clampMilliseconds 0
  ⟨UpdateSet.stamped [] now, [],
    ⟨"a", now, [("level", .number (.signed 1)), ("name", .text "A")]⟩⟩

/-- **The insertion of an upsert does not obey the projection**: where there is no item, an upsert
that asks for the name alone runs a statement that gives all columns back. -/
theorem not_projection_obeyed_inserting :
    ¬Postgres.Runs (Statement.Obeys namesOfItems)
      (Postgres.upsert Postgres.emptyServer.heard none namesOfItems firstItem .after) := by
  intro runs
  obtain ⟨statements, compiled⟩ :
      ∃ statements, Postgres.Upsert.of namesOfItems firstItem .after = .ok statements := ⟨_, rfl⟩
  obtain ⟨added, grown, each⟩ := runs (.start ⟨(), []⟩)
  have inserts : Postgres.Entry.asked (some 0) (.run statements.insert) ⟨[], 0, none⟩ ∈ added := by
    unfold Postgres.upsert at grown
    rw [compiled] at grown
    rw [← grown.trans (List.nil_append added)]
    exact .tail _ (.tail _ (.head _))
  have obeys := (Postgres.Upsert.returned_insert compiled).2.mp (each _ inserts)
  cases obeys

end TwinStore
