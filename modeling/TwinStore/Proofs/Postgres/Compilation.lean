/-
**What the PostgreSQL backend compiles.** Every statement that a verb may need is compiled before
the first one is sent: an upsert has both of its statements by then.

* `compiler`: the faults of the statements of each verb.
* `compilesFirst`: the backend of any server compiles first.
-/

import TwinStore.Postgres.Backend
import TwinStore.Proofs.Store.Compilation

namespace TwinStore.Postgres

variable {σ : Type}

/-- The faults of the two statements of an upsert. -/
def upsertFaults (query : FindQuery) (plan : UpsertPlan) (returning : Returning) :
    List StoreError :=
  faultsOf query.requireClass ++ faultsOf (Statement.updateOne query plan.update returning) ++
    faultsOf (do Statement.insert (← query.requireClass) plan.insert)

/-- The faults of the statements of each verb. -/
def compiler : Compiler where
  count query := faultsOf (Statement.count query)
  find query := faultsOf query.requireClass ++ faultsOf (Statement.select query)
  insert className plan := faultsOf (Statement.insert className plan)
  update query changes returning :=
    faultsOf query.requireClass ++ faultsOf (Statement.updateOne query changes returning)
  upsert := upsertFaults
  delete query := faultsOf query.requireClass ++ faultsOf (Statement.deleteOne query)
  deleteAll query := faultsOf (Statement.deleteAll query)

/-- Both statements of an upsert are compiled together, so the first fault is that of the pair. -/
theorem head?_upsertFaults (query : FindQuery) (plan : UpsertPlan) (returning : Returning) :
    (upsertFaults query plan returning).head? =
      (faultsOf (Upsert.of query plan returning)).head? := by
  unfold upsertFaults Upsert.of
  cases query.requireClass with
  | error error => rfl
  | ok className =>
    cases Statement.updateOne query plan.update returning with
    | error error => rfl
    | ok update =>
      show (faultsOf (Statement.insert className plan.insert)).head? =
        (faultsOf (Statement.insert className plan.insert >>= fun insert =>
          pure (Upsert.mk className update insert returning))).head?
      cases Statement.insert className plan.insert <;> rfl

/-- **All statements of a verb are compiled before any is sent.** -/
theorem compilesFirst (server : Server σ) : (backend server).CompilesFirst compiler where
  count _ _ := .last
  find _ _ _ := .cons fun _ _ => .last
  insert _ _ _ := .last
  update _ _ _ _ := .cons fun _ _ => .last
  upsert _ query plan returning error found := by
    rw [show compiler.upsert = upsertFaults from rfl, head?_upsertFaults] at found
    exact CompilesFirst.last error found
  delete _ _ := .cons fun _ _ => .last
  deleteAll _ _ := .last

end TwinStore.Postgres
