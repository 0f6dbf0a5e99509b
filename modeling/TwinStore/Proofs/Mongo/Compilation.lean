/-
**What the MongoDB backend compiles.** Every verb is one command, and the documents of the command
are compiled before it is sent.

* `compiler`: the faults of the documents of each verb.
* `compilesFirst`: the backend of any server compiles first.
-/

import TwinStore.Mongo.Backend
import TwinStore.Proofs.Store.Compilation

namespace TwinStore.Mongo

variable {σ : Type}

/-- The faults of the class and the filter of a query, and the ones behind them. -/
def filteredFaults (query : FindQuery) (later : List StoreError) : List StoreError :=
  faultsOf query.requireClass ++ (faultsOf query.filterDocument ++ later)

/-- The faults of the documents of each verb. -/
def compiler : Compiler where
  count query := filteredFaults query []
  find query := filteredFaults query (faultsOf (findOptions query))
  insert _ plan := faultsOf plan.toDocument
  update query changes _ := filteredFaults query (faultsOf changes.storeDocument)
  upsert query plan _ := filteredFaults query (faultsOf plan.toDocument)
  delete query := filteredFaults query []
  deleteAll query := filteredFaults query []

/-- **All documents of a verb are compiled before its command is sent.** -/
theorem compilesFirst (server : Server σ) : (backend server).CompilesFirst compiler where
  count _ _ := .cons fun _ _ => .cons fun _ _ => .nil
  find _ _ _ := .cons fun _ _ => .cons fun _ _ => .last
  insert _ _ _ := .last
  update _ _ _ _ := .cons fun _ _ => .cons fun _ _ => .last
  upsert _ _ _ _ := .cons fun _ _ => .cons fun _ _ => .last
  delete _ _ := .cons fun _ _ => .cons fun _ _ => .nil
  deleteAll _ _ := .cons fun _ _ => .cons fun _ _ => .nil

end TwinStore.Mongo
