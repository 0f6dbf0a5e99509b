/-
**Backends.** What a store of records has to offer. A backend is asked through a channel, which is
either the store itself or an open transaction of it; queries and plans arrive fully prepared.

* `Backend σ κ` acts on stores of type `σ` through channels of type `κ`.
-/

import TwinStore.Plan.Write
import TwinStore.Schema.Table
import TwinStore.Store.Action

namespace TwinStore

/-- The verbs of a store. -/
structure Backend (σ κ : Type) where
  name : String
  /-- The number of matches. -/
  count : κ → FindQuery → Action σ UInt64
  /-- Hands the matches to a sink in order, until the sink fails. -/
  find : {τ : Type} → κ → FindQuery → (Record → Work σ τ Unit) → Work σ τ Unit
  insert : κ → String → InsertPlan → Action σ Record
  /-- Updates the first match. -/
  update : κ → FindQuery → UpdateSet → Returning → Action σ (Option Record)
  /-- Updates the first match, or inserts the planned record if there is none. -/
  upsert : κ → FindQuery → UpsertPlan → Returning → Action σ (Option Record)
  /-- Deletes the first match. -/
  delete : κ → FindQuery → Action σ (Option Record)
  /-- Deletes all matches and may say how many there were. -/
  deleteAll : κ → FindQuery → Action σ (Option UInt64)
  /-- Opens a transaction and gives its channel. -/
  openTransaction : κ → Action σ κ
  commit : κ → Action σ Unit
  abort : κ → Action σ Unit
  /-- The names of the tables. -/
  tables : κ → Action σ (List String)
  /-- Creates a table with its indexes; a table that exists is left alone. -/
  createTable : κ → Table → Action σ Unit
  /-- Adds the columns that do not exist yet. -/
  addColumns : κ → String → List Column → Action σ Unit
  dropTable : κ → String → Action σ Unit
  dropColumns : κ → String → List String → Action σ Unit
  addIndex : κ → String → TableIndex → Action σ Unit
  dropIndex : κ → String → String → Action σ Unit

end TwinStore
