/-
**Exchanges with a MongoDB server.** What commands a server gets, and through which channels.

* `Server.heard`: the server with a log of what it was asked and what it answered.
-/

import TwinStore.Mongo.Backend
import TwinStore.Proofs.Store.Action

namespace TwinStore.Mongo

variable {σ : Type}

/-- A command that was answered. -/
structure Entry where
  channel : Channel
  command : Command
  reply : Reply

/-- The state of a server, and what it was asked so far. -/
structure Heard (σ : Type) where
  state : σ
  entries : List Entry

/-- The server with a log. -/
def Server.heard (server : Server σ) : Server (Heard σ) where
  answer channel command := fun heard =>
    let (reply, state) := Id.run ((server.answer channel command).run heard.state)
    pure (reply, ⟨state, heard.entries ++ [⟨channel, command, reply⟩]⟩)

/-- A server that says nothing and has no fault. -/
def quietServer : Server Unit := ⟨fun _ _ => pure .empty⟩

end TwinStore.Mongo
