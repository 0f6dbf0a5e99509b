/-
**Scripted MongoDB servers.** A server that answers from a list of replies and writes down what it
is sent. Where the list has ended it says nothing; the ends of transactions take no reply.

* `Script.server` acts on scripts.
-/

import TwinStore.Mongo.Server

namespace TwinStore.Mongo

/-- The replies that are left, and the commands so far, the oldest first. -/
structure Script where
  replies : List Reply
  sent : List Command

namespace Script

/-- The command ends a transaction. -/
def isEnd : Command → Bool
  | .commit => true
  | .abort => true
  | _ => false

/-- The script behind a command, and the reply to it. -/
def next (script : Script) (command : Command) : Reply × Script :=
  let sent := script.sent ++ [command]
  if isEnd command then (.empty, { script with sent })
  else
    match script.replies with
    | [] => (.empty, { script with sent })
    | reply :: replies => (reply, ⟨replies, sent⟩)

def server : Server Script where
  answer := fun _ command script => script.next command

end Script

end TwinStore.Mongo
