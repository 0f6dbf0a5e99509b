/-
**Generators.** Several texts for one statement. A generator keeps the arguments of all of them, so
that the placeholders of a text count on from the texts before.

* `Generator.run` writes one text; what was bound before a fault stays bound.
* `Generator.runAll` writes one text after the other.
-/

import TwinStore.Sql.Assignment
import TwinStore.Sql.Filter

namespace TwinStore

/-- What a generator is asked to write. -/
inductive GeneratorCall where
  /-- A placeholder. -/
  | bind (argument : Argument)
  /-- A placeholder for the value of a column. -/
  | bindValue (value : Value)
  /-- A placeholder for a value inside a column, as a JSON document. -/
  | bindJson (value : Value)
  | whereClause (predicate : Option Predicate)
  | condition (predicate : Predicate)
  /-- The assignments of an update that reads current values from a table. -/
  | setClause (update : UpdateSet) (table : Identifier)

def GeneratorCall.draft : GeneratorCall → Draft
  | .bind bound => .argument bound
  | .bindValue value => columnArgument value
  | .bindJson value => nestedArgument value
  | .whereClause predicate => Predicate.whereDraft predicate
  | .condition predicate => predicate.draft
  | .setClause update table => update.draft table

/-- The arguments that are bound so far. -/
structure Generator where
  arguments : List Argument

namespace Generator

/-- Nothing is bound yet. -/
def empty : Generator := ⟨[]⟩

/-- Writes a text and binds its arguments. -/
def run (generator : Generator) (call : GeneratorCall) :
    Generator × Except CompileError String :=
  let draft := call.draft
  (⟨generator.arguments ++ Token.arguments draft.tokens⟩,
    draft.finish.map (Token.render generator.arguments.length))

/-- Writes one text after the other. -/
def runAll (generator : Generator) :
    List GeneratorCall → Generator × List (Except CompileError String)
  | [] => (generator, [])
  | call :: rest =>
    let (next, result) := generator.run call
    let (last, results) := runAll next rest
    (last, result :: results)

end Generator

end TwinStore
