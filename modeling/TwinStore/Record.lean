/-
**Records.** What a store gives back: the name of the class, the record's id, its two stamps and the
fields of the user.

* `Record.materialize` sorts the entries of a row or document into these parts. Of several entries
  of one name the last one counts; null entries are kept or skipped.
* `Record.text` is the record as a JSON text.
-/

import TwinStore.Value.Json

namespace TwinStore

/-! ### Names that the store keeps for itself -/

/-- The name of a record's id. -/
def idName : String := "id"

/-- The name of a record's id in a document. -/
def documentIdName : String := "_id"

/-- The name of the creation stamp. -/
def createdName : String := "created_at"

/-- The name of the stamp of the last change. -/
def updatedName : String := "updated_at"

/-- The names that no field of the user has. -/
def reservedNames : List String := [idName, documentIdName, createdName, updatedName]

/-- The name is kept for the store. -/
def isReserved (name : String) : Bool := reservedNames.contains name

/-! ### Records -/

/-- A record. -/
structure Record where
  className : String
  id : Option String
  createdAt : Option Instant
  updatedAt : Option Instant
  fields : Fields Value

/-- What becomes of null entries. -/
inductive NullPolicy where
  /-- A null is a value that was written. -/
  | keep
  /-- A null says that nothing was written. -/
  | skip
  deriving DecidableEq

namespace Record

/-- A record of a class without id, stamps and fields. -/
def empty (className : String) : Record := ⟨className, none, none, none, []⟩

/-- The id that a value denotes: a text as it is, a number by its text, anything else but null by
its JSON text. -/
def idText? : Value → Option String
  | .null => none
  | .text value => some value
  | .number value => some value.text
  | value => some value.toInterchange.render

/-- Adds an entry of a row or document. -/
def addEntry (nulls : NullPolicy) (record : Record) (name : String) (value : Value) : Record :=
  if name = idName ∨ name = documentIdName then { record with id := idText? value }
  else if name = createdName then { record with createdAt := value.instant? }
  else if name = updatedName then { record with updatedAt := value.instant? }
  else if value.isNull ∧ nulls = .skip then record
  else { record with fields := record.fields.insert name value }

/-- The record of a row's or document's entries. -/
def materialize (className : String) (nulls : NullPolicy) (entries : List (String × Value)) :
    Record :=
  entries.foldl (fun record entry => addEntry nulls record entry.1 entry.2) (empty className)

/-- The value of a field, null if there is none. -/
def get (record : Record) (name : String) : Value := (record.fields.get? name).getD .null

def contains (record : Record) (name : String) : Bool := record.fields.contains name

/-- An optional text as JSON. -/
def optionalText : Option String → Json
  | some text => .text text
  | none => .null

/-- The record as a JSON document, its parts in a fixed order. -/
def toJson (record : Record) : Json :=
  .object
    [("class", .text record.className),
      ("id", optionalText record.id),
      ("created_at", optionalText (record.createdAt.map Instant.exactText)),
      ("updated_at", optionalText (record.updatedAt.map Instant.exactText)),
      ("fields", (Value.object record.fields).toInterchange)]

def text (record : Record) : String := record.toJson.render

end Record

end TwinStore
