/-
**Identifiers.** Names that may stand in a statement: a letter or an underscore, then letters,
digits and underscores, at most sixty-three bytes.

* `Identifier.ofText` checks a name; `Identifier.ofText_text` says that it accepts every identifier.
* `columnName` is the column of a field; both names of the id mean the one column.
-/

import TwinStore.Record

namespace TwinStore

/-- The longest identifier in bytes. -/
def identifierLimit : Nat := 63

/-- Letters and the underscore. -/
def isIdentifierStart (char : Char) : Bool := char.isAlpha || char == '_'

/-- Letters, digits and the underscore. -/
def isIdentifierChar (char : Char) : Bool := char.isAlphanum || char == '_'

/-- The name may stand in a statement. -/
def IsIdentifier (name : String) : Prop :=
  name.utf8ByteSize ≤ identifierLimit ∧ name.toList.head?.any isIdentifierStart = true ∧
    name.toList.all isIdentifierChar = true

instance (name : String) : Decidable (IsIdentifier name) :=
  inferInstanceAs (Decidable (_ ∧ _ ∧ _))

/-- A name that may stand in a statement. -/
structure Identifier where
  text : String
  valid : IsIdentifier text
  deriving DecidableEq

/-- Why a name may not stand in a statement. -/
inductive IdentifierError where
  | invalidCharacters (name : String)
  | tooLong (name : String) (length limit : Nat)
  | empty
  | invalidStart (name : String)
  deriving DecidableEq

def IdentifierError.message : IdentifierError → String
  | .invalidCharacters name =>
    "Invalid characters in name '" ++ name ++
      "': only alphanumeric characters and underscores are allowed"
  | .tooLong name length limit =>
    "Name '" ++ name ++ "' is too long: " ++ String.ofList (Digits.ofNat length) ++
      " characters (max " ++ String.ofList (Digits.ofNat limit) ++ ")"
  | .empty => "Name cannot be empty"
  | .invalidStart name => "Name '" ++ name ++ "' must start with a letter or underscore"

namespace Identifier

/-- Checks a name: that it is there, its length, its first character, then all characters. -/
def ofText (name : String) : Except IdentifierError Identifier :=
  if valid : IsIdentifier name then .ok ⟨name, valid⟩
  else if name.toList = [] then .error .empty
  else if identifierLimit < name.utf8ByteSize then
    .error (.tooLong name name.utf8ByteSize identifierLimit)
  else if name.toList.head?.any isIdentifierStart then .error (.invalidCharacters name)
  else .error (.invalidStart name)

/-- An identifier passes the check. -/
@[simp] theorem ofText_text (identifier : Identifier) :
    ofText identifier.text = .ok identifier := by
  simp [ofText, identifier.valid]

theorem isIdentifierChar_of_mem {identifier : Identifier} {char : Char}
    (member : char ∈ identifier.text.toList) : isIdentifierChar char = true :=
  List.all_eq_true.mp identifier.valid.2.2 char member

end Identifier

def quoteName (name : String) : String := "\"" ++ name ++ "\""

/-- The column of the id. -/
def idColumn : Identifier := ⟨idName, by decide⟩

/-- The column of the creation stamp. -/
def createdColumn : Identifier := ⟨createdName, by decide⟩

/-- The column of the stamp of the last change. -/
def updatedColumn : Identifier := ⟨updatedName, by decide⟩

/-- The column of a field. -/
def columnName (field : String) : Except IdentifierError Identifier :=
  if field = documentIdName then .ok idColumn else Identifier.ofText field

/-- The name of a field in a document. -/
def documentField (field : String) : String := if field = idName then documentIdName else field

end TwinStore
