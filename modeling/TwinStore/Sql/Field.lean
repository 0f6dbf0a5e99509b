/-
**Fields in statements.** A field is a column, or a path that leads into a column's JSON document.

* `FieldReference.ofText` reads the dotted name of a field: the column first, then the names of the
  path, each of them an identifier.
* `FieldReference.operand` is the argument that the field compares with: of the column's type for a
  column, tagged JSON for a path.
-/

import TwinStore.Predicate
import TwinStore.Sql.Draft

namespace TwinStore

/-- The parts of a text between dots. -/
def splitDots : List Char → List (List Char)
  | [] => [[]]
  | '.' :: rest => [] :: splitDots rest
  | char :: rest =>
    match splitDots rest with
    | [] => [[char]]
    | part :: parts => (char :: part) :: parts

/-- The names of a field between its dots. -/
def fieldSegments (field : String) : List String := (splitDots field.toList).map String.ofList

/-- The first of these names. -/
def fieldHead (field : String) : String := (fieldSegments field).headD ""

/-- A column, and the names that lead into its document. -/
structure FieldReference where
  column : Identifier
  path : List Identifier

namespace FieldReference

/-- Reads the dotted name of a field. -/
def ofText (field : String) : Except IdentifierError FieldReference := do
  let column ← columnName (fieldHead field)
  let path ← (fieldSegments field).tail.mapM Identifier.ofText
  return ⟨column, path⟩

/-- The field as it stands in a statement. -/
def draft (field : FieldReference) : Draft :=
  match field.path with
  | [] => .name field.column
  | path =>
    .parenthesized (.ofTokens [.name field.column, .keyword .extract, .path path])

/-- The operand that the field compares with. -/
def operand (field : FieldReference) (value : Value) : Draft :=
  match field.path with
  | [] => .argument (.ofColumn value)
  | _ => .argument (.ofNested value) ++ .words [.jsonCast]

/-- The field is null; inside a document it may also be the null of JSON. -/
def nullTest (field : FieldReference) : Draft :=
  match field.path with
  | [] => field.draft ++ .words [.isNull]
  | _ =>
    .parenthesized
      (field.draft ++ .words [.isNull, .or] ++ field.draft ++ .words [.equals, .jsonNull])

end FieldReference

end TwinStore
