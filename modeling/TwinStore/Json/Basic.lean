/-
**JSON documents.** A number is an integer of at most sixty-four bits, with or without a sign, or a
finite double precision number.

* `Json.ofSigned`, `Json.ofUnsigned` and `Json.ofFloat` make numbers; what is not finite is null.
* `Json.text` is the compact text of a document.
-/

import TwinStore.Binary64.Shortest
import TwinStore.Text.Word

namespace TwinStore

/-- A JSON document. The entries of an object are written in the order they are held in. -/
inductive Json where
  | null
  | boolean (value : Bool)
  | integer (value : Int) (low : -2 ^ 63 ≤ value) (high : value < 2 ^ 64)
  | float (value : Binary64) (finite : value.isFinite = true)
  | text (value : String)
  | array (items : List Json)
  | object (fields : List (String × Json))

namespace Json

instance : Inhabited Json := ⟨.null⟩

def ofSigned (value : Int64) : Json :=
  .integer value.toInt value.le_toInt (by have := value.toInt_lt; omega)

def ofUnsigned (value : UInt64) : Json :=
  .integer value.toNat (by omega) (by have := value.toNat_lt; omega)

/-- A double precision number, null if it is not finite. -/
def ofFloat (value : Binary64) : Json :=
  if finite : value.isFinite = true then .float value finite else .null

/-! ### Text -/

/-- A control character by its code. -/
def controlEscape (char : Char) : List Char :=
  ['\\', 'u', '0', '0', Nat.digitChar (char.toNat / 16), Nat.digitChar (char.toNat % 16)]

/-- A character inside a text: quotes, backslashes and control characters are escaped. -/
def escape (char : Char) : List Char :=
  if char = '"' then ['\\', '"']
  else if char = '\\' then ['\\', '\\']
  else if char = '\x08' then ['\\', 'b']
  else if char = '\x0c' then ['\\', 'f']
  else if char = '\n' then ['\\', 'n']
  else if char = '\r' then ['\\', 'r']
  else if char = '\t' then ['\\', 't']
  else if char.toNat < 32 then controlEscape char
  else [char]

/-- A text in quotes. -/
def quote (text : String) : List Char := '"' :: (text.toList.flatMap escape ++ ['"'])

mutual

/-- The characters of a document, without blanks. -/
def chars : Json → List Char
  | .null => ['n', 'u', 'l', 'l']
  | .boolean true => ['t', 'r', 'u', 'e']
  | .boolean false => ['f', 'a', 'l', 's', 'e']
  | .integer value _ _ => Digits.ofInt value
  | .float value _ => value.jsonText.toList
  | .text value => quote value
  | .array items => '[' :: itemsChars items
  | .object fields => '\x7b' :: fieldsChars fields

/-- The items of an array up to its closing bracket. -/
def itemsChars : List Json → List Char
  | [] => [']']
  | [item] => item.chars ++ [']']
  | item :: rest => item.chars ++ ',' :: itemsChars rest

/-- The entries of an object up to its closing brace. -/
def fieldsChars : List (String × Json) → List Char
  | [] => ['\x7d']
  | [(name, value)] => quote name ++ ':' :: value.chars ++ ['\x7d']
  | (name, value) :: rest => quote name ++ ':' :: value.chars ++ ',' :: fieldsChars rest

end

/-- The compact text of a document. -/
def render (document : Json) : String := String.ofList document.chars

end Json

end TwinStore
