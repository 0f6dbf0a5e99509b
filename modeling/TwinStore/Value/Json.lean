/-
**Values as JSON documents.** What JSON has no form for becomes a text: instants, dates, times and
bytes. The two forms differ in decimals only.

* `Value.toJson` is the structural form: a decimal is its text.
* `Value.toInterchange` is the form for other programs: an integral decimal within sixty-four bits
  is an integer, any other a double precision number.
* `Value.ofJson` reads a document without looking for a meaning in its texts and objects.
-/

import TwinStore.Calendar.Text
import TwinStore.Json.Basic
import TwinStore.Text.Base64
import TwinStore.Value.Basic

namespace TwinStore

/-- A decimal as a text. -/
def Decimal.toJsonText (number : Decimal) : Json := .text number.text

/-- A decimal as a number: an integer if it is one and fits, else a double precision number, null
beyond the range. -/
def Decimal.toJsonNumber (number : Decimal) : Json :=
  match number.toInt?.bind Word.signed?, number.toInt?.bind Word.unsigned? with
  | some word, _ => .ofSigned word
  | none, some word => .ofUnsigned word
  | none, none => .ofFloat number.toFloat

/-- A number as a JSON document, given the form of decimals. -/
def Number.toJsonWith (decimal : Decimal → Json) : Number → Json
  | .signed value => .ofSigned value
  | .unsigned value => .ofUnsigned value
  | .float value => .ofFloat value
  | .decimal value => decimal value

namespace Value

mutual

/-- A value as a JSON document, given the form of decimals. -/
def toJsonWith (decimal : Decimal → Json) : Value → Json
  | .null => .null
  | .boolean value => .boolean value
  | .text value => .text value
  | .number value => value.toJsonWith decimal
  | .instant value => .text value.millisecondText
  | .date value => .text value.text
  | .time value => .text value.text
  | .binary bytes => .text (String.ofList (Base64.encode bytes))
  | .array items => .array (itemsToJsonWith decimal items)
  | .object fields => .object (fieldsToJsonWith decimal fields)

/-- The items of an array as JSON documents. -/
def itemsToJsonWith (decimal : Decimal → Json) : List Value → List Json
  | [] => []
  | item :: rest => item.toJsonWith decimal :: itemsToJsonWith decimal rest

/-- The entries of an object as JSON documents. -/
def fieldsToJsonWith (decimal : Decimal → Json) : List (String × Value) → List (String × Json)
  | [] => []
  | (name, value) :: rest => (name, value.toJsonWith decimal) :: fieldsToJsonWith decimal rest

end

def toJson (value : Value) : Json := value.toJsonWith Decimal.toJsonText

/-- The form for other programs. -/
def toInterchange (value : Value) : Json := value.toJsonWith Decimal.toJsonNumber

/-- The value of a JSON integer: signed if it fits. -/
def ofJsonInteger (value : Int) : Value :=
  match Word.signed? value with
  | some word => .number (.signed word)
  | none => .number (.unsigned (UInt64.ofNat value.toNat))

mutual

/-- The value of a JSON document. -/
def ofJson : Json → Value
  | .null => .null
  | .boolean value => .boolean value
  | .integer value _ _ => ofJsonInteger value
  | .float value _ => .number (.float value)
  | .text value => .text value
  | .array items => .array (itemsOfJson items)
  | .object fields => .object (fieldsOfJson fields)

/-- The values of a JSON array's items. -/
def itemsOfJson : List Json → List Value
  | [] => []
  | item :: rest => ofJson item :: itemsOfJson rest

/-- The values of a JSON object's entries. -/
def fieldsOfJson : List (String × Json) → List (String × Value)
  | [] => []
  | (name, value) :: rest => (name, ofJson value) :: fieldsOfJson rest

end

end Value

end TwinStore
