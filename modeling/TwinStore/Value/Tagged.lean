/-
**Tagged values.** Values that JSON documents carry without loss: what JSON has no exact form for is
wrapped in an object of one entry, whose name is a reserved tag.

* `Value.tagged` wraps, at every depth. An object that looks like a tagged value is itself wrapped.
* `Value.untagged` unwraps. It is total: an object whose tag and content do not fit stays an object.
* `Value.columnForm` and `Value.ofColumnForm` leave the outermost value as it is and treat what is
  inside it likewise; this is how typed columns hold values.
-/

import TwinStore.Calendar.Text
import TwinStore.Text.Base64
import TwinStore.Value.Basic

namespace TwinStore

/-- The kinds of wrapped values. -/
inductive Tag where
  | signed
  | unsigned
  | decimal
  | binary
  | instant
  | object
  | calendar
  deriving DecidableEq

namespace Tag

def name : Tag → String
  | .signed => "$signed"
  | .unsigned => "$unsigned"
  | .decimal => "$decimal"
  | .binary => "$binary"
  | .instant => "$date"
  | .object => "$object"
  | .calendar => "$calendar"

def all : List Tag := [.signed, .unsigned, .decimal, .binary, .instant, .object, .calendar]

def ofName? (name : String) : Option Tag := all.find? fun tag => tag.name == name

/-- The name is reserved. -/
def isReserved (name : String) : Bool := (ofName? name).isSome

/-- A reserved name belongs to its tag. -/
@[simp] theorem ofName?_name (tag : Tag) : ofName? tag.name = some tag := by
  cases tag <;> decide

/-- A text wrapped under the tag. -/
def wrap (tag : Tag) (text : List Char) : Value :=
  .object [(tag.name, .text (String.ofList text))]

/-- The value of a text under the tag. -/
def read? (tag : Tag) (text : String) : Option Value :=
  match tag with
  | .signed => (Word.readSigned? text.toList).map fun word => .number (.signed word)
  | .unsigned => (Word.readUnsigned? text.toList).map fun word => .number (.unsigned word)
  | .decimal => (Decimal.ofText? text).map fun number => .number (.decimal number)
  | .binary => (Base64.decode? text.toList).map .binary
  | .instant =>
    (Word.readSigned? text.toList).bind fun milliseconds =>
      (Instant.ofMilliseconds? milliseconds.toInt).map .instant
  | .calendar =>
    match Date.ofText? text with
    | some date => some (.date date)
    | none => (TimeOfDay.ofText? text).map .time
  | .object => none

end Tag

namespace Value

/-! ### Wrapping -/

/-- The fields look like a tagged value. -/
def looksTagged : List (String × Value) → Bool
  | [(name, _)] => Tag.isReserved name
  | _ => false

mutual

/-- The tagged form of a value. -/
def tagged : Value → Value
  | .number (.signed value) => Tag.signed.wrap (Digits.ofInt value.toInt)
  | .number (.unsigned value) => Tag.unsigned.wrap (Digits.ofNat value.toNat)
  | .number (.decimal value) => Tag.decimal.wrap value.chars
  | .instant value => Tag.instant.wrap (Digits.ofInt value.milliseconds)
  | .date value => Tag.calendar.wrap value.chars
  | .time value => Tag.calendar.wrap value.chars
  | .binary bytes => Tag.binary.wrap (Base64.encode bytes)
  | .array items => .array (taggedItems items)
  | .object fields =>
    if looksTagged fields then .object [(Tag.object.name, .object (taggedFields fields))]
    else .object (taggedFields fields)
  | .null => .null
  | .boolean value => .boolean value
  | .text value => .text value
  | .number (.float value) => .number (.float value)

/-- The tagged forms of an array's items. -/
def taggedItems : List Value → List Value
  | [] => []
  | item :: rest => item.tagged :: taggedItems rest

/-- The tagged forms of an object's entries. -/
def taggedFields : List (String × Value) → List (String × Value)
  | [] => []
  | (name, value) :: rest => (name, value.tagged) :: taggedFields rest

end

/-- The form of a value in a typed column: only what is inside an array or object is tagged. -/
def columnForm : Value → Value
  | .array items => .array (taggedItems items)
  | .object fields => .object (taggedFields fields)
  | scalar => scalar

/-! ### Unwrapping -/

/-- The value that a tag and its content denote. Under the tag for objects stands the object with
its entries restored, under every other tag a text. -/
def ofTag? (name : String) (payload restored : Value) : Option Value :=
  match Tag.ofName? name, payload with
  | some .object, .object _ => some restored
  | some tag, .text content => tag.read? content
  | _, _ => none

mutual

/-- The value of a tagged form. -/
def untagged : Value → Value
  | .array items => .array (untaggedItems items)
  | .object [(name, payload)] =>
    match ofTag? name payload payload.ofColumnForm with
    | some value => value
    | none => .object [(name, payload.untagged)]
  | .object fields => .object (untaggedFields fields)
  | scalar => scalar

/-- The value of a typed column: what is inside an array or object is restored, and the outermost
object is no tagged form. -/
def ofColumnForm : Value → Value
  | .array items => .array (untaggedItems items)
  | .object fields => .object (untaggedFields fields)
  | scalar => scalar

def untaggedItems : List Value → List Value
  | [] => []
  | item :: rest => item.untagged :: untaggedItems rest

def untaggedFields : List (String × Value) → List (String × Value)
  | [] => []
  | (name, value) :: rest => (name, value.untagged) :: untaggedFields rest

end

end Value

end TwinStore
