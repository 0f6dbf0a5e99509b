/-
**Values in documents.** How values are stored as document values and read back.

* `Value.toBson` fails for decimals beyond Decimal128 only. There is no unsigned kind: an unsigned
  word is stored as a signed one if it fits, else as Decimal128. Dates and times are bytes of a
  subtype of their own.
* `Value.ofBson` fails for the kinds that no value corresponds to, for Decimal128 values that are no
  numbers and for calendar bytes without a date or time.
-/

import TwinStore.Bson.Basic
import TwinStore.Calendar.Components
import TwinStore.Text.Hex

namespace TwinStore

/-- The subtype of bytes that hold calendar components. -/
def calendarSubtype : UInt8 := 0x80

/-- The subtype of plain bytes. -/
def plainSubtype : UInt8 := 0

/-- A decimal as Decimal128. -/
def Decimal.toBson (number : Decimal) : Except Unsupported Bson :=
  match Decimal128.ofDecimal? number with
  | some stored => .ok (.decimal128 stored)
  | none => .error (.decimalRange number.text)

/-- A number as a document value. -/
def Number.toBson : Number → Except Unsupported Bson
  | .signed value => .ok (.int64 value)
  | .unsigned value =>
    if value.toNat < 2 ^ 63 then .ok (.int64 (.ofInt value.toNat))
    else (Decimal.ofInt value.toNat).toBson
  | .float value => .ok (.double value)
  | .decimal value => value.toBson

/-- Calendar components as a document value. -/
def CalendarComponents.toBson (components : CalendarComponents) : Bson :=
  .binary calendarSubtype components.bytes

namespace Value

mutual

def toBson : Value → Except Unsupported Bson
  | .null => .ok .null
  | .boolean value => .ok (.boolean value)
  | .text value => .ok (.text value)
  | .number value => value.toBson
  | .instant value => .ok (.instant (Int64.ofInt value.milliseconds))
  | .date value => .ok (CalendarComponents.ofDate value).toBson
  | .time value => .ok (CalendarComponents.ofTime value).toBson
  | .binary bytes => .ok (.binary plainSubtype bytes)
  | .array items => return .array (← itemsToBson items)
  | .object fields => return .document (← fieldsToBson fields)

def itemsToBson : List Value → Except Unsupported (List Bson)
  | [] => .ok []
  | item :: rest => return (← item.toBson) :: (← itemsToBson rest)

def fieldsToBson : List (String × Value) → Except Unsupported (List (String × Bson))
  | [] => .ok []
  | (name, value) :: rest => return (name, ← value.toBson) :: (← fieldsToBson rest)

end

/-- The value of stored bytes. -/
def ofBinary (subtype : UInt8) (bytes : List UInt8) : Except Unsupported Value :=
  if subtype = calendarSubtype then do (← CalendarComponents.ofBytes bytes).toValue
  else .ok (.binary bytes)

/-- The value of a stored Decimal128. -/
def ofDecimal128 (number : Decimal128) : Except Unsupported Value :=
  match number.toDecimal? with
  | some decimal => .ok (.number (.decimal decimal))
  | none => .error (.notANumber number.text)

mutual

/-- The value of a document value. -/
def ofBson : Bson → Except Unsupported Value
  | .null => .ok .null
  | .undefined => .ok .null
  | .boolean value => .ok (.boolean value)
  | .text value => .ok (.text value)
  | .int32 value => .ok (.ofSigned value.toInt64)
  | .int64 value => .ok (.ofSigned value)
  | .double value => .ok (.number (.float value))
  | .decimal128 value => ofDecimal128 value
  | .instant milliseconds => .ok (.instant (.clampMilliseconds milliseconds.toInt))
  | .binary subtype bytes => ofBinary subtype bytes
  | .objectId bytes => .ok (.text (String.ofList (Hex.encode bytes)))
  | .foreign kind => .error (.foreign kind)
  | .array items => return .array (← itemsOfBson items)
  | .document entries => return .object (Fields.ofEntries (← entriesOfBson entries))

def itemsOfBson : List Bson → Except Unsupported (List Value)
  | [] => .ok []
  | item :: rest => return (← ofBson item) :: (← itemsOfBson rest)

/-- The values of a document's entries, in the document's order. -/
def entriesOfBson : List (String × Bson) → Except Unsupported (List (String × Value))
  | [] => .ok []
  | (name, value) :: rest => return (name, ← ofBson value) :: (← entriesOfBson rest)

end

end Value

end TwinStore
