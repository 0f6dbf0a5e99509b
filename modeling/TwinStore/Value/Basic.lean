/-
**Values.** What fields hold and conditions compare with, whichever store keeps them: null, truth
values, texts, numbers, instants, dates, times, bytes, arrays and objects.

* `Value.equal` compares deeply; numbers compare by exact value, so a value that is not a number
  differs from itself.
* `Value.compare` is the order in which the greater and the smaller of two values are chosen; values
  without a natural order between them compare by kind.
-/

import TwinStore.Calendar.Date
import TwinStore.Calendar.Instant
import TwinStore.Calendar.TimeOfDay
import TwinStore.Fields
import TwinStore.Number

namespace TwinStore

/-- A value. The entries of an object are in ascending order of their names. -/
inductive Value where
  | null
  | boolean (value : Bool)
  | text (value : String)
  | number (value : Number)
  | instant (value : Instant)
  | date (value : Date)
  | time (value : TimeOfDay)
  | binary (bytes : List UInt8)
  | array (items : List Value)
  | object (fields : List (String × Value))

namespace Value

instance : Inhabited Value := ⟨.null⟩

def kindName : Value → String
  | .null => "null"
  | .boolean _ => "boolean"
  | .text _ => "string"
  | .number (.signed _) => "signed"
  | .number (.unsigned _) => "unsigned"
  | .number (.float _) => "float"
  | .number (.decimal _) => "decimal"
  | .instant _ => "timestamp"
  | .date _ => "date"
  | .time _ => "time"
  | .binary _ => "binary"
  | .array _ => "array"
  | .object _ => "object"

def isNull : Value → Bool
  | .null => true
  | _ => false

/-! ### Parts of a value -/

def boolean? : Value → Option Bool
  | .boolean value => some value
  | _ => none

def text? : Value → Option String
  | .text value => some value
  | _ => none

def number? : Value → Option Number
  | .number value => some value
  | _ => none

/-- The signed word that a value denotes. -/
def signed? (value : Value) : Option Int64 := value.number?.bind Number.toSigned?

/-- The double precision number nearest to a value that is a number. -/
def float? (value : Value) : Option Binary64 := value.number?.map Number.toFloat

def instant? : Value → Option Instant
  | .instant value => some value
  | _ => none

def items? : Value → Option (List Value)
  | .array items => some items
  | _ => none

def fields? : Value → Option (Fields Value)
  | .object fields => some fields
  | _ => none

/-! ### Values from data -/

def ofSigned (value : Int64) : Value := .number (.signed value)

/-- An instant as a value, floored to the millisecond. -/
def ofInstant (value : Instant) : Value := .instant value.floorMilliseconds

/-! ### Equality -/

mutual

/-- Deep equality, with numbers by value. -/
def equal : Value → Value → Bool
  | .null, .null => true
  | .boolean left, .boolean right => left == right
  | .text left, .text right => left == right
  | .number left, .number right => left.equal right
  | .instant left, .instant right => left == right
  | .date left, .date right => left == right
  | .time left, .time right => left == right
  | .binary left, .binary right => left == right
  | .array left, .array right => equalItems left right
  | .object left, .object right => equalFields left right
  | _, _ => false

/-- Item by item equality of lists of the same length. -/
def equalItems : List Value → List Value → Bool
  | [], [] => true
  | left :: lefts, right :: rights => left.equal right && equalItems lefts rights
  | _, _ => false

/-- Entry by entry equality of fields with the same names. -/
def equalFields : List (String × Value) → List (String × Value) → Bool
  | [], [] => true
  | (leftName, left) :: lefts, (rightName, right) :: rights =>
    leftName == rightName && left.equal right && equalFields lefts rights
  | _, _ => false

end

/-! ### Order -/

/-- The place of a value's kind among the kinds. -/
def kindRank : Value → Nat
  | .null => 0
  | .number _ => 1
  | .text _ => 2
  | .object _ => 3
  | .array _ => 4
  | .binary _ | .date _ | .time _ => 5
  | .boolean _ => 6
  | .instant _ => 7

/-- Lexicographic order of bytes. -/
def compareBytes : List UInt8 → List UInt8 → Ordering
  | [], [] => .eq
  | [], _ :: _ => .lt
  | _ :: _, [] => .gt
  | left :: lefts, right :: rights =>
    (Ord.compare left.toNat right.toNat).then (compareBytes lefts rights)

/-- The order of two values: the natural one of their kind, else by kind. -/
def compare : Value → Value → Ordering
  | .number left, .number right => left.compare right
  | .text left, .text right => Ord.compare left right
  | .boolean left, .boolean right => Ord.compare left right
  | .instant left, .instant right => left.compare right
  | .date left, .date right => left.compare right
  | .time left, .time right => left.compare right
  | .binary left, .binary right => compareBytes left right
  | left, right => Ord.compare left.kindRank right.kindRank

end Value

end TwinStore
