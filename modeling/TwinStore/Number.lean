/-
**Numbers.** Integers of sixty-four bits with and without a sign, double precision numbers and
exact decimals.

* `Number.toDecimal?` is the exact value of everything but a double precision number.
* `Number.equal` compares exact numbers by value, whatever their kind; a double precision number
  equals none of them.
* `Number.plus` and `Number.times` keep integers while they fit, exact numbers exact, and give a
  double precision number only for an operand of that kind.
-/

import TwinStore.Binary64.Shortest
import TwinStore.Decimal.Approximation
import TwinStore.Text.Word

namespace TwinStore

/-- A number of one of four kinds. -/
inductive Number where
  | signed (value : Int64)
  | unsigned (value : UInt64)
  | float (value : Binary64)
  | decimal (value : Decimal)
  deriving DecidableEq

namespace Number

/-- The number has an exact decimal value. -/
def isExact : Number → Bool
  | .float _ => false
  | _ => true

/-- The exact decimal value. -/
def toDecimal? : Number → Option Decimal
  | .signed value => some (.ofInt value.toInt)
  | .unsigned value => some (.ofInt value.toNat)
  | .float _ => none
  | .decimal value => some value

/-- The integer that an exact number denotes. -/
def integer? : Number → Option Int
  | .signed value => some value.toInt
  | .unsigned value => some value.toNat
  | .float _ => none
  | .decimal value => value.toInt?

/-- The signed word that an exact number denotes. -/
def toSigned? (number : Number) : Option Int64 := number.integer?.bind Word.signed?

/-- The unsigned word that an exact number denotes. -/
def toUnsigned? (number : Number) : Option UInt64 := number.integer?.bind Word.unsigned?

/-- The double precision number that stands for a number. -/
def toFloat : Number → Binary64
  | .signed value => .ofInt value.toInt
  | .unsigned value => .ofInt value.toNat
  | .float value => value
  | .decimal value => value.toFloat

/-- Zero of the same kind. -/
def zeroLike : Number → Number
  | .signed _ => .signed 0
  | .unsigned _ => .unsigned 0
  | .float _ => .float (.zero false)
  | .decimal _ => .decimal (.ofInt 0)

/-- The signed word of a number of an integer kind. -/
def word? : Number → Option Int64
  | .signed value => some value
  | .unsigned value => Word.signed? value.toNat
  | .float _ => none
  | .decimal _ => none

/-- Combines two numbers: as signed words if both operands and the result are such words, else as
decimals if both are exact, else in double precision. -/
def combine (integers : Int → Int → Int) (decimals : Decimal → Decimal → Decimal)
    (floats : Binary64 → Binary64 → Binary64) (left right : Number) : Number :=
  let word? := do
    let first ← left.word?
    let second ← right.word?
    Word.signed? (integers first.toInt second.toInt)
  match word?, left.toDecimal?, right.toDecimal? with
  | some word, _, _ => .signed word
  | none, some first, some second => .decimal (decimals first second)
  | none, _, _ => .float (floats left.toFloat right.toFloat)

def plus (left right : Number) : Number := combine (· + ·) Decimal.add Binary64.add left right

def times (left right : Number) : Number := combine (· * ·) Decimal.mul Binary64.mul left right

/-- Equality by value. Words of one kind are compared as words and words of both kinds by the
integers that they denote; with a decimal the decimals are compared. Double precision numbers are
compared with one another and equal no other number. -/
def equal : Number → Number → Bool
  | .float left, .float right => left.equal right
  | .float _, _ => false
  | _, .float _ => false
  | .signed left, .signed right => left == right
  | .unsigned left, .unsigned right => left == right
  | .signed left, .unsigned right => left.toInt == right.toNat
  | .unsigned left, .signed right => right.toInt == left.toNat
  | left, right =>
    match left.toDecimal?, right.toDecimal? with
    | some first, some second => first.sameValue second
    | none, none => true
    | _, _ => false

/-- The order of exact numbers by value; with a double precision operand both are compared in double
precision, and numbers without an order count as equal. -/
def compare (left right : Number) : Ordering :=
  match left.toDecimal?, right.toDecimal? with
  | some first, some second => first.compare second
  | _, _ => (left.toFloat.compare? right.toFloat).getD .eq

/-- The plain text, never with the exponent of a double precision number. -/
def text : Number → String
  | .signed value => String.ofList (Digits.ofInt value.toInt)
  | .unsigned value => String.ofList (Digits.ofNat value.toNat)
  | .float value => value.plainText
  | .decimal value => value.text

end Number

end TwinStore
