/-
**Shortest text of double precision numbers.** A number is written with the fewest digits that read
back as it.

* `Binary64.shortest` tries one digit, two digits and so on: the first decimal grid with a point
  that rounds to the number wins, and of two such points the nearer.
* `Binary64.plainText` never uses an exponent; `Binary64.jsonText` marks integers with `.0` and uses
  a signed exponent beyond sixteen digits and below a hundred thousandth.
-/

import TwinStore.Binary64.Basic
import TwinStore.Decimal.Text

namespace TwinStore.Binary64

/-- The reals that round to a positive number lie between two bounds around it. All three are
numerators over one denominator, and the bounds themselves belong to the interval or do not. -/
structure RoundingInterval where
  lower : Nat
  number : Nat
  upper : Nat
  denominator : Nat
  closed : Bool

/-- The interval of a finite number: half a unit to each side, a quarter below a power of two whose
lower neighbours are closer. -/
def roundingInterval (number : Binary64) : RoundingInterval :=
  let significand := number.significand
  let below := if number.fractionBits = 0 ∧ 1 < number.exponentBits then 1 else 2
  let exponent := number.exponent - 2
  let unit := 2 ^ exponent.toNat
  { lower := (4 * significand - below) * unit
    number := 4 * significand * unit
    upper := (4 * significand + 2) * unit
    denominator := 2 ^ (-exponent).toNat
    closed := significand % 2 == 0 }

/-- The number of digits before the point, negative for zeros behind it. -/
def RoundingInterval.position (interval : RoundingInterval) : Int :=
  if interval.denominator ≤ interval.number then
    (Digits.ofNat (interval.number / interval.denominator)).length
  else
    let zeros := (Digits.ofNat (interval.denominator / interval.number)).length
    if interval.number * 10 ^ (zeros - 1) < interval.denominator then 1 - (zeros : Int)
    else 2 - (zeros : Int)

/-- The decimal `candidate * 10 ^ power` rounds to the number. -/
def RoundingInterval.holds (interval : RoundingInterval) (candidate : Nat) (power : Int) : Bool :=
  let scaled := candidate * 10 ^ power.toNat * interval.denominator
  let lower := interval.lower * 10 ^ (-power).toNat
  let upper := interval.upper * 10 ^ (-power).toNat
  if interval.closed then lower ≤ scaled && scaled ≤ upper else lower < scaled && scaled < upper

/-- Of the two points of the grid `10 ^ power` next to the number, the one that rounds to it; if
both do, the nearer one, and the even one of two that are equally near. -/
def RoundingInterval.onGrid? (interval : RoundingInterval) (power : Int) : Option Nat :=
  let numerator := interval.number * 10 ^ (-power).toNat
  let denominator := interval.denominator * 10 ^ power.toNat
  let below := numerator / denominator
  let remainder := numerator % denominator
  let nearer :=
    if 2 * remainder < denominator ∨ (2 * remainder = denominator ∧ below % 2 = 0) then below
    else below + 1
  let farther := if nearer = below then below + 1 else below
  if interval.holds nearer power then some nearer
  else if interval.holds farther power then some farther
  else none

/-- Moves the trailing zero of a power of ten that has one digit too many into the exponent. -/
def trimPower (digits candidate : Nat) (power : Int) : Nat × Int :=
  if candidate = 10 ^ digits then (1, power + digits) else (candidate, power)

/-- The fewest digits, and the power of ten they multiply, that round to a positive finite number;
seventeen digits always do. -/
def shortest (number : Binary64) : Nat × Int :=
  let interval := number.roundingInterval
  let position := interval.position
  let found := (List.range 17).findSome? fun count =>
    let digits : Nat := count + 1
    let power := position - digits
    (interval.onGrid? power).map fun candidate => trimPower digits candidate power
  found.getD (0, 0)

/-- A sign before the text of the absolute value. -/
def signed (number : Binary64) (text : List Char) : String :=
  String.ofList (if number.isNegative then '-' :: text else text)

/-- The text without exponent and without places that are not needed. -/
def plainText (number : Binary64) : String :=
  if number.isNaN then "NaN"
  else if number.isInfinite then number.signed ['i', 'n', 'f']
  else if number.isZero then number.signed ['0']
  else
    let (digits, power) := number.shortest
    let text := Digits.ofNat digits
    number.signed <|
      if 0 ≤ power then text ++ List.replicate power.toNat '0'
      else Decimal.pointed text power.natAbs

/-- The text of a positive number from its digits. Numbers of at most sixteen digits before the
point, down to a hundred thousandth, are written without an exponent; an exponent has its sign. -/
def jsonMagnitude (digits : Nat) (power : Int) : List Char :=
  let text := Digits.ofNat digits
  let position := text.length + power
  if 0 ≤ power ∧ position ≤ 16 then text ++ List.replicate power.toNat '0' ++ ['.', '0']
  else if -5 < position ∧ position ≤ 16 then Decimal.pointed text power.natAbs
  else Decimal.pointedAtFirst text ++ 'e' :: Digits.withSign (position - 1)

/-- The text of a finite number in a JSON document. -/
def jsonText (number : Binary64) : String :=
  number.signed <|
    if number.isZero then ['0', '.', '0']
    else
      let (digits, power) := number.shortest
      jsonMagnitude digits power

end TwinStore.Binary64
