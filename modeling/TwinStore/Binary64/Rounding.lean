/-
**Rounding to double precision.** The number nearest to a ratio of natural numbers, and the
arithmetic that follows from it: compute exactly, then round once.

* `BinaryFormat.nearest` rounds a ratio to the nearest multiple of a power of two that the format
  can hold, a tie to the even neighbour.
* `Binary64.ofRatio`, `Binary64.ofInt` and `Binary64.ofDecimal` round exact numbers.
* `Binary64.add`, `Binary64.mul` and `Binary64.div` round exact results.
-/

import TwinStore.Binary64.Basic
import TwinStore.Decimal.Basic
import TwinStore.Text.Digits

namespace TwinStore

/-- A binary floating format: the length of its significands and its least exponent. -/
structure BinaryFormat where
  precision : Nat
  leastExponent : Int

namespace BinaryFormat

/-- The format of double precision numbers. -/
def double : BinaryFormat := ⟨53, -1074⟩

/-- A ratio divided by a power of two, as a ratio. -/
def divideByPower (numerator denominator : Nat) (exponent : Int) : Nat × Nat :=
  if 0 ≤ exponent then (numerator, denominator * 2 ^ exponent.toNat)
  else (numerator * 2 ^ (-exponent).toNat, denominator)

/-- The integer nearest to a ratio, a tie to the even one. -/
def roundRatio (numerator denominator : Nat) : Nat :=
  let quotient := numerator / denominator
  let twice := 2 * (numerator % denominator)
  if denominator < twice ∨ (twice = denominator ∧ quotient % 2 = 1) then quotient + 1
  else quotient

/-- The exponent at which a positive ratio has a significand of full length, or the least one. -/
def exponentFor (format : BinaryFormat) (numerator denominator : Nat) : Int :=
  let guess : Int := numerator.log2 - denominator.log2 - format.precision
  let (scaled, unit) := divideByPower numerator denominator guess
  max format.leastExponent (if scaled / unit < 2 ^ format.precision then guess else guess + 1)

/-- The significand and the exponent nearest to a positive ratio. -/
def nearest (format : BinaryFormat) (numerator denominator : Nat) : Nat × Int :=
  let exponent := format.exponentFor numerator denominator
  let (scaled, unit) := divideByPower numerator denominator exponent
  (roundRatio scaled unit, exponent)

end BinaryFormat

namespace Binary64

/-- The number nearest to a ratio with a sign; beyond the range it is infinite. -/
def ofRatio (negative : Bool) (numerator denominator : Nat) : Binary64 :=
  if numerator = 0 then zero negative
  else
    let (significand, exponent) := BinaryFormat.double.nearest numerator denominator
    let magnitude := (exponent + 1074).toNat * 2 ^ 52 + significand
    if magnitude < infinityBits then ofMagnitude negative magnitude else infinity negative

/-- The number nearest to a natural number times a power of two, with a sign. -/
def ofDyadic (negative : Bool) (significand : Nat) (exponent : Int) : Binary64 :=
  if 0 ≤ exponent then ofRatio negative (significand * 2 ^ exponent.toNat) 1
  else ofRatio negative significand (2 ^ (-exponent).toNat)

/-- The number nearest to an integer. -/
def ofInt (value : Int) : Binary64 := ofRatio (value < 0) value.natAbs 1

/-- The number nearest to a decimal. The decimal's first digit tells when the result is infinite or
zero without writing the decimal out. -/
def ofDecimal (number : Decimal) : Binary64 :=
  let negative : Bool := number.coefficient < 0
  let magnitude := number.coefficient.natAbs
  let position := (Digits.ofNat magnitude).length - number.scale
  if magnitude = 0 then zero false
  else if 310 < position then infinity negative
  else if position < -330 then zero negative
  else if 0 ≤ number.scale then ofRatio negative magnitude (10 ^ number.scale.toNat)
  else ofRatio negative (magnitude * 10 ^ (-number.scale).toNat) 1

def neg (number : Binary64) : Binary64 := ofMagnitude (!number.isNegative) number.magnitudeBits

/-- The value of a finite number in units of a power of two that divides it. -/
def unitsOf (number : Binary64) (exponent : Int) : Int :=
  let magnitude : Int := number.significand * 2 ^ (number.exponent - exponent).toNat
  if number.isNegative then -magnitude else magnitude

/-- The rounded sum of two finite numbers; a sum of nothing is negative only if both numbers are. -/
def addFinite (left right : Binary64) : Binary64 :=
  let exponent := min left.exponent right.exponent
  let sum := left.unitsOf exponent + right.unitsOf exponent
  if sum = 0 then zero (left.isNegative && right.isNegative)
  else ofDyadic (sum < 0) sum.natAbs exponent

def add (left right : Binary64) : Binary64 :=
  if left.isNaN || right.isNaN then nan
  else if left.isInfinite then
    if right.isInfinite && left.isNegative != right.isNegative then nan else left
  else if right.isInfinite then right
  else addFinite left right

def mul (left right : Binary64) : Binary64 :=
  let negative := left.isNegative != right.isNegative
  if left.isNaN || right.isNaN then nan
  else if left.isInfinite || right.isInfinite then
    if left.isZero || right.isZero then nan else infinity negative
  else ofDyadic negative (left.significand * right.significand) (left.exponent + right.exponent)

/-- The rounded quotient of a finite number by a finite number that is not zero. -/
def div (left right : Binary64) : Binary64 :=
  let negative := left.isNegative != right.isNegative
  let exponent := left.exponent - right.exponent
  if 0 ≤ exponent then
    ofRatio negative (left.significand * 2 ^ exponent.toNat) right.significand
  else ofRatio negative left.significand (right.significand * 2 ^ (-exponent).toNat)

end Binary64

end TwinStore
