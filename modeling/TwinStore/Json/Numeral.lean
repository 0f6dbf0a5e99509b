/-
**JSON numerals.** How the numbers of a JSON text are read. Integers are exact within sixty-four
bits. Any other numeral is a significand of as many leading digits as fit an unsigned word, times a
power of ten, computed in double precision.

* `Json.scanNumeral?` reads one numeral and gives what follows.
* `Binary64.scaledByTen?` multiplies by a power of ten; it fails beyond the range.
-/

import TwinStore.Binary64.Rounding
import TwinStore.Json.Basic

namespace TwinStore

/-- The nearest number to a power of ten. -/
def Binary64.powerOfTen (exponent : Nat) : Binary64 := .ofRatio false (10 ^ exponent) 1

/-- The largest exponent of a finite power of ten. -/
def Binary64.largestPower : Nat := 308

/-- A finite number, if it is one. -/
def Binary64.finite? (number : Binary64) : Option Binary64 :=
  if number.isFinite then some number else none

/-- Divides a number by ten to an exponent, in steps of the largest power of ten. -/
def Binary64.dividedByTen (number : Binary64) : Nat → Binary64
  | exponent =>
    if _small : exponent ≤ largestPower then number.div (powerOfTen exponent)
    else if number.isZero then number
    else (number.div (powerOfTen largestPower)).dividedByTen (exponent - largestPower)
termination_by exponent => exponent
decreasing_by unfold largestPower at *; omega

/-- Multiplies a number by ten to an exponent, unless the result is beyond the range. -/
def Binary64.scaledByTen? (number : Binary64) (exponent : Int) : Option Binary64 :=
  if exponent < 0 then some (number.dividedByTen exponent.natAbs)
  else if exponent ≤ largestPower then
    (number.mul (powerOfTen exponent.toNat)).finite?
  else if number.isZero then some number
  else none

namespace Json

/-- A numeral apart from its exponent: whether a minus sign precedes it, the leading digits that fit
an unsigned word, and the power of ten that the digits behind them leave. -/
structure Mantissa where
  negative : Bool
  significand : Nat
  exponent : Int

/-- The digit at the front of a text. -/
def digit? : List Char → Option (Nat × List Char)
  | char :: rest => if char.isDigit then some (char.toNat - '0'.toNat, rest) else none
  | [] => none

/-- Reads digits into a significand until the next one no longer fits. -/
def takeDigits (significand count : Nat) : List Char → Nat × Nat × List Char
  | [] => (significand, count, [])
  | char :: rest =>
    let next := significand * 10 + (char.toNat - '0'.toNat)
    if char.isDigit ∧ next < 2 ^ 64 then takeDigits next (count + 1) rest
    else (significand, count, char :: rest)

/-- The value of a mantissa times a power of ten. -/
def Mantissa.float? (mantissa : Mantissa) (exponent : Int) : Option Binary64 := do
  let magnitude ← (Binary64.ofInt mantissa.significand).scaledByTen? exponent
  return if mantissa.negative then magnitude.neg else magnitude

/-- The value of a mantissa behind which an exponent is written. An exponent beyond thirty-two bits
leaves zero, unless it is positive and the significand is not zero. -/
def Mantissa.withExponent? (mantissa : Mantissa) (positive : Bool) (exponent : Nat) :
    Option Binary64 :=
  if exponent < 2 ^ 31 then
    mantissa.float? (mantissa.exponent + if positive then (exponent : Int) else -exponent)
  else if positive ∧ mantissa.significand ≠ 0 then none
  else some (.zero mantissa.negative)

/-- Reads the exponent behind its mark. -/
def scanExponent? (mantissa : Mantissa) (source : List Char) : Option (Binary64 × List Char) := do
  let (positive, source) := match source with
    | '+' :: rest => (true, rest)
    | '-' :: rest => (false, rest)
    | source => (true, source)
  let digits := source.takeWhile Char.isDigit
  if digits = [] then none
  let number ← mantissa.withExponent? positive (Digits.value digits)
  return (number, source.dropWhile Char.isDigit)

/-- Reads the exponent if its mark follows. -/
def scanOptionalExponent? (mantissa : Mantissa) : List Char → Option (Binary64 × List Char)
  | 'e' :: rest => scanExponent? mantissa rest
  | 'E' :: rest => scanExponent? mantissa rest
  | source => (mantissa.float? mantissa.exponent).map fun number => (number, source)

/-- Reads the digits behind the point; those that no longer fit the significand are dropped. -/
def scanFraction? (mantissa : Mantissa) (source : List Char) : Option (Binary64 × List Char) := do
  let _ ← digit? source
  let (significand, count, rest) := takeDigits mantissa.significand 0 source
  scanOptionalExponent? ⟨mantissa.negative, significand, mantissa.exponent - count⟩
    (rest.dropWhile Char.isDigit)

/-- Reads what follows the whole digits of a numeral that is no integer of sixty-four bits. -/
def scanBehindWhole? (mantissa : Mantissa) : List Char → Option (Binary64 × List Char)
  | '.' :: rest => scanFraction? mantissa rest
  | source => scanOptionalExponent? mantissa source

/-- The integer of a numeral without point and exponent. Negative zero, and what is below the least
signed word, are double precision numbers. -/
def ofWhole (negative : Bool) (significand : Nat) (fits : significand < 2 ^ 64) : Json :=
  if negative then
    if bounds : 0 < significand ∧ significand ≤ 2 ^ 63 then
      .integer (-significand) (by omega) (by omega)
    else ofFloat (.neg (.ofInt significand))
  else .integer significand (by omega) (by omega)

/-- A numeral ends, or goes on with a point or an exponent. -/
def endsNumeral : List Char → Bool
  | char :: _ => char != '.' && char != 'e' && char != 'E'
  | [] => true

/-- Reads a numeral behind its sign. A zero at the front stands alone before the point. -/
def scanMagnitude? (negative : Bool) (source : List Char) : Option (Json × List Char) := do
  let (first, behind) ← digit? source
  if first = 0 ∧ (digit? behind).isSome then none
  let (significand, _, rest) := takeDigits 0 0 source
  let further := rest.takeWhile Char.isDigit
  let rest := rest.dropWhile Char.isDigit
  if complete : further = [] ∧ endsNumeral rest ∧ significand < 2 ^ 64 then
    return (ofWhole negative significand complete.2.2, rest)
  else
    let (number, rest) ← scanBehindWhole? ⟨negative, significand, further.length⟩ rest
    return (ofFloat number, rest)

/-- Reads a numeral. -/
def scanNumeral? : List Char → Option (Json × List Char)
  | '-' :: rest => scanMagnitude? true rest
  | source => scanMagnitude? false source

end Json

end TwinStore
