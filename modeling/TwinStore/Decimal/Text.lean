/-
**Decimal text.** How exact decimals are written and read.

* `Decimal.text` writes all digits and keeps trailing zeros after the point. Many zeros between the
  point and the first digit turn into a negative exponent, many trailing zeros before the point
  into a positive one.
* `Decimal.ofText?` reads an optional sign, digits with at most one point, and an optional exponent.
-/

import TwinStore.Decimal.Basic
import TwinStore.Text.Digits

namespace TwinStore.Decimal

/-- Digits with a point before the last `places` of them, and zeros where digits are missing. -/
def pointed (digits : List Char) (places : Nat) : List Char :=
  if places = 0 then digits
  else if places < digits.length then
    digits.take (digits.length - places) ++ '.' :: digits.drop (digits.length - places)
  else '0' :: '.' :: (List.replicate (places - digits.length) '0' ++ digits)

/-- Digits with a point behind the first one, if others follow it. -/
def pointedAtFirst : List Char → List Char
  | first :: second :: rest => first :: '.' :: second :: rest
  | digits => digits

/-- The most zeros written between the point and the first digit. -/
def leadingZeroLimit : Int := 5

/-- The most zeros written for negative places. -/
def trailingZeroLimit : Int := 15

/-- The text of a positive coefficient at the given number of places. -/
def magnitudeText (magnitude : Nat) (scale : Int) : List Char :=
  let digits := Digits.ofNat magnitude
  if scale > digits.length + leadingZeroLimit then
    pointedAtFirst digits ++ 'E' :: Digits.ofInt (digits.length - 1 - scale)
  else if scale < -trailingZeroLimit then
    digits ++ 'e' :: Digits.withSign (-scale)
  else if scale < 0 then digits ++ List.replicate scale.natAbs '0'
  else pointed digits scale.toNat

/-- The characters of a decimal's text; zero is written as one digit whatever its places. -/
def chars (number : Decimal) : List Char :=
  if number.coefficient = 0 then ['0']
  else
    let magnitude := magnitudeText number.coefficient.natAbs number.scale
    if number.coefficient < 0 then '-' :: magnitude else magnitude

def text (number : Decimal) : String := String.ofList number.chars

/-- Starts the exponent of a decimal. -/
def isExponentMark (char : Char) : Bool := char == 'e' || char == 'E'

/-- The exponent behind the mark, zero without a mark. -/
def readExponent? : List Char → Option Int
  | [] => some 0
  | _ :: digits => Digits.integer? digits

/-- The decimal that a text spells. The point is taken out of the digits; the places are the
characters behind it less the exponent. -/
def spelled? (text : List Char) : Option Decimal := do
  let base := text.takeWhile (!isExponentMark ·)
  let exponent ← readExponent? (text.dropWhile (!isExponentMark ·))
  let places := (base.dropWhile (· != '.')).drop 1
  let coefficient ← Digits.integer? (base.takeWhile (· != '.') ++ places)
  return ⟨coefficient, places.length - exponent⟩

/-- Reads a decimal, whose places have to fit a signed word. -/
def ofChars? (text : List Char) : Option Decimal :=
  (spelled? text).filter fun number => -2 ^ 63 ≤ number.scale ∧ number.scale < 2 ^ 63

/-- Reads a decimal from a text. -/
def ofText? (text : String) : Option Decimal := ofChars? text.toList

end TwinStore.Decimal
