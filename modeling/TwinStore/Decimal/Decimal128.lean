/-
**Decimal128.** Decimals of at most thirty-four digits with an exponent from `-6176` to `6111`, as
documents store them.

* `Decimal128.fit?` finds the representation of a number without rounding: trailing zeros may move
  between coefficient and exponent, any other digit has to stay.
* `Decimal128.ofDecimal?` and `Decimal128.toDecimal?` convert exact decimals and back.
* `Decimal128.text` and `Decimal128.ofText?` are its own written form.
-/

import TwinStore.Decimal.Text

namespace TwinStore

/-- The number `coefficient * 10 ^ exponent` with its sign, an infinity, or no number at all. -/
inductive Decimal128 where
  | finite (negative : Bool) (coefficient : Nat) (exponent : Int)
      (short : coefficient < 10 ^ 34) (low : -6176 ≤ exponent) (high : exponent ≤ 6111)
  | infinity (negative : Bool)
  | nan
  deriving DecidableEq

namespace Decimal128

/-- A zero, its exponent brought into range. -/
def zero (negative : Bool) (exponent : Int) : Decimal128 :=
  .finite negative 0 (max (-6176) (min 6111 exponent)) (by decide) (by omega) (by omega)

instance : Inhabited Decimal128 := ⟨zero false 0⟩

/-- The number if its parts are in range. -/
def ofParts? (negative : Bool) (coefficient : Nat) (exponent : Int) : Option Decimal128 :=
  if bounds : coefficient < 10 ^ 34 ∧ -6176 ≤ exponent ∧ exponent ≤ 6111 then
    some (.finite negative coefficient exponent bounds.1 bounds.2.1 bounds.2.2)
  else none

/-- Takes trailing zeros off a coefficient; any other digit stays. -/
def dropZeros? (coefficient count : Nat) : Option Nat :=
  if coefficient % 10 ^ count = 0 then some (coefficient / 10 ^ count) else none

/-- The representation of a number without rounding. A coefficient of more than thirty-four digits
and an exponent below the least one lose trailing zeros, an exponent above the greatest one turns
into zeros; an exponent beyond sixteen bits is out of range whatever the coefficient. -/
def fit? (negative : Bool) (coefficient : Nat) (exponent : Int) : Option Decimal128 :=
  if exponent < -2 ^ 15 ∨ 2 ^ 15 ≤ exponent then none
  else if coefficient = 0 then some (zero negative exponent)
  else do
    let excess := (Digits.ofNat coefficient).length - 34
    let cut ← dropZeros? coefficient excess
    let missing := (-6176 - (exponent + excess)).toNat
    let raised ← dropZeros? cut missing
    let least := exponent + excess + missing
    let surplus := (least - 6111).toNat
    ofParts? negative (raised * 10 ^ surplus) (least - surplus)

/-- The representation of an exact decimal. The zeros that its text writes out belong to the
coefficient, and a zero has no places. -/
def ofDecimal? (number : Decimal) : Option Decimal128 :=
  let negative := number.coefficient < 0
  let magnitude := number.coefficient.natAbs
  if magnitude = 0 then some (zero false 0)
  else if number.scale ≤ 0 ∧ -Decimal.trailingZeroLimit ≤ number.scale then
    fit? negative (magnitude * 10 ^ number.scale.natAbs) 0
  else fit? negative magnitude (-number.scale)

/-- The exact decimal of a finite number. -/
def toDecimal? : Decimal128 → Option Decimal
  | .finite negative coefficient exponent .. =>
    some ⟨if negative then -(coefficient : Int) else coefficient, -exponent⟩
  | .infinity _ => none
  | .nan => none

/-- The digits are written plainly down to a millionth, and scientifically for positive exponents
and for smaller numbers. -/
def magnitudeText (coefficient : Nat) (exponent : Int) : List Char :=
  let digits := Digits.ofNat coefficient
  let adjusted := exponent + digits.length - 1
  if exponent ≤ 0 ∧ -6 ≤ adjusted then Decimal.pointed digits exponent.natAbs
  else Decimal.pointedAtFirst digits ++ 'E' :: Digits.withSign adjusted

def text : Decimal128 → String
  | .finite true coefficient exponent .. =>
    String.ofList ('-' :: magnitudeText coefficient exponent)
  | .finite false coefficient exponent .. => String.ofList (magnitudeText coefficient exponent)
  | .infinity true => "-Infinity"
  | .infinity false => "Infinity"
  | .nan => "NaN"

/-- Reads the written form behind its sign, in lower case. -/
def ofUnsignedChars? (negative : Bool) (text : List Char) : Option Decimal128 :=
  if text = "nan".toList ∨ text = "snan".toList then some .nan
  else if text = "inf".toList ∨ text = "infinity".toList then some (.infinity negative)
  else do
    let base := text.takeWhile (· != 'e')
    let exponent ← Decimal.readExponent? (text.dropWhile (· != 'e'))
    if exponent < -2 ^ 15 ∨ 2 ^ 15 ≤ exponent then none
    let places := (base.dropWhile (· != '.')).drop 1
    let coefficient ← Digits.natural? (base.takeWhile (· != '.') ++ places)
    fit? negative coefficient (exponent - places.length)

/-- Reads the written form, in any letter case. -/
def ofText? (text : String) : Option Decimal128 :=
  match text.toList.map Char.toLower with
  | '-' :: rest => ofUnsignedChars? true rest
  | '+' :: rest => ofUnsignedChars? false rest
  | rest => ofUnsignedChars? false rest

/-- The number that 128 stored bits denote. A coefficient that is too large reads as zero, and so
does every number of the form that only holds such coefficients. -/
def ofBits (bits : Nat) : Decimal128 :=
  let negative := bits / 2 ^ 127 % 2 == 1
  let combination := bits / 2 ^ 122 % 32
  if combination = 31 then .nan
  else if combination = 30 then .infinity negative
  else if combination / 8 = 3 then zero negative (bits / 2 ^ 111 % 2 ^ 14 - 6176 : Int)
  else
    let exponent : Int := (bits / 2 ^ 113 % 2 ^ 14 : Nat) - 6176
    (ofParts? negative (bits % 2 ^ 113) exponent).getD (zero negative exponent)

end Decimal128

end TwinStore
