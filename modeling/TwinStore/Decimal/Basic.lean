/-
**Exact decimals.** A decimal is an integer coefficient and a number of decimal places; the places
may be negative, for trailing zeros that are not written out.

* `Decimal.add` keeps the larger number of places, `Decimal.mul` adds them up.
* `Decimal.compare` orders by value, so `1.5` and `1.50` compare as equal.
* `Decimal.toInt?` is the integer a decimal denotes, if it denotes one.
-/

import TwinStore.Text.Digits

namespace TwinStore

/-- The number `coefficient * 10 ^ (-scale)`. -/
structure Decimal where
  coefficient : Int
  scale : Int
  deriving DecidableEq, Inhabited

namespace Decimal

/-- An integer as a decimal without places. -/
def ofInt (value : Int) : Decimal := ⟨value, 0⟩

/-- The coefficient of the same number written with more places. -/
def coefficientAt (number : Decimal) (scale : Int) : Int :=
  number.coefficient * 10 ^ (scale - number.scale).toNat

/-- The order of the numbers' values, whatever their places. -/
def compare (left right : Decimal) : Ordering :=
  let scale := max left.scale right.scale
  Ord.compare (left.coefficientAt scale) (right.coefficientAt scale)

/-- Two decimals denote the same number. -/
def sameValue (left right : Decimal) : Bool := left.compare right == .eq

/-- The sum, with the larger number of places. -/
def add (left right : Decimal) : Decimal :=
  let scale := max left.scale right.scale
  ⟨left.coefficientAt scale + right.coefficientAt scale, scale⟩

/-- The number one, written with at most four places. -/
def isPlainOne (number : Decimal) : Bool :=
  0 ≤ number.scale && number.scale ≤ 4 && number.coefficient == 10 ^ number.scale.toNat

/-- The product, with the places of both factors. A factor that is plainly one leaves the other
as it is written. -/
def mul (left right : Decimal) : Decimal :=
  if left.isPlainOne then right
  else if right.isPlainOne then left
  else ⟨left.coefficient * right.coefficient, left.scale + right.scale⟩

/-- The integer that a decimal denotes, if it denotes one. -/
def toInt? (number : Decimal) : Option Int :=
  if number.scale ≤ 0 then some (number.coefficientAt 0)
  else
    let unit : Int := 10 ^ number.scale.toNat
    if number.coefficient % unit = 0 then some (number.coefficient / unit) else none

/-- An integer is found again in its decimal. -/
@[simp] theorem toInt?_ofInt (value : Int) : (ofInt value).toInt? = some value := by
  simp [toInt?, ofInt, coefficientAt]

end Decimal

end TwinStore
