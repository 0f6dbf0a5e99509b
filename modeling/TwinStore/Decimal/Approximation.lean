/-
**Decimals in double precision.** A decimal with places behind the point is rounded once, to the
nearest number. One that ends in zeros which are not written out is its rounded coefficient times a
power of ten. That power is found by squaring with a rounding at every product, so beyond the powers
that are exact the result may miss the nearest number by a few units in the last place.

* `Binary64.power` is a power by squaring.
* `Decimal.toFloat` is the number that stands for a decimal.
-/

import TwinStore.Binary64.Rounding

namespace TwinStore

/-- A power by repeated squaring: the squares at the places of the exponent's bits are multiplied,
the lowest one first. -/
def Binary64.power (base : Binary64) (exponent : Nat) : Binary64 :=
  let places := List.range (exponent.log2 + 1)
  (places.foldl (fun (product, square) place =>
    (if exponent.testBit place then product.mul square else product, square.mul square))
    (ofInt 1, base)).1

/-- The double precision number that stands for a decimal; beyond the range it is infinite. -/
def Decimal.toFloat (number : Decimal) : Binary64 :=
  if 0 ≤ number.scale ∨ number.coefficient = 0 then .ofDecimal number
  else (Binary64.ofInt number.coefficient).mul (Binary64.power (.ofInt 10) number.scale.natAbs)

end TwinStore
