/-
**Double precision numbers.** A number of sixty-four bits: a sign, eleven exponent bits and
fifty-two fraction bits. Every operation is stated on the bits, so nothing is lost between storing a
number and reading it back.

* `Binary64.equal` is numeric equality: the two zeros are equal, and what is not a number equals
  nothing.
* `Binary64.compare?` orders the numbers that are numbers.
* `equal_iff_compare`: equality is the order's equality.
-/

import TwinStore.Text.Digits

namespace TwinStore

/-- A double precision number, held by its bits. -/
structure Binary64 where
  bits : UInt64
  deriving DecidableEq, Inhabited

namespace Binary64

/-- The sign bit is set. -/
def isNegative (number : Binary64) : Bool := 2 ^ 63 ≤ number.bits.toNat

/-- All bits but the sign. Their order is the order of the absolute values. -/
def magnitudeBits (number : Binary64) : Nat := number.bits.toNat % 2 ^ 63

def exponentBits (number : Binary64) : Nat := number.magnitudeBits / 2 ^ 52

def fractionBits (number : Binary64) : Nat := number.magnitudeBits % 2 ^ 52

/-- The bits of infinity; more than these make no number. -/
def infinityBits : Nat := 2047 * 2 ^ 52

def isFinite (number : Binary64) : Bool := number.magnitudeBits < infinityBits

def isNaN (number : Binary64) : Bool := infinityBits < number.magnitudeBits

def isInfinite (number : Binary64) : Bool := number.magnitudeBits == infinityBits

def isZero (number : Binary64) : Bool := number.magnitudeBits == 0

/-- The number of a sign and the bits below it. -/
def ofMagnitude (negative : Bool) (magnitude : Nat) : Binary64 :=
  ⟨UInt64.ofNat ((if negative then 2 ^ 63 else 0) + magnitude)⟩

def zero (negative : Bool) : Binary64 := ofMagnitude negative 0

def infinity (negative : Bool) : Binary64 := ofMagnitude negative infinityBits

/-- The result of an operation that has none. -/
def nan : Binary64 := ⟨0x7ff8000000000000⟩

/-- The integer that a finite number multiplies by a power of two. -/
def significand (number : Binary64) : Nat :=
  if number.exponentBits = 0 then number.fractionBits else 2 ^ 52 + number.fractionBits

/-- The exponent of that power of two. -/
def exponent (number : Binary64) : Int := (max 1 number.exponentBits : Nat) - 1075

/-- The place of a number in the order of numbers; the two zeros share one. -/
def rank (number : Binary64) : Int :=
  if number.isNegative then -(number.magnitudeBits : Int) else number.magnitudeBits

/-- The order of two numbers, if both are numbers. -/
def compare? (left right : Binary64) : Option Ordering :=
  if left.isNaN || right.isNaN then none else some (Ord.compare left.rank right.rank)

/-- Numeric equality. -/
def equal (left right : Binary64) : Bool :=
  !left.isNaN && !right.isNaN && left.rank == right.rank

/-- Equality is the order's equality. -/
theorem equal_iff_compare (left right : Binary64) :
    left.equal right = true ↔ left.compare? right = some .eq := by
  unfold equal compare?
  cases left.isNaN <;> cases right.isNaN <;> simp

end Binary64

end TwinStore
