/-
**Hexadecimal text.** Bytes as pairs of lower-case hexadecimal digits.

* `Hex.encode` writes two digits per byte, `Hex.decode?` reads them back in either letter case.
-/

namespace TwinStore.Hex

/-- The digit of a number below sixteen. -/
def digit (value : Nat) : Char := Nat.digitChar value

/-- The number that a hexadecimal digit denotes. -/
def digitValue? (char : Char) : Option Nat :=
  if '0' ≤ char ∧ char ≤ '9' then some (char.toNat - '0'.toNat)
  else if 'a' ≤ char ∧ char ≤ 'f' then some (char.toNat - 'a'.toNat + 10)
  else if 'A' ≤ char ∧ char ≤ 'F' then some (char.toNat - 'A'.toNat + 10)
  else none

/-- Two digits per byte, the high half first. -/
def encode (bytes : List UInt8) : List Char :=
  bytes.flatMap fun byte => [digit (byte.toNat / 16), digit (byte.toNat % 16)]

/-- Reads an even number of hexadecimal digits as bytes. -/
def decode? : List Char → Option (List UInt8)
  | [] => some []
  | [_] => none
  | high :: low :: rest => do
    let upper ← digitValue? high
    let lower ← digitValue? low
    let bytes ← decode? rest
    return UInt8.ofNat (16 * upper + lower) :: bytes

end TwinStore.Hex
