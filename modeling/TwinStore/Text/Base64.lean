/-
**Base64 text.** The standard alphabet with padding: three bytes are four characters.

* `Base64.encode` writes canonical text: padding to a multiple of four, unused bits zero.
* `Base64.decode?` accepts exactly canonical text: no blanks, no missing padding, no stray bits.
-/

namespace TwinStore.Base64

/-- The character of a number below sixty-four. -/
def sextet (value : Nat) : Char :=
  if value < 26 then Char.ofNat ('A'.toNat + value)
  else if value < 52 then Char.ofNat ('a'.toNat + (value - 26))
  else if value < 62 then Char.ofNat ('0'.toNat + (value - 52))
  else if value = 62 then '+'
  else '/'

/-- The number that a character of the alphabet denotes. -/
def sextetValue? (char : Char) : Option Nat :=
  if 'A' ≤ char ∧ char ≤ 'Z' then some (char.toNat - 'A'.toNat)
  else if 'a' ≤ char ∧ char ≤ 'z' then some (char.toNat - 'a'.toNat + 26)
  else if '0' ≤ char ∧ char ≤ '9' then some (char.toNat - '0'.toNat + 52)
  else if char = '+' then some 62
  else if char = '/' then some 63
  else none

/-- Three bytes become four characters; one or two left over are padded. -/
def encode : List UInt8 → List Char
  | first :: second :: third :: rest =>
    let group := first.toNat * 65536 + second.toNat * 256 + third.toNat
    sextet (group / 262144) :: sextet (group / 4096 % 64) :: sextet (group / 64 % 64) ::
      sextet (group % 64) :: encode rest
  | [first, second] =>
    let group := first.toNat * 1024 + second.toNat * 4
    [sextet (group / 4096), sextet (group / 64 % 64), sextet (group % 64), '=']
  | [first] =>
    let group := first.toNat * 16
    [sextet (group / 64), sextet (group % 64), '=', '=']
  | [] => []

/-- The byte of a final group of two characters, whose last four bits are zero. -/
def decodeOne? (first second : Char) : Option (List UInt8) := do
  let group := (← sextetValue? first) * 64 + (← sextetValue? second)
  if group % 16 = 0 then some [UInt8.ofNat (group / 16)] else none

/-- The bytes of a final group of three characters, whose last two bits are zero. -/
def decodeTwo? (first second third : Char) : Option (List UInt8) := do
  let group :=
    ((← sextetValue? first) * 64 + (← sextetValue? second)) * 64 + (← sextetValue? third)
  if group % 4 = 0 then some [UInt8.ofNat (group / 1024), UInt8.ofNat (group / 4 % 256)] else none

/-- The bytes of a full group of four characters. -/
def decodeThree? (first second third fourth : Char) : Option (List UInt8) := do
  let upper := (← sextetValue? first) * 64 + (← sextetValue? second)
  let lower := (← sextetValue? third) * 64 + (← sextetValue? fourth)
  let group := upper * 4096 + lower
  return [UInt8.ofNat (group / 65536), UInt8.ofNat (group / 256 % 256), UInt8.ofNat (group % 256)]

/-- Reads canonical text; padding may stand only at its end. -/
def decode? : List Char → Option (List UInt8)
  | [] => some []
  | [first, second, '=', '='] => decodeOne? first second
  | [first, second, third, '='] => decodeTwo? first second third
  | first :: second :: third :: fourth :: rest => do
    return (← decodeThree? first second third fourth) ++ (← decode? rest)
  | _ => none

end TwinStore.Base64
