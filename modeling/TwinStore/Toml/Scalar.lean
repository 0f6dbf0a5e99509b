/-
**Bare values of TOML.** Numbers, truth values, dates and times.

* `Toml.scanScalar?` reads the bare value at the front of a text.
* `Toml.integerOf?` keeps to the ranges of a signed and an unsigned word of 128 bits.
* `Toml.floatOf?` keeps to the range of double precision numbers.
* `Toml.isMoment` says which spellings denote dates and times.
-/

import TwinStore.Binary64.Rounding
import TwinStore.Calendar.Date
import TwinStore.Decimal.Text
import TwinStore.Text.Digits
import TwinStore.Text.Hex
import TwinStore.Toml.Basic

namespace TwinStore.Toml

/-! ### Numbers -/

/-- Digits of one class without the single underscores between them. -/
def digitRun? (isDigit : Char → Bool) : List Char → Option (List Char)
  | [] => none
  | [char] => if isDigit char then some [char] else none
  | char :: '_' :: rest =>
    if isDigit char then (digitRun? isDigit rest).map (char :: ·) else none
  | char :: rest => if isDigit char then (digitRun? isDigit rest).map (char :: ·) else none

/-- The digits of a whole number; a leading zero stands alone. -/
def wholeDigits? (source : List Char) : Option (List Char) :=
  (digitRun? Char.isDigit source).filter fun digits => digits = ['0'] ∨ digits.head? ≠ some '0'

/-- The text behind a sign. -/
def unsigned : List Char → List Char
  | '+' :: rest => rest
  | '-' :: rest => rest
  | source => source

/-- The number that digits of a base denote. -/
def valueOfDigits? (base : Nat) (source : List Char) : Option Nat := do
  let isDigit (char : Char) : Bool := (Hex.digitValue? char).any (· < base)
  let digits ← digitRun? isDigit source
  return digits.foldl (fun value char => value * base + (Hex.digitValue? char).getD 0) (0 : Nat)

/-- The integer of a spelling, whatever its size. -/
def wholeOf? : List Char → Option Int
  | '0' :: 'x' :: rest => (valueOfDigits? 16 rest).map fun value => (value : Int)
  | '0' :: 'o' :: rest => (valueOfDigits? 8 rest).map fun value => (value : Int)
  | '0' :: 'b' :: rest => (valueOfDigits? 2 rest).map fun value => (value : Int)
  | '-' :: rest => (wholeDigits? rest).map fun digits => -(Digits.value digits : Int)
  | source => (wholeDigits? (unsigned source)).map fun digits => (Digits.value digits : Int)

/-- The integer of a spelling, if it fits a signed or an unsigned word of 128 bits. -/
def integerOf? (source : List Char) : Option Int :=
  (wholeOf? source).filter fun value => -2 ^ 127 ≤ value ∧ value < 2 ^ 128

/-- The text is an exponent and nothing else. -/
def isExponent : List Char → Bool
  | mark :: rest =>
    (mark == 'e' || mark == 'E') && (digitRun? Char.isDigit (unsigned rest)).isSome
  | [] => false

/-- The text is a fraction, with or without an exponent, or an exponent. -/
def isFraction : List Char → Bool
  | '.' :: rest =>
    let (digits, rest) := rest.span fun char => char.isDigit || char == '_'
    (digitRun? Char.isDigit digits).isSome && (rest.isEmpty || isExponent rest)
  | rest => isExponent rest

/-- The text spells a number by digits with a fraction, an exponent or both. -/
def isFloat (source : List Char) : Bool :=
  let (digits, rest) := (unsigned source).span fun char => char.isDigit || char == '_'
  (wholeDigits? digits).isSome && isFraction rest

/-- The double precision number of a spelling. The infinite ones are only spelled by name. -/
def floatOf? (source : List Char) : Option Binary64 :=
  if unsigned source = ['n', 'a', 'n'] then some .nan
  else if unsigned source = ['i', 'n', 'f'] then some (.infinity (source.head? == some '-'))
  else if isFloat source then
    ((Decimal.spelled? (source.filter (· ≠ '_'))).map .ofDecimal).filter Binary64.isFinite
  else none

/-! ### Dates and times -/

/-- The number that two digits at the front of a text denote. -/
def twoDigits? : List Char → Option (Nat × List Char)
  | first :: second :: rest => do
    let value ← Digits.natural? [first, second]
    return (value, rest)
  | _ => none

/-- What follows a date that exists. -/
def behindDate? : List Char → Option (List Char)
  | first :: second :: third :: fourth :: '-' :: rest => do
    let year ← Digits.natural? [first, second, third, fourth]
    let (month, rest) ← twoDigits? rest
    match rest with
    | '-' :: rest =>
      let (day, rest) ← twoDigits? rest
      if IsDay year month day then return rest else none
    | _ => none
  | _ => none

/-- What follows an hour and a minute that exist. -/
def behindMinute? (source : List Char) : Option (List Char) := do
  let (hour, rest) ← twoDigits? source
  match rest with
  | ':' :: rest =>
    let (minute, rest) ← twoDigits? rest
    if hour < 24 ∧ minute < 60 then return rest else none
  | _ => none

/-- What follows a time of day that exists; it may end with the minute, and its last second may be a
leap second. -/
def behindTime? (source : List Char) : Option (List Char) := do
  match ← behindMinute? source with
  | ':' :: rest =>
    let (second, rest) ← twoDigits? rest
    if second ≤ 60 then
      match rest with
      | '.' :: rest =>
        let (digits, rest) := rest.span Char.isDigit
        if digits = [] then none else return rest
      | rest => return rest
    else none
  | rest => return rest

/-- The text is empty or the distance from universal time. -/
def isOffset : List Char → Bool
  | [] => true
  | ['Z'] => true
  | ['z'] => true
  | '+' :: rest => behindMinute? rest == some []
  | '-' :: rest => behindMinute? rest == some []
  | _ => false

/-- The text spells a date, a time of day, or both with or without the distance from universal
time. -/
def isMoment (source : List Char) : Bool :=
  match behindDate? source with
  | none => behindTime? source == some []
  | some [] => true
  | some (mark :: rest) =>
    (mark == 'T' || mark == 't' || mark == ' ') && (behindTime? rest).any isOffset

/-! ### Reading -/

/-- The character may stand in a bare value. -/
def isScalarChar (char : Char) : Bool :=
  char.isAlphanum || char == '+' || char == '-' || char == '_' || char == '.' || char == ':'

/-- The spelling of the bare value at the front of a text; a blank may part a date from a time. -/
def scanSpelling (source : List Char) : List Char × List Char :=
  match source.span isScalarChar with
  | (date, ' ' :: digit :: rest) =>
    if behindDate? date = some [] ∧ digit.isDigit then
      let (time, rest) := rest.span isScalarChar
      (date ++ ' ' :: digit :: time, rest)
    else (date, ' ' :: digit :: rest)
  | spelling => spelling

/-- The value of a spelling. -/
def scalarOf? (spelling : List Char) : Option Toml :=
  if spelling = ['t', 'r', 'u', 'e'] then some (.boolean true)
  else if spelling = ['f', 'a', 'l', 's', 'e'] then some (.boolean false)
  else
    match integerOf? spelling, floatOf? spelling with
    | some value, _ => some (.integer value)
    | none, some value => some (.float value)
    | none, none =>
      if isMoment spelling then some (.moment (String.ofList spelling)) else none

/-- Reads the bare value at the front of a text. -/
def scanScalar? (source : List Char) : Option (Toml × List Char) :=
  let (spelling, rest) := scanSpelling source
  (scalarOf? spelling).map fun value => (value, rest)

end TwinStore.Toml
