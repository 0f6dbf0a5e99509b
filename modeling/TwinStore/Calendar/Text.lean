/-
**Calendar text.** How dates, times of day and instants are written, and how dates and times are
read.

* Years from 0 to 9999 have four digits; other years have a sign and at least four.
* Fractions of a second have no, three, six or nine digits, whichever is exact; a leap second is
  second sixty.
* `Date.ofText?` and `TimeOfDay.ofText?` allow blanks before numbers and separators and at the end,
  and shorter numbers.
-/

import TwinStore.Calendar.Date
import TwinStore.Calendar.Instant
import TwinStore.Calendar.TimeOfDay
import TwinStore.Text.Blank
import TwinStore.Text.Digits

namespace TwinStore

/-- The text of a year. -/
def yearText (year : Int) : List Char :=
  if 0 ≤ year ∧ year ≤ 9999 then Digits.padded 4 year.natAbs
  else (if year < 0 then '-' else '+') :: Digits.padded 4 year.natAbs

/-- A date as year, month and day, separated by hyphens. -/
def dateText (year : Int) (month day : Nat) : List Char :=
  yearText year ++ '-' :: (Digits.padded 2 month ++ '-' :: Digits.padded 2 day)

/-- A time as hour, minute and second, separated by colons. -/
def clockText (hour minute second : Nat) : List Char :=
  Digits.padded 2 hour ++ ':' :: (Digits.padded 2 minute ++ ':' :: Digits.padded 2 second)

/-- A fraction of a second with the fewest groups of three digits that are exact. -/
def fractionText (nanosecond : Nat) : List Char :=
  if nanosecond = 0 then []
  else if nanosecond % 1000000 = 0 then '.' :: Digits.padded 3 (nanosecond / 1000000)
  else if nanosecond % 1000 = 0 then '.' :: Digits.padded 6 (nanosecond / 1000)
  else '.' :: Digits.padded 9 nanosecond

def Date.chars (date : Date) : List Char := dateText date.year date.month date.day

def Date.text (date : Date) : String := String.ofList date.chars

/-- The characters of a time; the leap second of a minute is its second sixty. -/
def TimeOfDay.chars (time : TimeOfDay) : List Char :=
  let leaps := time.nanosecond / 1000000000
  clockText time.hour time.minute (time.second + leaps) ++
    fractionText (time.nanosecond % 1000000000)

def TimeOfDay.text (time : TimeOfDay) : String := String.ofList time.chars

/-- The date and the time of an instant's second, joined by the letter T. A leap second is the
second sixty of its minute. -/
def Instant.secondChars (instant : Instant) : List Char :=
  let day := Civil.ofDayNumber (instant.seconds / 86400)
  let second := (instant.seconds % 86400).toNat
  let leaps := instant.subsecond / 1000000000
  dateText day.year day.month day.day ++
    'T' :: clockText (second / 3600) (second / 60 % 60) (second % 60 + leaps)

/-- An instant in universal time with three places, what is finer cut off. -/
def Instant.millisecondText (instant : Instant) : String :=
  String.ofList
    (instant.secondChars ++
      '.' :: (Digits.padded 3 (instant.subsecond % 1000000000 / 1000000) ++ ['Z']))

/-- An instant in universal time with as many places as are exact. -/
def Instant.exactText (instant : Instant) : String :=
  String.ofList
    (instant.secondChars ++ fractionText (instant.subsecond % 1000000000) ++ ['Z'])

/-! ### Reading -/

/-- Reads one up to a number of digits, as many as there are, and gives what follows. -/
def scanDigits? (most : Nat) (text : List Char) : Option (Nat × List Char) :=
  let digits := (text.take most).takeWhile Char.isDigit
  if digits = [] then none else some (Digits.value digits, text.drop digits.length)

/-- Reads a number of one or two digits behind blanks. -/
def scanPair? (text : List Char) : Option (Nat × List Char) := scanDigits? 2 (Blank.skip text)

/-- Reads a separator behind blanks. -/
def scanMark? (mark : Char) (text : List Char) : Option (List Char) :=
  match Blank.skip text with
  | first :: rest => if first = mark then some rest else none
  | [] => none

/-- Reads a year behind blanks: up to four digits, or any number of them behind a sign. -/
def scanYear? (text : List Char) : Option (Int × List Char) :=
  match Blank.skip text with
  | '-' :: rest => (scanDigits? rest.length rest).map fun (year, rest) => (-(year : Int), rest)
  | '+' :: rest => (scanDigits? rest.length rest).map fun (year, rest) => ((year : Int), rest)
  | text => (scanDigits? 4 text).map fun (year, rest) => ((year : Int), rest)

/-- Reads a date. -/
def Date.ofChars? (text : List Char) : Option Date := do
  let (year, text) ← scanYear? text
  let text ← scanMark? '-' text
  let (month, text) ← scanPair? text
  let text ← scanMark? '-' text
  let (day, text) ← scanPair? text
  if Blank.skip text = [] then of? year month day else none

def Date.ofText? (text : String) : Option Date := ofChars? text.toList

/-- Reads a fraction of a second behind its point: nine digits count, further ones are dropped. -/
def scanFraction? (text : List Char) : Option (Nat × List Char) :=
  match text with
  | '.' :: rest =>
    (scanDigits? 9 rest).map fun (value, after) =>
      (value * 10 ^ (9 - (rest.length - after.length)), after.dropWhile Char.isDigit)
  | text => some (0, text)

/-- Reads the seconds of a time, if there are any. -/
def scanSeconds? (text : List Char) : Option (Nat × Nat × List Char) := do
  match Blank.skip text with
  | [] => return (0, 0, [])
  | text =>
    let text ← scanMark? ':' text
    let (second, text) ← scanPair? text
    let (nanosecond, text) ← scanFraction? text
    return (second, nanosecond, text)

/-- Reads a time. Second sixty is a leap second. -/
def TimeOfDay.ofChars? (text : List Char) : Option TimeOfDay := do
  let (hour, text) ← scanPair? text
  let text ← scanMark? ':' text
  let (minute, text) ← scanPair? text
  let (second, nanosecond, text) ← scanSeconds? text
  if Blank.skip text ≠ [] then none
  else if second = 60 then of? hour minute 59 (1000000000 + nanosecond)
  else of? hour minute second nanosecond

def TimeOfDay.ofText? (text : String) : Option TimeOfDay := ofChars? text.toList

end TwinStore
