/-
**Calendar components.** Dates and times of day as fourteen bytes, whose order byte by byte is the
chronological one.

* `CalendarComponents.bytes` writes a flag for each part that is there, the year with its sign bit
  flipped, then month, day, hour, minute, second and nanosecond; a part that is absent is zero.
* `CalendarComponents.ofBytes` reads them back and drops a part whose fields form no date or time.
-/

import TwinStore.Unsupported
import TwinStore.Value.Basic

namespace TwinStore

/-- A date, a time, both or neither. -/
structure CalendarComponents where
  date : Option Date
  time : Option TimeOfDay
  deriving DecidableEq

namespace CalendarComponents

def ofDate (date : Date) : CalendarComponents := ⟨some date, none⟩

def ofTime (time : TimeOfDay) : CalendarComponents := ⟨none, some time⟩

/-- Four bytes of a number, the highest first. -/
def fourBytes (value : Nat) : List UInt8 :=
  [.ofNat (value / 2 ^ 24), .ofNat (value / 2 ^ 16), .ofNat (value / 2 ^ 8), .ofNat value]

/-- The number of four bytes, the highest first. -/
def ofFourBytes (first second third fourth : UInt8) : Nat :=
  ((first.toNat * 256 + second.toNat) * 256 + third.toNat) * 256 + fourth.toNat

/-- The six bytes of a date; years are counted from the least year of thirty-two bits. -/
def dateBytes : Option Date → List UInt8
  | some date => fourBytes (date.year + 2 ^ 31).toNat ++ [.ofNat date.month, .ofNat date.day]
  | none => List.replicate 6 0

def timeBytes : Option TimeOfDay → List UInt8
  | some time =>
    [.ofNat time.hour, .ofNat time.minute, .ofNat time.second] ++ fourBytes time.nanosecond
  | none => List.replicate 7 0

/-- The flags of the parts that are there: one for a date, two for a time. -/
def flags (components : CalendarComponents) : UInt8 :=
  (if components.date.isSome then 1 else 0) + (if components.time.isSome then 2 else 0)

def bytes (components : CalendarComponents) : List UInt8 :=
  components.flags :: (dateBytes components.date ++ timeBytes components.time)

/-- Reads fourteen bytes. -/
def ofBytes : List UInt8 → Except Unsupported CalendarComponents
  | [flags, year1, year2, year3, year4, month, day, hour, minute, second, nano1, nano2, nano3,
      nano4] =>
    let year := (ofFourBytes year1 year2 year3 year4 : Int) - 2 ^ 31
    let nanosecond := ofFourBytes nano1 nano2 nano3 nano4
    .ok {
      date := if flags.toNat % 2 = 1 then Date.of? year month.toNat day.toNat else none
      time :=
        if flags.toNat / 2 % 2 = 1 then
          TimeOfDay.of? hour.toNat minute.toNat second.toNat nanosecond
        else none }
  | bytes => .error (.calendarLength bytes.length)

/-- The value of the components: the date, or the time if there is no date. -/
def toValue : CalendarComponents → Except Unsupported Value
  | ⟨some date, _⟩ => .ok (.date date)
  | ⟨none, some time⟩ => .ok (.time time)
  | ⟨none, none⟩ => .error .calendarEmpty

end CalendarComponents

end TwinStore
