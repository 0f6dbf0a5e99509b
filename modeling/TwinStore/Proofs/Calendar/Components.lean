/-
**Calendar bytes hold the components.** Reading the fourteen bytes gives back the date and the time
that were written, and neither where neither was.

* `ofFourBytes_fourBytes`: four bytes hold every number of thirty-two bits.
* `ofBytes_bytes`: no component is too large for its byte, so reading undoes writing.
-/

import TwinStore.Calendar.Components
import TwinStore.Proofs.Calendar.Text

namespace TwinStore.CalendarComponents

/-- A byte holds every number below 256. -/
theorem toNat_byte {number : Nat} (small : number < 256) : (UInt8.ofNat number).toNat = number := by
  rw [UInt8.toNat_ofNat']
  exact Nat.mod_eq_of_lt small

/-- Four bytes hold every number of thirty-two bits. -/
theorem ofFourBytes_fourBytes {number : Nat} (small : number < 2 ^ 32) :
    ofFourBytes (.ofNat (number / 2 ^ 24)) (.ofNat (number / 2 ^ 16)) (.ofNat (number / 2 ^ 8))
      (.ofNat number) = number := by
  simp only [ofFourBytes, UInt8.toNat_ofNat']
  omega

theorem flags_date (components : CalendarComponents) :
    components.flags.toNat % 2 = 1 ↔ components.date.isSome = true := by
  unfold flags
  generalize components.date.isSome = dated
  generalize components.time.isSome = timed
  cases dated <;> cases timed <;> decide

theorem flags_time (components : CalendarComponents) :
    components.flags.toNat / 2 % 2 = 1 ↔ components.time.isSome = true := by
  unfold flags
  generalize components.date.isSome = dated
  generalize components.time.isSome = timed
  cases dated <;> cases timed <;> decide

/-- The components of a date are found again in its bytes. -/
theorem readDate_bytes (date : Date) :
    Date.of?
        ((ofFourBytes (.ofNat ((date.year + 2 ^ 31).toNat / 2 ^ 24))
          (.ofNat ((date.year + 2 ^ 31).toNat / 2 ^ 16))
          (.ofNat ((date.year + 2 ^ 31).toNat / 2 ^ 8)) (.ofNat (date.year + 2 ^ 31).toNat) : Int)
          - 2 ^ 31)
        (UInt8.ofNat date.month).toNat (UInt8.ofNat date.day).toNat = some date := by
  obtain ⟨fewMonths, fewDays⟩ := date.bounds
  obtain ⟨low, high, _, _⟩ := date.isDay
  have year : (((date.year + 2 ^ 31).toNat : Nat) : Int) - 2 ^ 31 = date.year := by omega
  rw [ofFourBytes_fourBytes (by omega), toNat_byte (by omega), toNat_byte (by omega), year]
  exact Date.of?_components date

theorem readTime_bytes (time : TimeOfDay) :
    TimeOfDay.of? (UInt8.ofNat time.hour).toNat (UInt8.ofNat time.minute).toNat
        (UInt8.ofNat time.second).toNat
        (ofFourBytes (.ofNat (time.nanosecond / 2 ^ 24)) (.ofNat (time.nanosecond / 2 ^ 16))
          (.ofNat (time.nanosecond / 2 ^ 8)) (.ofNat time.nanosecond)) = some time := by
  obtain ⟨hour, minute, second, nanosecond, _⟩ := time.isTime
  rw [ofFourBytes_fourBytes (by omega), toNat_byte (by omega), toNat_byte (by omega),
    toNat_byte (by omega)]
  exact TimeOfDay.of?_components time

/-- **Reading the bytes gives the components back.** -/
@[simp] theorem ofBytes_bytes (components : CalendarComponents) :
    ofBytes components.bytes = .ok components := by
  have dated := components.flags_date
  have timed := components.flags_time
  obtain ⟨date, time⟩ := components
  cases date with
  | none =>
    cases time with
    | none => simp_all [bytes, dateBytes, timeBytes, ofBytes, List.replicate]
    | some time =>
      have read := readTime_bytes time
      simp_all [bytes, dateBytes, timeBytes, fourBytes, ofBytes, List.replicate]
  | some date =>
    have readDate := readDate_bytes date
    cases time with
    | none => simp_all [bytes, dateBytes, timeBytes, fourBytes, ofBytes, List.replicate]
    | some time =>
      have readTime := readTime_bytes time
      simp_all [bytes, dateBytes, timeBytes, fourBytes, ofBytes]

end TwinStore.CalendarComponents
