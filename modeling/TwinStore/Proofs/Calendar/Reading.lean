/-
**What calendar bytes hold.** Any bytes may be read, also such that were never written.

* `HoldsDate` and `HoldsTime`: the flag of the part is set, and its bytes are those that the date or
  the time is written as.
* `fourBytes_ofFourBytes`: any four bytes are those of their number.
* `date_of_ofBytes` and `time_of_ofBytes`: exactly these parts are read.
* `ofBytes_ok_iff`: only a wrong number of bytes cannot be read at all.
-/

import TwinStore.Proofs.Calendar.Components
import TwinStore.Proofs.Result

namespace TwinStore

theorem Date.of?_eq_some {year : Int} {month day : Nat} {date : Date} :
    of? year month day = some date ↔ date.year = year ∧ date.month = month ∧ date.day = day := by
  constructor
  · intro found
    obtain ⟨isDay, same⟩ := Option.dite_none_right_eq_some.mp found
    cases same
    exact ⟨rfl, rfl, rfl⟩
  · rintro ⟨rfl, rfl, rfl⟩
    exact of?_components date

theorem TimeOfDay.of?_eq_some {hour minute second nanosecond : Nat} {time : TimeOfDay} :
    of? hour minute second nanosecond = some time ↔ time.hour = hour ∧ time.minute = minute ∧
      time.second = second ∧ time.nanosecond = nanosecond := by
  constructor
  · intro found
    obtain ⟨isTime, same⟩ := Option.dite_none_right_eq_some.mp found
    cases same
    exact ⟨rfl, rfl, rfl, rfl⟩
  · rintro ⟨rfl, rfl, rfl, rfl⟩
    exact of?_components time

namespace CalendarComponents

/-- Behind the flags, that of a date among them, stand the bytes of the date and seven more. -/
def HoldsDate (bytes : List UInt8) (date : Date) : Prop :=
  ∃ flags behind, bytes = flags :: (dateBytes (some date) ++ behind) ∧ behind.length = 7 ∧
    flags.toNat % 2 = 1

/-- Behind the flags, that of a time among them, stand six bytes and those of the time. -/
def HoldsTime (bytes : List UInt8) (time : TimeOfDay) : Prop :=
  ∃ flags before, bytes = flags :: (before ++ timeBytes (some time)) ∧ before.length = 6 ∧
    flags.toNat / 2 % 2 = 1

theorem length_dateBytes (date : Option Date) : (dateBytes date).length = 6 := by
  cases date <;> rfl

theorem length_timeBytes (time : Option TimeOfDay) : (timeBytes time).length = 7 := by
  cases time <;> rfl

theorem HoldsDate.length {bytes : List UInt8} {date : Date} (held : HoldsDate bytes date) :
    bytes.length = 14 := by
  obtain ⟨flags, behind, rfl, seven, _⟩ := held
  rw [List.length_cons, List.length_append, length_dateBytes, seven]

theorem HoldsTime.length {bytes : List UInt8} {time : TimeOfDay} (held : HoldsTime bytes time) :
    bytes.length = 14 := by
  obtain ⟨flags, before, rfl, six, _⟩ := held
  rw [List.length_cons, List.length_append, length_timeBytes, six]

/-- **Four bytes are those of their number.** -/
theorem fourBytes_ofFourBytes (first second third fourth : UInt8) :
    fourBytes (ofFourBytes first second third fourth) = [first, second, third, fourth] := by
  have one := first.toNat_lt
  have two := second.toNat_lt
  have three := third.toNat_lt
  have four := fourth.toNat_lt
  simp only [fourBytes, ofFourBytes, List.cons.injEq, and_true, ← UInt8.toNat_inj,
    UInt8.toNat_ofNat']
  omega

theorem eq_of_length_seven {bytes : List UInt8} (seven : bytes.length = 7) :
    ∃ hour minute second nano1 nano2 nano3 nano4,
      bytes = [hour, minute, second, nano1, nano2, nano3, nano4] := by
  match bytes, seven with
  | [hour, minute, second, nano1, nano2, nano3, nano4], _ =>
    exact ⟨hour, minute, second, nano1, nano2, nano3, nano4, rfl⟩

theorem eq_of_length_six {bytes : List UInt8} (six : bytes.length = 6) :
    ∃ year1 year2 year3 year4 month day, bytes = [year1, year2, year3, year4, month, day] := by
  match bytes, six with
  | [year1, year2, year3, year4, month, day], _ =>
    exact ⟨year1, year2, year3, year4, month, day, rfl⟩

/-- **Exactly a date that the bytes hold is read.** -/
theorem date_of_ofBytes {bytes : List UInt8} {components : CalendarComponents}
    (read : ofBytes bytes = .ok components) (date : Date) :
    components.date = some date ↔ HoldsDate bytes date := by
  constructor
  · intro found
    unfold ofBytes at read
    split at read
    · next flags year1 year2 year3 year4 month day hour minute second nano1 nano2 nano3 nano4 =>
      cases read
      obtain ⟨flagged, dated⟩ := Option.ite_none_right_eq_some.mp found
      obtain ⟨year, monthly, daily⟩ := Date.of?_eq_some.mp dated
      refine ⟨flags, [hour, minute, second, nano1, nano2, nano3, nano4], ?_, rfl, flagged⟩
      have number : (date.year + 2 ^ 31).toNat = ofFourBytes year1 year2 year3 year4 := by
        rw [year]
        omega
      rw [dateBytes, number, fourBytes_ofFourBytes, monthly, daily, UInt8.ofNat_toNat,
        UInt8.ofNat_toNat]
      rfl
    · cases read
  · rintro ⟨flags, behind, rfl, seven, flagged⟩
    obtain ⟨hour, minute, second, nano1, nano2, nano3, nano4, rfl⟩ := eq_of_length_seven seven
    cases read
    show (if flags.toNat % 2 = 1 then _ else none) = _
    rw [if_pos flagged]
    exact readDate_bytes date

/-- **Exactly a time that the bytes hold is read.** -/
theorem time_of_ofBytes {bytes : List UInt8} {components : CalendarComponents}
    (read : ofBytes bytes = .ok components) (time : TimeOfDay) :
    components.time = some time ↔ HoldsTime bytes time := by
  constructor
  · intro found
    unfold ofBytes at read
    split at read
    · next flags year1 year2 year3 year4 month day hour minute second nano1 nano2 nano3 nano4 =>
      cases read
      obtain ⟨flagged, timed⟩ := Option.ite_none_right_eq_some.mp found
      obtain ⟨hourly, byMinute, bySecond, nanosecond⟩ := TimeOfDay.of?_eq_some.mp timed
      refine ⟨flags, [year1, year2, year3, year4, month, day], ?_, rfl, flagged⟩
      rw [timeBytes, nanosecond, fourBytes_ofFourBytes, hourly, byMinute, bySecond,
        UInt8.ofNat_toNat, UInt8.ofNat_toNat, UInt8.ofNat_toNat]
      rfl
    · cases read
  · rintro ⟨flags, before, rfl, six, flagged⟩
    obtain ⟨year1, year2, year3, year4, month, day, rfl⟩ := eq_of_length_six six
    cases read
    show (if flags.toNat / 2 % 2 = 1 then _ else none) = _
    rw [if_pos flagged]
    exact readTime_bytes time

/-- **Fourteen bytes are read**, whatever they are, and no other number of bytes. -/
theorem ofBytes_ok_iff {bytes : List UInt8} :
    (∃ components, ofBytes bytes = .ok components) ↔ bytes.length = 14 := by
  constructor
  · rintro ⟨components, read⟩
    unfold ofBytes at read
    split at read
    · rfl
    · cases read
  · intro fourteen
    match bytes, fourteen with
    | [_, _, _, _, _, _, _, _, _, _, _, _, _, _], _ => exact ⟨_, rfl⟩

end CalendarComponents

end TwinStore
