/-
**Times of day.** Hours, minutes, seconds and nanoseconds. A leap second is the fifty-ninth second
with a thousand million nanoseconds or more; leap seconds behind other seconds are left out.

* `TimeOfDay.of?` succeeds exactly on the times there are.
* `TimeOfDay.compare` is chronological.
-/

namespace TwinStore

/-- There is such a time of day. A leap second is behind the fifty-ninth second of a minute only. To
set the nanoseconds of another time to as many makes a leap second behind another second; such times
are left out. -/
def IsTime (hour minute second nanosecond : Nat) : Prop :=
  hour < 24 ∧ minute < 60 ∧ second < 60 ∧ nanosecond < 2000000000 ∧
    (nanosecond < 1000000000 ∨ second = 59)

instance (hour minute second nanosecond : Nat) :
    Decidable (IsTime hour minute second nanosecond) :=
  inferInstanceAs (Decidable (_ ∧ _ ∧ _ ∧ _ ∧ _))

/-- A time of day. -/
structure TimeOfDay where
  hour : Nat
  minute : Nat
  second : Nat
  nanosecond : Nat
  isTime : IsTime hour minute second nanosecond
  deriving DecidableEq

namespace TimeOfDay

/-- The time with these components, if there is one. -/
def of? (hour minute second nanosecond : Nat) : Option TimeOfDay :=
  if isTime : IsTime hour minute second nanosecond then
    some ⟨hour, minute, second, nanosecond, isTime⟩
  else none

def compare (left right : TimeOfDay) : Ordering :=
  (Ord.compare left.hour right.hour).then
    ((Ord.compare left.minute right.minute).then
      ((Ord.compare left.second right.second).then
        (Ord.compare left.nanosecond right.nanosecond)))

/-- A time is found again from its components. -/
@[simp] theorem of?_components (time : TimeOfDay) :
    of? time.hour time.minute time.second time.nanosecond = some time := by
  simp [of?, time.isTime]

end TimeOfDay

end TwinStore
