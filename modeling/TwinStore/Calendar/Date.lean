/-
**Dates.** Days of the proleptic Gregorian calendar, with a year zero and negative years before it.

* `Date.of?` succeeds exactly on the days there are, from the year -262143 to the year 262142.
* `Date.compare` is chronological: by year, then month, then day.
* `Civil.ofDayNumber` finds the day at a distance from 1970-01-01.
-/

namespace TwinStore

/-- The year has a twenty-ninth of February. -/
def isLeapYear (year : Int) : Bool := year % 4 == 0 && (year % 100 != 0 || year % 400 == 0)

/-- The number of days of a month; there are none in a month that does not exist. -/
def monthLength (year : Int) (month : Nat) : Nat :=
  match month with
  | 1 | 3 | 5 | 7 | 8 | 10 | 12 => 31
  | 4 | 6 | 9 | 11 => 30
  | 2 => if isLeapYear year then 29 else 28
  | _ => 0

/-- There is such a day within the years that are kept. -/
def IsDay (year : Int) (month day : Nat) : Prop :=
  -262143 ≤ year ∧ year ≤ 262142 ∧ 1 ≤ day ∧ day ≤ monthLength year month

instance (year : Int) (month day : Nat) : Decidable (IsDay year month day) :=
  inferInstanceAs (Decidable (_ ∧ _ ∧ _ ∧ _))

/-- A day of the calendar. -/
structure Date where
  year : Int
  month : Nat
  day : Nat
  isDay : IsDay year month day
  deriving DecidableEq

namespace Date

/-- The day with these components, if there is one. -/
def of? (year : Int) (month day : Nat) : Option Date :=
  if isDay : IsDay year month day then some ⟨year, month, day, isDay⟩ else none

def compare (left right : Date) : Ordering :=
  (Ord.compare left.year right.year).then
    ((Ord.compare left.month right.month).then (Ord.compare left.day right.day))

/-- A date is found again from its components. -/
@[simp] theorem of?_components (date : Date) : of? date.year date.month date.day = some date := by
  simp [of?, date.isDay]

end Date

/-- The components of a day in any year. -/
structure Civil where
  year : Int
  month : Nat
  day : Nat

/-- The day at a distance from 1970-01-01. Years are counted from March, so that a leap day is the
last day of its year, in eras of four hundred years, which all have the same length. -/
def Civil.ofDayNumber (days : Int) : Civil :=
  let shifted := days + 719468
  let era := shifted / 146097
  let dayOfEra := (shifted % 146097).toNat
  let yearOfEra :=
    (dayOfEra - dayOfEra / 1460 + dayOfEra / 36524 - dayOfEra / 146096) / 365
  let dayOfYear := dayOfEra - (365 * yearOfEra + yearOfEra / 4 - yearOfEra / 100)
  let marchMonth := (5 * dayOfYear + 2) / 153
  let day := dayOfYear - (153 * marchMonth + 2) / 5 + 1
  let month := if marchMonth < 10 then marchMonth + 3 else marchMonth - 9
  let year := era * 400 + yearOfEra + (if month ≤ 2 then 1 else 0)
  ⟨year, month, day⟩

end TwinStore
