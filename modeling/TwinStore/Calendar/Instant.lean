/-
**Instants.** Points in time, within the years that dates have: seconds counted from
1970-01-01T00:00:00Z, and the nanoseconds behind them. The count leaves leap seconds out, so a leap
second is the second in front of it with a thousand million nanoseconds or more.

* `Instant.compare` is chronological. A leap second lies between the seconds around it.
* `Instant.milliseconds` counts whole milliseconds. A leap second is counted as the second behind
  it, which is `Instant.counted?`.
* `Instant.ofMilliseconds?` and `Instant.clampMilliseconds` go back, never to a leap second: the
  first fails outside the range, the second takes the end of it on that side.
* `ofMilliseconds?_eq_some_iff`: each instant outside leap seconds that starts a millisecond is the
  instant at one number of milliseconds.
* `ofMilliseconds?_milliseconds`: going there and back counts an instant and floors it to the
  millisecond.
-/

namespace TwinStore

/-- The first second of the year -262143. -/
def firstSecond : Int := -8334601228800

/-- The last second of the year 262142. -/
def lastSecond : Int := 8210266876799

/-- A point in time. -/
structure Instant where
  /-- The seconds that are counted from 1970-01-01T00:00:00Z. -/
  seconds : Int
  /-- The nanoseconds behind them, a thousand million or more in a leap second. -/
  subsecond : Nat
  low : firstSecond ≤ seconds
  high : seconds ≤ lastSecond
  short : subsecond < 2000000000
  deriving DecidableEq

namespace Instant

/-- The instant at a number of nanoseconds behind a second, if there is one. -/
def of? (seconds : Int) (subsecond : Nat) : Option Instant :=
  if range : firstSecond ≤ seconds ∧ seconds ≤ lastSecond ∧ subsecond < 2000000000 then
    some ⟨seconds, subsecond, range.1, range.2.1, range.2.2⟩
  else none

/-- The start of the range. -/
def first : Instant := ⟨firstSecond, 0, by decide, by decide, by decide⟩

/-- The end of the range, but for a leap second behind it. -/
def last : Instant := ⟨lastSecond, 999999999, by decide, by decide, by decide⟩

/-- The instant lies in a leap second. -/
def IsLeap (instant : Instant) : Prop := 1000000000 ≤ instant.subsecond

instance (instant : Instant) : Decidable instant.IsLeap := inferInstanceAs (Decidable (_ ≤ _))

/-- The instant is at the start of a millisecond, in a leap second too. -/
def IsMillisecond (instant : Instant) : Prop := instant.subsecond % 1000000 = 0

instance (instant : Instant) : Decidable instant.IsMillisecond :=
  inferInstanceAs (Decidable (_ = _))

/-- The instant is a whole number of milliseconds: at the start of one, outside leap seconds. -/
def IsWhole (instant : Instant) : Prop := ¬instant.IsLeap ∧ instant.IsMillisecond

instance (instant : Instant) : Decidable instant.IsWhole := inferInstanceAs (Decidable (_ ∧ _))

/-- An instant before 1970, between two milliseconds. -/
def fine : Instant := ⟨-1, 998499999, by decide, by decide, by decide⟩

/-- Half of the leap second before the year 2017. -/
def leapSecond : Instant := ⟨1483228799, 1500000000, by decide, by decide, by decide⟩

/-- By the second, then within it. -/
def compare (left right : Instant) : Ordering :=
  (Ord.compare left.seconds right.seconds).then (Ord.compare left.subsecond right.subsecond)

/-! ### Milliseconds -/

/-- The instant at a number of milliseconds, if it is within the range. -/
def ofMilliseconds? (milliseconds : Int) : Option Instant :=
  of? (milliseconds / 1000) ((milliseconds % 1000).toNat * 1000000)

/-- The instant at a number of milliseconds, or the end of the range on that side. -/
def clampMilliseconds (milliseconds : Int) : Instant :=
  (ofMilliseconds? milliseconds).getD (if milliseconds < 0 then first else last)

/-- Whole milliseconds, rounded down. -/
def milliseconds (instant : Instant) : Int :=
  instant.seconds * 1000 + (instant.subsecond / 1000000 : Nat)

/-- The instant at the start of its millisecond, in a leap second too. -/
def floorMilliseconds (instant : Instant) : Instant where
  seconds := instant.seconds
  subsecond := instant.subsecond / 1000000 * 1000000
  low := instant.low
  high := instant.high
  short := by have := instant.short; omega

/-- The instant that has its place in the count: a leap second has that of the second behind it, if
there is one within the range. -/
def counted? (instant : Instant) : Option Instant :=
  if instant.IsLeap then of? (instant.seconds + 1) (instant.subsecond - 1000000000)
  else some instant

/-- The instant that has its place in the count, itself if there is none within the range. -/
def counted (instant : Instant) : Instant := instant.counted?.getD instant

/-- The instant is in a leap second, which is counted as the second of the other. -/
def CountedInto (left right : Instant) : Prop :=
  left.IsLeap ∧ ¬right.IsLeap ∧ right.seconds = left.seconds + 1

instance (left right : Instant) : Decidable (left.CountedInto right) :=
  inferInstanceAs (Decidable (_ ∧ _ ∧ _))

/-- An instant at the start of a millisecond is its own floor. -/
theorem floorMilliseconds_of_isMillisecond {instant : Instant} (starts : instant.IsMillisecond) :
    instant.floorMilliseconds = instant := by
  obtain ⟨seconds, subsecond, low, high, short⟩ := instant
  have floor : subsecond / 1000000 * 1000000 = subsecond := Nat.div_mul_cancel
    (Nat.dvd_of_mod_eq_zero starts)
  simp only [floorMilliseconds, floor]

/-- Outside leap seconds an instant has its own place in the count. -/
theorem counted?_of_not_isLeap {instant : Instant} (plain : ¬instant.IsLeap) :
    instant.counted? = some instant := if_neg plain

/-- Only the leap second behind the range has no place in the count. -/
theorem counted?_eq_none_iff {instant : Instant} :
    instant.counted? = none ↔ instant.IsLeap ∧ instant.seconds = lastSecond := by
  have high := instant.high
  have low := instant.low
  have short := instant.short
  rw [counted?, of?]
  split
  · next leap =>
    split
    · next range => simp only [reduceCtorEq, false_iff]; omega
    · next range => exact ⟨fun _ => ⟨leap, by omega⟩, fun _ => rfl⟩
  · next plain => simp [plain]

theorem counted_of_not_isLeap {instant : Instant} (plain : ¬instant.IsLeap) :
    instant.counted = instant := by
  rw [counted, counted?_of_not_isLeap plain, Option.getD_some]

/-- What is counted as another second has as much of it behind it. -/
theorem counted_of_isLeap {instant : Instant} (leap : instant.IsLeap)
    (early : instant.seconds ≠ lastSecond) :
    instant.counted.seconds = instant.seconds + 1 ∧
      instant.counted.subsecond + 1000000000 = instant.subsecond := by
  have low := instant.low
  have high := instant.high
  have short := instant.short
  have range : firstSecond ≤ instant.seconds + 1 ∧ instant.seconds + 1 ≤ lastSecond ∧
      instant.subsecond - 1000000000 < 2000000000 := by omega
  rw [counted, counted?, if_pos leap, of?, dif_pos range]
  exact ⟨rfl, Nat.sub_add_cancel leap⟩

/-- Flooring changes nothing about the range. -/
theorem of?_floor (seconds : Int) {subsecond : Nat} (short : subsecond < 2000000000) :
    of? seconds (subsecond / 1000000 * 1000000) =
      (of? seconds subsecond).map floorMilliseconds := by
  have shorter : subsecond / 1000000 * 1000000 < 2000000000 := by omega
  by_cases range : firstSecond ≤ seconds ∧ seconds ≤ lastSecond
  · rw [of?, of?, dif_pos ⟨range.1, range.2, shorter⟩, dif_pos ⟨range.1, range.2, short⟩]
    rfl
  · rw [of?, of?, dif_neg fun all => range ⟨all.1, all.2.1⟩,
      dif_neg fun all => range ⟨all.1, all.2.1⟩]
    rfl

theorem of?_components (instant : Instant) :
    of? instant.seconds instant.subsecond = some instant :=
  dif_pos ⟨instant.low, instant.high, instant.short⟩

theorem of?_eq_some_iff {seconds : Int} {subsecond : Nat} {instant : Instant} :
    of? seconds subsecond = some instant ↔
      instant.seconds = seconds ∧ instant.subsecond = subsecond := by
  constructor
  · intro found
    unfold of? at found
    split at found
    · cases found
      exact ⟨rfl, rfl⟩
    · cases found
  · rintro ⟨rfl, rfl⟩
    exact of?_components instant

/-- **A number of milliseconds stands for one whole instant**, the one that counts so many. -/
theorem ofMilliseconds?_eq_some_iff {count : Int} {instant : Instant} :
    ofMilliseconds? count = some instant ↔ instant.IsWhole ∧ instant.milliseconds = count := by
  have short := instant.short
  rw [ofMilliseconds?, of?_eq_some_iff, IsWhole, IsLeap, IsMillisecond, milliseconds]
  omega

/-- Every number of milliseconds within the range stands for an instant. -/
theorem ofMilliseconds?_of_range {count : Int} (low : first.milliseconds ≤ count)
    (high : count ≤ last.milliseconds) : ∃ instant, ofMilliseconds? count = some instant := by
  simp only [milliseconds, first, last] at low high
  have range : firstSecond ≤ count / 1000 ∧ count / 1000 ≤ lastSecond ∧
      (count % 1000).toNat * 1000000 < 2000000000 := by omega
  exact ⟨_, dif_pos range⟩

/-- The instant at an instant's milliseconds is the counted one, floored. -/
theorem ofMilliseconds?_milliseconds (instant : Instant) :
    ofMilliseconds? instant.milliseconds = instant.counted?.map floorMilliseconds := by
  have short := instant.short
  rw [ofMilliseconds?, counted?, milliseconds]
  by_cases leap : instant.IsLeap
  · have behind : 1000000000 ≤ instant.subsecond := leap
    have second : (instant.seconds * 1000 + (instant.subsecond / 1000000 : Nat)) / 1000 =
        instant.seconds + 1 := by omega
    have within : ((instant.seconds * 1000 + (instant.subsecond / 1000000 : Nat)) % 1000).toNat *
        1000000 = (instant.subsecond - 1000000000) / 1000000 * 1000000 := by omega
    rw [if_pos leap, second, within, of?_floor _ (by omega)]
  · have before : instant.subsecond < 1000000000 := Nat.lt_of_not_le leap
    have second : (instant.seconds * 1000 + (instant.subsecond / 1000000 : Nat)) / 1000 =
        instant.seconds := by omega
    have within : ((instant.seconds * 1000 + (instant.subsecond / 1000000 : Nat)) % 1000).toNat *
        1000000 = instant.subsecond / 1000000 * 1000000 := by omega
    rw [if_neg leap, second, within, of?_floor _ short, of?_components]

/-- The end of the range stands for the leap second behind it. -/
theorem clampMilliseconds_milliseconds (instant : Instant) :
    clampMilliseconds instant.milliseconds =
      (instant.counted?.map floorMilliseconds).getD last := by
  rw [clampMilliseconds, ofMilliseconds?_milliseconds]
  cases found : instant.counted? with
  | some counted => rfl
  | none =>
    have latest := (counted?_eq_none_iff.mp found).2
    have late : ¬instant.milliseconds < 0 := by
      rw [milliseconds, latest, lastSecond]
      omega
    rw [Option.map_none, Option.getD_none, Option.getD_none, if_neg late]

/-- **Whole numbers of milliseconds are the instants that the count keeps.** -/
theorem clampMilliseconds_milliseconds_eq_iff {instant : Instant} :
    clampMilliseconds instant.milliseconds = instant ↔ instant.IsWhole := by
  constructor
  · intro same
    rw [clampMilliseconds_milliseconds] at same
    cases found : instant.counted? with
    | some counted =>
      rw [found, Option.map_some, Option.getD_some] at same
      have counts : ofMilliseconds? instant.milliseconds = some instant := by
        rw [ofMilliseconds?_milliseconds, found, Option.map_some, same]
      exact (ofMilliseconds?_eq_some_iff.mp counts).1
    | none =>
      rw [found, Option.map_none, Option.getD_none] at same
      exact absurd (counted?_eq_none_iff.mp found).1 (same ▸ by decide)
  · intro whole
    rw [clampMilliseconds, ofMilliseconds?_eq_some_iff.mpr ⟨whole, rfl⟩, Option.getD_some]

end Instant

end TwinStore
