/-
**Calendar text is read back.** Dates and times of day are read from what they are written as, over
the whole range of years and with leap seconds, and no time is read as a date.

* `scanDigits?_digits` is the one fact about numbers: up to as many digits as are wanted, as long as
  no further digit follows.
* `ofText?_dateChars` and `ofText?_timeChars` are the round trips.
* `dateOfText?_timeChars`: a time starts with two digits and a colon, and there the reading of a
  date stops.
-/

import TwinStore.Calendar.Text
import TwinStore.Proofs.Text.Numeral

namespace TwinStore

open Digits

/-! ### Blanks -/

theorem isBlank_of_isDigit {char : Char} (digit : char.isDigit = true) :
    Blank.isBlank char = false := by
  have range : 48 ≤ char.toNat ∧ char.toNat ≤ 57 := by
    simp only [Char.isDigit, Bool.and_eq_true, decide_eq_true_eq, ge_iff_le, UInt32.le_iff_toNat_le]
      at digit
    exact digit
  simp only [Blank.isBlank, Bool.or_eq_false_iff, Bool.and_eq_false_iff, decide_eq_false_iff_not,
    beq_eq_false_iff_ne]
  omega

/-- Nothing is skipped in front of what is no blank. -/
theorem skip_cons {first : Char} (solid : Blank.isBlank first = false) (rest : List Char) :
    Blank.skip (first :: rest) = first :: rest := by
  rw [Blank.skip, List.dropWhile_cons_of_neg (by rw [solid]; decide)]

theorem skip_digits {digits : List Char} (all : IsDigits digits) (some_ : digits ≠ [])
    (rest : List Char) : Blank.skip (digits ++ rest) = digits ++ rest := by
  match digits with
  | [] => exact absurd rfl some_
  | first :: others => exact skip_cons (isBlank_of_isDigit (all first List.mem_cons_self)) _

/-! ### Numbers and marks -/

/-- The text does not go on with a digit. -/
def NoDigit (text : List Char) : Prop := ∀ char ∈ text.head?, char.isDigit = false

theorem noDigit_nil : NoDigit [] := by
  rintro char ⟨⟩

theorem noDigit_cons {first : Char} (noDigit : first.isDigit = false) (rest : List Char) :
    NoDigit (first :: rest) := by
  rintro char ⟨⟩
  exact noDigit

/-- **Digits are scanned as their value**, if no more of them follow than are wanted. -/
theorem scanDigits?_digits {most : Nat} {digits rest : List Char} (all : IsDigits digits)
    (some_ : digits ≠ []) (short : digits.length ≤ most) (stop : NoDigit rest) :
    scanDigits? most (digits ++ rest) = some (value digits, rest) := by
  have stopTaken : ∀ char ∈ (rest.take (most - digits.length)).head?, char.isDigit = false := by
    intro char first
    rw [List.head?_take] at first
    split at first
    · cases first
    · exact stop char first
  have scanned : ((digits ++ rest).take most).takeWhile Char.isDigit = digits := by
    rw [List.take_append, List.take_of_length_le short]
    exact takeWhile_of_stop all stopTaken
  rw [scanDigits?, scanned, if_neg some_, List.drop_left]

/-- A number of two digits is scanned, blanks or none before it. -/
theorem scanPair?_padded {number : Nat} {rest : List Char} (small : number < 100)
    (stop : NoDigit rest) : scanPair? (padded 2 number ++ rest) = some (number, rest) := by
  have all := isDigits_padded 2 number
  have some_ := padded_ne_nil 2 number
  have width : (padded 2 number).length = 2 := length_padded (by decide) (by omega)
  rw [scanPair?, skip_digits all some_, scanDigits?_digits all some_ (by omega) stop, value_padded]

theorem scanMark?_cons {mark : Char} (solid : Blank.isBlank mark = false) (rest : List Char) :
    scanMark? mark (mark :: rest) = some rest := by
  rw [scanMark?, skip_cons solid]
  exact if_pos rfl

theorem scanMark?_other {mark other : Char} (solid : Blank.isBlank other = false)
    (different : other ≠ mark) (rest : List Char) : scanMark? mark (other :: rest) = none := by
  rw [scanMark?, skip_cons solid]
  exact if_neg different

/-- Digits without a sign are scanned as a year, up to four of them. -/
theorem scanYear?_digits {digits rest : List Char} (all : IsDigits digits) (some_ : digits ≠ [])
    (short : digits.length ≤ 4) (stop : NoDigit rest) :
    scanYear? (digits ++ rest) = some ((value digits : Int), rest) := by
  have unsigned : ∀ sign : Char, sign.isDigit = false →
      ∀ others, digits ++ rest ≠ sign :: others := by
    intro sign noDigit others same
    match digits with
    | [] => exact absurd rfl some_
    | first :: _ =>
      exact ne_of_isDigit (all first List.mem_cons_self) noDigit (List.cons.inj same).1
  rw [scanYear?, skip_digits all some_]
  split
  · next others same => exact absurd same (unsigned '-' rfl others)
  · next others same => exact absurd same (unsigned '+' rfl others)
  · rw [scanDigits?_digits all some_ short stop]
    rfl

/-- **A year is scanned from its text**, with its sign outside the years of four digits. -/
theorem scanYear?_yearText (year : Int) (rest : List Char) (stop : NoDigit rest) :
    scanYear? (yearText year ++ rest) = some (year, rest) := by
  have all := isDigits_padded 4 year.natAbs
  have some_ := padded_ne_nil 4 year.natAbs
  unfold yearText
  split
  · next plain =>
    have width : (padded 4 year.natAbs).length = 4 := length_padded (by decide) (by omega)
    rw [scanYear?_digits all some_ (by omega) stop, value_padded, Int.natAbs_of_nonneg plain.1]
  · have fits : (padded 4 year.natAbs).length ≤ (padded 4 year.natAbs ++ rest).length := by
      rw [List.length_append]
      omega
    have scanned := scanDigits?_digits all some_ fits stop
    rw [value_padded] at scanned
    split
    · next negative =>
      rw [List.cons_append, scanYear?, skip_cons rfl]
      simp only [scanned, Option.map_some, Option.some.injEq, Prod.mk.injEq, and_true]
      omega
    · next positive =>
      rw [List.cons_append, scanYear?, skip_cons rfl]
      simp only [scanned, Option.map_some, Option.some.injEq, Prod.mk.injEq, and_true]
      omega

/-! ### Dates -/

theorem monthLength_le (year : Int) (month : Nat) : monthLength year month ≤ 31 := by
  unfold monthLength
  split <;> (try split) <;> decide

theorem month_le_of_days {year : Int} {month : Nat} (days : 0 < monthLength year month) :
    month ≤ 12 := by
  unfold monthLength at days
  split at days
  all_goals first | decide | exact absurd days (Nat.lt_irrefl 0)

/-- Months and days have two digits at most. -/
theorem Date.bounds (date : Date) : date.month ≤ 12 ∧ date.day ≤ 31 := by
  obtain ⟨-, -, first, last⟩ := date.isDay
  exact ⟨month_le_of_days (Nat.lt_of_lt_of_le first last), Nat.le_trans last (monthLength_le _ _)⟩

/-- **A date's text is read back.** -/
@[simp] theorem Date.ofChars?_chars (date : Date) : Date.ofChars? date.chars = some date := by
  obtain ⟨months, days⟩ := date.bounds
  have hyphen : Char.isDigit '-' = false := rfl
  have mark : Blank.isBlank '-' = false := rfl
  have twoMonth : date.month < 100 := by omega
  have twoDay : date.day < 100 := by omega
  have month := scanPair?_padded twoMonth (noDigit_cons hyphen (padded 2 date.day))
  have day := scanPair?_padded twoDay noDigit_nil
  rw [List.append_nil] at day
  unfold Date.ofChars? Date.chars dateText
  rw [scanYear?_yearText _ _ (noDigit_cons hyphen _)]
  simp only [Option.bind_eq_bind, Option.bind_some, scanMark?_cons mark, month, day]
  exact Date.of?_components date

/-! ### Times of day -/

/-- A fraction's groups of three digits are scanned as nanoseconds. -/
theorem scanFraction?_group {width number : Nat} (wide : width ≤ 9) (positive : 0 < width)
    (small : number < 10 ^ width) :
    scanFraction? ('.' :: padded width number) = some (number * 10 ^ (9 - width), []) := by
  have length := length_padded positive small
  have most : (padded width number).length ≤ 9 := by omega
  have scanned := scanDigits?_digits (isDigits_padded width number)
    (padded_ne_nil width number) most noDigit_nil
  rw [List.append_nil, value_padded] at scanned
  simp only [scanFraction?, scanned, Option.map_some, length, List.length_nil, Nat.sub_zero,
    List.dropWhile_nil]

/-- **A fraction of a second is scanned from its text.** -/
theorem scanFraction?_fractionText {nanosecond : Nat} (small : nanosecond < 1000000000) :
    scanFraction? (fractionText nanosecond) = some (nanosecond, []) := by
  unfold fractionText
  split
  · next zero =>
    subst zero
    rfl
  · split
    · next millis =>
      rw [scanFraction?_group (by decide) (by decide) (by omega)]
      congr 2
      omega
    · split
      · next micros =>
        rw [scanFraction?_group (by decide) (by decide) (by omega)]
        congr 2
        omega
      · rw [scanFraction?_group (by decide) (by decide) (by omega)]
        congr 2
        omega

/-- A fraction does not start with a digit. -/
theorem noDigit_fractionText (nanosecond : Nat) : NoDigit (fractionText nanosecond) := by
  unfold fractionText
  split
  · exact noDigit_nil
  · split
    · exact noDigit_cons rfl _
    · split <;> exact noDigit_cons rfl _

/-- The seconds of a time and their fraction are scanned. -/
theorem scanSeconds?_seconds {second nanosecond : Nat} (fewSeconds : second < 100)
    (small : nanosecond < 1000000000) :
    scanSeconds? (':' :: (padded 2 second ++ fractionText nanosecond)) =
      some (second, nanosecond, []) := by
  have mark : Blank.isBlank ':' = false := by decide
  unfold scanSeconds?
  rw [skip_cons mark]
  simp only [Option.bind_eq_bind, scanMark?_cons mark, Option.bind_some,
    scanPair?_padded fewSeconds (noDigit_fractionText nanosecond),
    scanFraction?_fractionText small]
  rfl

/-- **A time's text is read back**, a leap second as the second sixty of its minute. -/
@[simp] theorem TimeOfDay.ofChars?_chars (time : TimeOfDay) :
    TimeOfDay.ofChars? time.chars = some time := by
  obtain ⟨hours, minutes, seconds, nanoseconds, leap⟩ := time.isTime
  have colon : Blank.isBlank ':' = false := by decide
  have text : time.chars = padded 2 time.hour ++ ':' :: (padded 2 time.minute ++
      ':' :: (padded 2 (time.second + time.nanosecond / 1000000000) ++
        fractionText (time.nanosecond % 1000000000))) := by
    simp only [TimeOfDay.chars, clockText, List.append_assoc, List.cons_append]
  rw [text]
  unfold TimeOfDay.ofChars?
  rw [scanPair?_padded (by omega) (noDigit_cons rfl _)]
  simp only [Option.bind_eq_bind, Option.bind_some, scanMark?_cons colon]
  rw [scanPair?_padded (by omega) (noDigit_cons rfl _)]
  simp only [Option.bind_some]
  rw [scanSeconds?_seconds (by omega) (Nat.mod_lt _ (by decide))]
  simp only [Option.bind_some]
  rw [if_neg (by decide)]
  by_cases leaps : time.nanosecond < 1000000000
  · rw [Nat.div_eq_of_lt leaps, Nat.mod_eq_of_lt leaps, Nat.add_zero, if_neg (by omega),
      TimeOfDay.of?_components]
  · have last : time.second = 59 := leap.resolve_left leaps
    have once : time.nanosecond / 1000000000 = 1 := by omega
    rw [once, last, if_pos rfl, show 1000000000 + time.nanosecond % 1000000000 = time.nanosecond by
      omega, ← last, TimeOfDay.of?_components]

/-- **No time is read as a date.** -/
@[simp] theorem Date.ofChars?_timeChars (time : TimeOfDay) :
    Date.ofChars? time.chars = none := by
  obtain ⟨hours, -⟩ := time.isTime
  have width : (padded 2 time.hour).length = 2 := length_padded (by decide) (by omega)
  unfold Date.ofChars? TimeOfDay.chars clockText
  rw [List.append_assoc, List.cons_append, scanYear?_digits (isDigits_padded 2 _)
    (padded_ne_nil 2 _) (by omega) (noDigit_cons rfl _)]
  simp only [Option.bind_eq_bind, Option.bind_some]
  rw [scanMark?_other (by decide) (by decide)]
  rfl

end TwinStore
