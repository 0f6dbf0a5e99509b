/-
**The order of numerals as texts.** Texts are ordered character by character, and a text comes after
its beginnings. So digits are ordered like the fractions with these digits behind the point, and
numbers are in their natural order only if they have equally many digits.

* `append_lt_append_iff`: texts that begin with equally many characters.
* `Digits.lt_iff_fraction`: digits in general; `Digits.lt_iff_value`: equally many of them.
* `Digits.padded_append_lt_iff`: numbers padded to the same width, as dates and times have them.
* `Digits.ofInt_lt_iff`: integers; the texts of two negative ones are in the order of their
  magnitudes.
-/

import Mathlib.Tactic.Linarith
import Mathlib.Tactic.Ring
import Mathlib.Tactic.Tauto
import TwinStore.Proofs.Text.Numeral

namespace TwinStore

/-- Texts that begin with equally many characters are ordered by these, then by what follows. -/
theorem append_lt_append_iff : ∀ {left right : List Char} {after behind : List Char},
    left.length = right.length →
      (left ++ after < right ++ behind ↔ left < right ∨ left = right ∧ after < behind)
  | [], [], _, _, _ => by simp
  | first :: left, second :: right, after, behind, long => by
    have rest : left ++ after < right ++ behind ↔ left < right ∨ left = right ∧ after < behind :=
      append_lt_append_iff (Nat.succ.inj long)
    rw [List.cons_append, List.cons_append, List.cons_lt_cons_iff, List.cons_lt_cons_iff, rest,
      List.cons.injEq]
    tauto

/-- Texts that begin with the same character are ordered by what follows. -/
theorem cons_lt_cons_same (first : Char) (left right : List Char) :
    first :: left < first :: right ↔ left < right := by
  rw [List.cons_lt_cons_iff]
  simp

namespace Digits

/-! ### Digits as fractions -/

/-- The number that one digit denotes. -/
def digitValue (digit : Char) : Nat := digit.toNat - '0'.toNat

theorem value_cons (first : Char) (rest : List Char) :
    value (first :: rest) = digitValue first * 10 ^ rest.length + value rest := by
  have joined := value_append [first] rest
  rw [List.singleton_append] at joined
  rw [joined]
  simp [value, Nat.ofDigitChars_cons, digitValue]

theorem digit_bounds {digit : Char} (decimal : digit.isDigit = true) :
    48 ≤ digit.toNat ∧ digit.toNat ≤ 57 := by
  simp only [Char.isDigit, Bool.and_eq_true, decide_eq_true_eq] at decimal
  exact decimal

theorem digit_lt_iff {left right : Char} (first : left.isDigit = true)
    (second : right.isDigit = true) : left < right ↔ digitValue left < digitValue right := by
  obtain ⟨low, -⟩ := digit_bounds first
  obtain ⟨_, -⟩ := digit_bounds second
  have order : left < right ↔ left.toNat < right.toNat := gt_iff_lt
  have zero : '0'.toNat = 48 := rfl
  rw [order, digitValue, digitValue]
  omega

theorem digit_inj {left right : Char} (first : left.isDigit = true)
    (second : right.isDigit = true) : left = right ↔ digitValue left = digitValue right := by
  obtain ⟨low, -⟩ := digit_bounds first
  obtain ⟨_, -⟩ := digit_bounds second
  have same : left = right ↔ left.toNat = right.toNat := Char.toNat_inj.symm
  have zero : '0'.toNat = 48 := rfl
  rw [same, digitValue, digitValue]
  omega

/-- Digits denote less than the power of ten of their number. -/
theorem value_lt {digits : List Char} (all : IsDigits digits) :
    value digits < 10 ^ digits.length := by
  induction digits with
  | nil => decide
  | cons first rest step =>
    obtain ⟨low, high⟩ := digit_bounds (all first List.mem_cons_self)
    have inside := step (all.drop 1)
    have zero : '0'.toNat = 48 := rfl
    have digit : digitValue first ≤ 9 := by
      rw [digitValue]
      omega
    rw [value_cons, List.length_cons, Nat.pow_succ]
    nlinarith

/-- Of two fractions the one with the smaller leading digit is less, whatever follows. -/
theorem fraction_lt_of_lead {lead other inner unit scale : Nat} (less : lead < other)
    (small : inner < unit) (positive : 0 < scale) (outer : Nat) :
    (lead * unit + inner) * (scale * 10) < (other * scale + outer) * (unit * 10) := by
  have whole : (lead + 1) * unit * scale ≤ other * unit * scale := by gcongr; omega
  have part : inner * scale < unit * scale := Nat.mul_lt_mul_of_pos_right small positive
  nlinarith

/-- **Digits are ordered like the fractions behind a point**: by their values brought to the same
number of places, and of two equal fractions the shorter one comes first. -/
theorem lt_iff_fraction : ∀ {left right : List Char}, IsDigits left → IsDigits right →
    (left < right ↔
      value left * 10 ^ right.length < value right * 10 ^ left.length ∨
        value left * 10 ^ right.length = value right * 10 ^ left.length ∧
          left.length < right.length)
  | [], [], _, _ => by simp
  | [], second :: right, _, _ => by
    have nothing : value [] = 0 := rfl
    have before : [] < second :: right := List.nil_lt_cons _ _
    simp only [before, nothing, List.length_nil, List.length_cons, true_iff]
    omega
  | first :: left, [], _, _ => by
    have nothing : value [] = 0 := rfl
    simp [nothing]
  | first :: left, second :: right, all, others => by
    have tail : IsDigits left := all.drop 1
    have tails : IsDigits right := others.drop 1
    have one := all first List.mem_cons_self
    have two := others second List.mem_cons_self
    have small := value_lt tail
    have smaller := value_lt tails
    have unit_ : 0 < 10 ^ left.length := Nat.pow_pos (by decide)
    have units : 0 < 10 ^ right.length := Nat.pow_pos (by decide)
    rw [List.cons_lt_cons_iff, lt_iff_fraction tail tails, digit_lt_iff one two, digit_inj one two,
      value_cons, value_cons, List.length_cons, List.length_cons, Nat.pow_succ, Nat.pow_succ,
      Nat.succ_lt_succ_iff]
    generalize digitValue first = lead at *
    generalize digitValue second = other at *
    generalize value left = inner at *
    generalize value right = outer at *
    generalize 10 ^ left.length = unit at *
    generalize 10 ^ right.length = scale at *
    -- Different leading digits decide; equal ones add the same to both sides.
    rcases lt_trichotomy lead other with less | rfl | more
    · have before := fraction_lt_of_lead less small units outer
      omega
    · have first : (lead * unit + inner) * (scale * 10) =
          10 * (lead * unit * scale) + 10 * (inner * scale) := by ring
      have second : (lead * scale + outer) * (unit * 10) =
          10 * (lead * unit * scale) + 10 * (outer * unit) := by ring
      omega
    · have before := fraction_lt_of_lead more smaller unit_ inner
      omega

/-- **Equally many digits are ordered like their values.** -/
theorem lt_iff_value {left right : List Char} (all : IsDigits left) (others : IsDigits right)
    (long : left.length = right.length) : left < right ↔ value left < value right := by
  have positive : 0 < 10 ^ right.length := Nat.pow_pos (by decide)
  rw [lt_iff_fraction all others, long, Nat.mul_lt_mul_right positive]
  omega

/-- Equally many digits are the same if their values are. -/
theorem eq_iff_value {left right : List Char} (all : IsDigits left) (others : IsDigits right)
    (long : left.length = right.length) : left = right ↔ value left = value right := by
  have less := lt_iff_value all others long
  have more := lt_iff_value others all long.symm
  constructor
  · exact congrArg value
  · intro same
    exact List.le_antisymm (List.not_lt.mp (by rw [more]; omega))
      (List.not_lt.mp (by rw [less]; omega))

/-! ### Numbers -/

/-- Numbers of equally many digits are ordered like their texts. -/
theorem ofNat_lt_iff {left right : Nat} (long : (ofNat left).length = (ofNat right).length) :
    ofNat left < ofNat right ↔ left < right := by
  rw [lt_iff_value (isDigits_ofNat _) (isDigits_ofNat _) long, value_ofNat, value_ofNat]

/-- **Numbers padded to one width** are ordered first, then what follows them. -/
theorem padded_append_lt_iff {width left right : Nat} {after behind : List Char}
    (positive : 0 < width) (small : left < 10 ^ width) (smaller : right < 10 ^ width) :
    padded width left ++ after < padded width right ++ behind ↔
      left < right ∨ left = right ∧ after < behind := by
  have long : (padded width left).length = (padded width right).length := by
    rw [length_padded positive small, length_padded positive smaller]
  rw [append_lt_append_iff long, lt_iff_value (isDigits_padded _ _) (isDigits_padded _ _) long,
    eq_iff_value (isDigits_padded _ _) (isDigits_padded _ _) long, value_padded, value_padded]

/-- A minus sign comes before every digit. -/
theorem minus_lt_digit {digit : Char} (decimal : digit.isDigit = true) (after rest : List Char) :
    '-' :: after < digit :: rest ∧ ¬digit :: rest < '-' :: after := by
  obtain ⟨low, -⟩ := digit_bounds decimal
  have minus : '-'.toNat = 45 := rfl
  have order : '-'.toNat < digit.toNat := by omega
  rw [List.cons_lt_cons_iff, List.cons_lt_cons_iff]
  refine ⟨.inl order, ?_⟩
  rintro (less | ⟨rfl, -⟩)
  · exact absurd less (by show ¬digit.toNat < '-'.toNat; omega)
  · omega

theorem ofNat_eq_cons (number : Nat) :
    ∃ first rest, ofNat number = first :: rest ∧ first.isDigit = true := by
  obtain ⟨first, rest, digits⟩ := List.exists_cons_of_ne_nil (ofNat_ne_nil number)
  exact ⟨first, rest, digits, isDigits_ofNat number _ (digits ▸ List.mem_cons_self)⟩

/-- **Integers as texts**: the negative ones come before the others, and on either side the texts of
the magnitudes decide. -/
theorem ofInt_lt_iff (left right : Int) :
    ofInt left < ofInt right ↔
      (left < 0 ∧ 0 ≤ right) ∨
        ((left < 0 ↔ right < 0) ∧ ofNat left.natAbs < ofNat right.natAbs) := by
  obtain ⟨first, rest, digits, decimal⟩ := ofNat_eq_cons left.natAbs
  obtain ⟨second, tail, others, numeric⟩ := ofNat_eq_cons right.natAbs
  unfold ofInt
  by_cases one : left < 0
  · by_cases two : right < 0
    · rw [if_pos one, if_pos two, cons_lt_cons_same]
      simp [one, two]
    · have before := minus_lt_digit numeric (ofNat left.natAbs) tail
      rw [if_pos one, if_neg two, others]
      simp [one, not_lt.mp two, before]
  · by_cases two : right < 0
    · have before := minus_lt_digit decimal (ofNat right.natAbs) rest
      rw [if_neg one, if_pos two, digits]
      simp [one, two, before]
    · rw [if_neg one, if_neg two]
      simp [one, two]

/-- Integers whose signs differ, or that are not negative and have equally many digits. -/
def Aligned (left right : Int) : Prop :=
  (left < 0 ∧ 0 ≤ right) ∨ (0 ≤ left ∧ right < 0) ∨
    (0 ≤ left ∧ 0 ≤ right ∧ (ofNat left.natAbs).length = (ofNat right.natAbs).length)

instance (left right : Int) : Decidable (Aligned left right) :=
  inferInstanceAs (Decidable (_ ∨ _ ∨ _))

/-- **Such integers are ordered like their texts.** -/
theorem Aligned.ofInt_lt_iff {left right : Int} (aligned : Aligned left right) :
    ofInt left < ofInt right ↔ left < right := by
  rw [Digits.ofInt_lt_iff]
  rcases aligned with ⟨one, two⟩ | ⟨one, two⟩ | ⟨one, two, long⟩
  · omega
  · omega
  · rw [ofNat_lt_iff long]
    omega

end Digits

end TwinStore
