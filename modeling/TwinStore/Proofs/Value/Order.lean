/-
**The order of values.** Two values compare the other way round as the reverse. Within an ordered
kind values are compared by a key, an element of a linear order, and values with the same key are
equal. Across kinds, and for what has no key, nothing but the reverse is promised.

* `compare_swap`: any two values, double precision numbers that are no numbers included.
* `OrderedKind.Orders`: what the values of a kind are ordered by. `Orders.compare_eq` and
  `Orders.equal_iff`: comparison and equality are those of keys.
-/

import Mathlib.Data.List.Lex
import Mathlib.Data.String.Basic
import TwinStore.Proofs.Calendar.Bytes
import TwinStore.Proofs.Text.Utf8
import TwinStore.Proofs.Value.StoredEquality

namespace TwinStore

/-! ### Parts of dates and times -/

namespace Date

theorem compare_eq_iff {left right : Date} : left.compare right = .eq ↔ left = right := by
  constructor
  · intro tie
    simp only [compare, Ordering.then_eq_eq, Std.LawfulEqCmp.compare_eq_iff_eq] at tie
    obtain ⟨year, month, day⟩ := tie
    cases left
    cases right
    simp only [mk.injEq]
    exact ⟨year, month, day⟩
  · rintro rfl
    simp [compare]

end Date

namespace TimeOfDay

theorem compare_eq_iff {left right : TimeOfDay} : left.compare right = .eq ↔ left = right := by
  constructor
  · intro tie
    simp only [compare, Ordering.then_eq_eq, Std.LawfulEqCmp.compare_eq_iff_eq] at tie
    obtain ⟨hour, minute, second, nanosecond⟩ := tie
    cases left
    cases right
    simp only [mk.injEq]
    exact ⟨hour, minute, second, nanosecond⟩
  · rintro rfl
    simp [compare]

/-- The place of a time among all times: a leap second is behind its second and before the next. -/
def place (time : TimeOfDay) : Nat := time.secondOfDay * 2000000000 + time.nanosecond

theorem compare_eq_place (left right : TimeOfDay) :
    left.compare right = Ord.compare left.place right.place := by
  obtain ⟨_, _, _, small, _⟩ := left.isTime
  obtain ⟨_, _, _, smaller, _⟩ := right.isTime
  rw [compare_eq_second]
  unfold place
  apply then_compare_eq (α := Nat) (β := Nat)
  · omega
  · omega
  · intro second
    rw [second]
    apply compare_eq_compare (α := Nat) (β := Nat) <;> omega

end TimeOfDay

namespace Instant

/-- The place of an instant among all instants: a leap second is behind its second and before the
next. -/
def place (instant : Instant) : Int := instant.seconds * 2000000000 + instant.subsecond

theorem compare_eq_place (left right : Instant) :
    left.compare right = Ord.compare left.place right.place := by
  have short := left.short
  have shortToo := right.short
  unfold compare place
  apply then_compare_eq (α := Int) (β := Int)
  · omega
  · omega
  · intro second
    rw [second]
    apply compare_eq_compare (α := Nat) (β := Int) <;> omega

/-- The count moves an instant by the length of a second if it moves it. -/
theorem place_counted (instant : Instant) :
    (¬instant.IsLeap ∨ instant.seconds = lastSecond) ∧ instant.counted.place = instant.place ∨
      (instant.IsLeap ∧ instant.seconds ≠ lastSecond) ∧
        instant.counted.place = instant.place + 1000000000 := by
  by_cases leap : instant.IsLeap
  · by_cases latest : instant.seconds = lastSecond
    · refine .inl ⟨.inr latest, ?_⟩
      rw [counted, counted?_eq_none_iff.mpr ⟨leap, latest⟩, Option.getD_none]
    · obtain ⟨second, within⟩ := counted_of_isLeap leap latest
      refine .inr ⟨⟨leap, latest⟩, ?_⟩
      unfold place
      omega
  · exact .inl ⟨.inl leap, by rw [counted_of_not_isLeap leap]⟩

/-- **The count keeps the order** of instants if none is counted into the second of the other. -/
theorem compare_counted {left right : Instant} (apart : ¬left.CountedInto right)
    (apartToo : ¬right.CountedInto left) :
    left.counted.compare right.counted = left.compare right := by
  have short := left.short
  have shortToo := right.short
  have high := left.high
  have highToo := right.high
  have moved := left.place_counted
  have movedToo := right.place_counted
  rw [compare_eq_place, compare_eq_place]
  simp only [CountedInto, IsLeap] at apart apartToo moved movedToo
  unfold place at moved movedToo ⊢
  apply compare_eq_compare (α := Int) (β := Int) <;> omega

theorem place_inj {left right : Instant} : left.place = right.place ↔ left = right := by
  constructor
  · intro same
    have short := left.short
    have shortToo := right.short
    have parts : left.seconds = right.seconds ∧ left.subsecond = right.subsecond := by
      unfold place at same
      omega
    cases left
    cases right
    simp only [mk.injEq]
    exact parts
  · exact congrArg place

end Instant

/-! ### The other way round -/

theorem Number.compare_swap (left right : Number) :
    right.compare left = (left.compare right).swap := by
  have floats (first second : Binary64) :
      (second.compare? first).getD .eq = ((first.compare? second).getD .eq).swap := by
    rw [Binary64.compare?, Binary64.compare?, Bool.or_comm]
    split
    · rfl
    · exact Std.OrientedOrd.eq_swap
  unfold compare
  cases left.toDecimal? with
  | none => cases right.toDecimal? <;> exact floats _ _
  | some first =>
    cases right.toDecimal? with
    | none => exact floats _ _
    | some second =>
      show second.compare first = (first.compare second).swap
      rw [Decimal.compare, Decimal.compare, max_comm]
      exact Std.OrientedOrd.eq_swap

namespace Value

/-- **Any two values compare the other way round as the reverse.** Two values of different kinds
compare by rank, like two values of a kind without an order. -/
theorem compare_swap (left right : Value) : right.compare left = (left.compare right).swap := by
  have ranks : Ord.compare right.kindRank left.kindRank =
      (Ord.compare left.kindRank right.kindRank).swap := Std.OrientedOrd.eq_swap
  cases left with
  | null | array | object => cases right <;> exact ranks
  | number left =>
    cases right with
    | number right => exact left.compare_swap right
    | _ => exact ranks
  | text left =>
    cases right with
    | text right => exact Std.OrientedOrd.eq_swap
    | _ => exact ranks
  | boolean left =>
    cases right with
    | boolean right => exact Std.OrientedOrd.eq_swap
    | _ => exact ranks
  | instant left =>
    cases right with
    | instant right =>
      rw [compare, compare, Instant.compare_eq_place, Instant.compare_eq_place]
      exact Std.OrientedOrd.eq_swap
    | _ => exact ranks
  | date left =>
    cases right with
    | date right =>
      rw [compare, compare, Date.compare_eq_dayNumber, Date.compare_eq_dayNumber]
      exact Std.OrientedOrd.eq_swap
    | _ => exact ranks
  | time left =>
    cases right with
    | time right =>
      rw [compare, compare, TimeOfDay.compare_eq_place, TimeOfDay.compare_eq_place]
      exact Std.OrientedOrd.eq_swap
    | _ => exact ranks
  | binary left =>
    cases right with
    | binary right => exact (compareBytes_swap left right).symm
    | _ => exact ranks

/-- A value ties with itself. -/
theorem compare_self (value : Value) : value.compare value = .eq := by
  have reverse := compare_swap value value
  cases compared : value.compare value with
  | eq => rfl
  | lt | gt =>
    rw [compared] at reverse
    cases reverse

/-- Bytes are compared as lists of numbers. -/
theorem compareBytes_eq_compare : ∀ left right : List UInt8, compareBytes left right =
    List.instLinearOrder.compare (left.map UInt8.toNat) (right.map UInt8.toNat)
  | [], [] | [], _ :: _ | _ :: _, [] => rfl
  | left :: lefts, right :: rights => by
    rw [compareBytes, compareBytes_eq_compare lefts rights, List.map_cons, List.map_cons]
    apply then_compare_eq (α := Nat) (β := List Nat)
    · exact fun less => List.cons_lt_cons_iff.mpr (.inl less)
    · exact fun more => List.cons_lt_cons_iff.mpr (.inl more)
    · intro same
      rw [same]
      apply compare_eq_compare (α := List Nat) (β := List Nat)
      · exact fun less => List.cons_lt_cons_iff.mpr (.inr ⟨rfl, less⟩)
      · exact fun more => List.cons_lt_cons_iff.mpr (.inr ⟨rfl, more⟩)
      · exact congrArg _

end Value

/-! ### Ordered kinds -/

/-- The kinds of values that have an order of their own. -/
inductive OrderedKind where
  | exact
  | float
  | text
  | boolean
  | instant
  | date
  | time
  | binary

/-- What the values of a kind are ordered by: the number that they denote, the place of a double
precision number among them all, the characters, false before true, the place in time, the days that
went by, the place in the day, and the bytes. -/
def OrderedKind.Key : OrderedKind → Type
  | .exact => ℚ
  | .float | .instant | .date => ℤ
  | .text => String
  | .boolean => Bool
  | .time => ℕ
  | .binary => List ℕ

instance : ∀ kind : OrderedKind, LinearOrder kind.Key
  | .exact => inferInstanceAs (LinearOrder ℚ)
  | .float | .instant | .date => inferInstanceAs (LinearOrder ℤ)
  | .text => inferInstanceAs (LinearOrder String)
  | .boolean => inferInstanceAs (LinearOrder Bool)
  | .time => inferInstanceAs (LinearOrder ℕ)
  | .binary => inferInstanceAs (LinearOrder (List ℕ))

namespace OrderedKind

/-- The value is of the kind, and this is its key. Double precision numbers that are no numbers have
none. -/
inductive Orders : (kind : OrderedKind) → Value → kind.Key → Prop where
  | exact {held : Number} {value : ℚ} (denoted : held.toRat? = some value) :
      Orders .exact (.number held) value
  | float (value : Binary64) (numeric : value.isNaN = false) :
      Orders .float (.number (.float value)) value.rank
  | text (value : String) : Orders .text (.text value) value
  | boolean (value : Bool) : Orders .boolean (.boolean value) value
  | instant (value : Instant) : Orders .instant (.instant value) value.place
  | date (value : Date) : Orders .date (.date value) value.dayNumber
  | time (value : TimeOfDay) : Orders .time (.time value) value.place
  | binary (bytes : List UInt8) : Orders .binary (.binary bytes) (bytes.map UInt8.toNat)

namespace Orders

variable {kind : OrderedKind} {left right : Value} {first second : kind.Key}

/-- **Values of a kind compare like their keys.** -/
theorem compare_eq (one : kind.Orders left first) (two : kind.Orders right second) :
    left.compare right = Ord.compare first second := by
  cases one with
  | exact denoted =>
    cases two with
    | exact denotedToo => exact Number.compare_of_toRat? denoted denotedToo
  | float value numeric =>
    cases two with
    | float other numericToo =>
      show (value.compare? other).getD .eq = _
      rw [Binary64.compare?, numeric, numericToo]
      rfl
  | text | boolean =>
    cases two
    rfl
  | instant =>
    cases two
    exact Instant.compare_eq_place _ _
  | date =>
    cases two
    exact Date.compare_eq_dayNumber _ _
  | time =>
    cases two
    exact TimeOfDay.compare_eq_place _ _
  | binary =>
    cases two
    exact Value.compareBytes_eq_compare _ _

/-- A value has one key. -/
theorem unique (one : kind.Orders left first) (two : kind.Orders left second) : first = second := by
  have tie := one.compare_eq two
  rw [Value.compare_self] at tie
  exact compare_eq_iff_eq.mp tie.symm

/-- **Values of a kind are equal if their keys are.** -/
theorem equal_iff (one : kind.Orders left first) (two : kind.Orders right second) :
    left.equal right = true ↔ first = second := by
  cases one with
  | exact denoted =>
    cases two with
    | exact denotedToo => exact Number.equal_of_toRat? denoted denotedToo
  | float value numeric =>
    cases two with
    | float other numericToo =>
      show value.equal other = true ↔ value.rank = other.rank
      simp [Binary64.equal, numeric, numericToo]
  | text | boolean =>
    cases two
    exact beq_iff_eq
  | instant =>
    cases two
    exact beq_iff_eq.trans Instant.place_inj.symm
  | date value =>
    cases two with
    | date other =>
      refine beq_iff_eq.trans (Date.compare_eq_iff.symm.trans ?_)
      rw [Date.compare_eq_dayNumber]
      exact Std.LawfulEqCmp.compare_eq_iff_eq
  | time value =>
    cases two with
    | time other =>
      refine beq_iff_eq.trans (TimeOfDay.compare_eq_iff.symm.trans ?_)
      rw [TimeOfDay.compare_eq_place]
      exact Std.LawfulEqCmp.compare_eq_iff_eq
  | binary bytes =>
    cases two with
    | binary others =>
      have distinct : Function.Injective UInt8.toNat := fun _ _ => UInt8.toNat_inj.mp
      exact beq_iff_eq.trans (List.map_injective_iff.mpr distinct).eq_iff.symm

end Orders

end OrderedKind

end TwinStore
