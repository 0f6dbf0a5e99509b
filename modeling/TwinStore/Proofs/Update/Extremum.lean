/-
**Extrema in any order.** A field that receives the maxima of some values of one ordered kind, one
after the other, ends with the greatest of them, and with the least if it receives minima. Ties are
equal values, so the order in which they come does not show.

* `Extremum`: the two ends of an order, one definition and one proof for both.
* `preferred_isExtreme`: one operation keeps the one of two values that is nearer to the end.
  `run_isExtreme`: so a run of them keeps one at the end, by induction on the operands.
* `IsExtreme.equal`: any two values at the same end are equal.
* `extrema_of_any_order` is the main result. Beyond the ordered kinds it keeps what one operation
  does: its result is never behind the operand or the value before.
-/

import TwinStore.Proofs.Update
import TwinStore.Proofs.Value.Order

namespace TwinStore

/-- An end of an order. -/
inductive Extremum where
  | greatest
  | least

namespace Extremum

open UpdateOperation (presentValue? presentValue?_eq_some preferred)

variable {extremum : Extremum} {kind : OrderedKind}

/-- The operation that keeps what is nearer to the end. -/
def operation : Extremum → Value → UpdateOperation
  | .greatest => .max
  | .least => .min

/-- How an operand compares to the value whose place it takes. -/
def wanted : Extremum → Ordering
  | .greatest => .gt
  | .least => .lt

/-- What a field holds after an operation with each operand in turn. -/
def run (extremum : Extremum) (operands : List Value) (current : Option Value) : Option Value :=
  operands.foldl (fun current operand => (extremum.operation operand).apply current) current

theorem apply_operation (extremum : Extremum) (operand : Value) (current : Option Value) :
    (extremum.operation operand).apply current =
      some (preferred extremum.wanted operand (presentValue? current)) := by
  cases extremum <;> rfl

/-! ### Ends -/

/-- The key is at least as near to the end as another. -/
def Reaches {Key : Type} [LinearOrder Key] : Extremum → Key → Key → Prop
  | .greatest, key, other => other ≤ key
  | .least, key, other => key ≤ other

section Keys

variable {Key : Type} [LinearOrder Key] {first second third : Key}

theorem Reaches.refl (key : Key) : extremum.Reaches key key := by
  cases extremum <;> exact le_refl key

theorem Reaches.trans (one : extremum.Reaches first second) (two : extremum.Reaches second third) :
    extremum.Reaches first third := by
  cases extremum with
  | greatest => exact le_trans two one
  | least => exact le_trans one two

theorem Reaches.antisymm (one : extremum.Reaches first second)
    (two : extremum.Reaches second first) : first = second := by
  cases extremum with
  | greatest => exact le_antisymm two one
  | least => exact le_antisymm one two

theorem reaches_of_wanted (taken : compare first second = extremum.wanted) :
    extremum.Reaches first second := by
  cases extremum with
  | greatest => exact (compare_gt_iff_gt.mp taken).le
  | least => exact (compare_lt_iff_lt.mp taken).le

theorem reaches_of_not_wanted (kept : compare first second ≠ extremum.wanted) :
    extremum.Reaches second first := by
  cases extremum with
  | greatest => exact not_lt.mp fun more => kept (compare_gt_iff_gt.mpr more)
  | least => exact not_lt.mp fun less => kept (compare_lt_iff_lt.mpr less)

end Keys

/-- Among values of one ordered kind, one at the end of their order. -/
def IsExtreme (extremum : Extremum) (kind : OrderedKind) (values : List Value) (value : Value) :
    Prop :=
  value ∈ values ∧ ∃ key, kind.Orders value key ∧
    ∀ other ∈ values, ∃ place, kind.Orders other place ∧ extremum.Reaches key place

/-- **Two values at the same end are equal.** -/
theorem IsExtreme.equal {values : List Value} {value best : Value}
    (one : extremum.IsExtreme kind values value) (two : extremum.IsExtreme kind values best) :
    value.equal best = true := by
  obtain ⟨mem, key, ordered, reaches⟩ := one
  obtain ⟨memToo, place, orderedToo, reachesToo⟩ := two
  obtain ⟨seen, found, far⟩ := reaches best memToo
  obtain ⟨seenToo, foundToo, farToo⟩ := reachesToo value mem
  cases found.unique orderedToo
  cases foundToo.unique ordered
  exact (ordered.equal_iff orderedToo).mpr (far.antisymm farToo)

/-- Which values there are counts, not how they are listed. -/
theorem IsExtreme.congr {values others : List Value} {value : Value}
    (same : ∀ other, other ∈ values ↔ other ∈ others)
    (extreme : extremum.IsExtreme kind values value) : extremum.IsExtreme kind others value := by
  obtain ⟨mem, key, ordered, reaches⟩ := extreme
  exact ⟨(same _).mp mem, key, ordered, fun other member => reaches other ((same _).mpr member)⟩

/-- Where the end of some values meets others, the end of them all is found. -/
theorem IsExtreme.append {few rest : List Value} {chosen result : Value}
    (near : extremum.IsExtreme kind few chosen)
    (far : extremum.IsExtreme kind (chosen :: rest) result) :
    extremum.IsExtreme kind (few ++ rest) result := by
  obtain ⟨chosenMem, middle, ordered, past⟩ := near
  obtain ⟨mem, key, held, reaches⟩ := far
  obtain ⟨again, found, beyond⟩ := reaches chosen List.mem_cons_self
  cases found.unique ordered
  refine ⟨?_, key, held, fun other member => ?_⟩
  · rcases List.mem_cons.mp mem with rfl | later
    · exact List.mem_append_left _ chosenMem
    · exact List.mem_append_right _ later
  · rcases List.mem_append.mp member with early | later
    · obtain ⟨place, placed, reached⟩ := past other early
      exact ⟨place, placed, beyond.trans reached⟩
    · exact reaches other (List.mem_cons_of_mem _ later)

/-! ### Runs -/

/-- A value of an ordered kind is not null. -/
theorem present_of_orders {value : Value} {key : kind.Key} (ordered : kind.Orders value key) :
    presentValue? (some value) = some value := by
  cases ordered <;> rfl

/-- **One operation keeps the one of two values** that is nearer to the end. -/
theorem preferred_isExtreme (extremum : Extremum) {base operand : Value} {first second : kind.Key}
    (one : kind.Orders base first) (two : kind.Orders operand second) :
    extremum.IsExtreme kind [base, operand] (preferred extremum.wanted operand (some base)) := by
  rw [preferred]
  by_cases taken : operand.compare base = extremum.wanted
  · rw [if_pos taken]
    rw [two.compare_eq one] at taken
    refine ⟨List.mem_cons_of_mem _ List.mem_cons_self, second, two, List.forall_mem_cons.mpr
      ⟨⟨first, one, reaches_of_wanted taken⟩, List.forall_mem_singleton.mpr ?_⟩⟩
    exact ⟨second, two, .refl second⟩
  · rw [if_neg taken]
    rw [two.compare_eq one] at taken
    refine ⟨List.mem_cons_self, first, one, List.forall_mem_cons.mpr
      ⟨⟨first, one, .refl first⟩, List.forall_mem_singleton.mpr ?_⟩⟩
    exact ⟨second, two, reaches_of_not_wanted taken⟩

/-- **A run keeps a value at the end** of those it has seen. -/
theorem run_isExtreme (extremum : Extremum) {operands : List Value} {base : Value}
    (ordered : ∀ value ∈ base :: operands, ∃ key, kind.Orders value key) :
    ∃ result, extremum.run operands (some base) = some result ∧
      extremum.IsExtreme kind (base :: operands) result := by
  induction operands generalizing base with
  | nil =>
    obtain ⟨key, one⟩ := ordered base List.mem_cons_self
    refine ⟨base, rfl, List.mem_cons_self, key, one, fun other member => ?_⟩
    cases List.mem_singleton.mp member
    exact ⟨key, one, .refl key⟩
  | cons operand rest step =>
    obtain ⟨⟨first, one⟩, ⟨second, two⟩, others⟩ :=
      And.imp_right List.forall_mem_cons.mp (List.forall_mem_cons.mp ordered)
    have chosen := preferred_isExtreme extremum one two
    obtain ⟨key, kept, -⟩ := chosen.2
    obtain ⟨result, found, extreme⟩ := step (List.forall_mem_cons.mpr ⟨⟨key, kept⟩, others⟩)
    refine ⟨result, ?_, chosen.append extreme⟩
    rw [← found, run, List.foldl_cons, apply_operation, present_of_orders one]
    rfl

/-- What a run sees: the value before, if there is one, and the operands. -/
def seen (current : Option Value) (operands : List Value) : List Value :=
  (presentValue? current).toList ++ operands

/-- **A run from any start**, an absent and a null field included, keeps a value at the end of those
it has seen. -/
theorem run_seen (extremum : Extremum) {operands : List Value} {current : Option Value}
    (some_ : seen current operands ≠ [])
    (ordered : ∀ value ∈ seen current operands, ∃ key, kind.Orders value key) :
    ∃ result, extremum.run operands current = some result ∧
      extremum.IsExtreme kind (seen current operands) result := by
  unfold seen at *
  cases before : presentValue? current with
  | some base =>
    rw [before] at ordered
    rw [(presentValue?_eq_some.mp before).1]
    exact run_isExtreme extremum ordered
  | none =>
    rw [before] at ordered some_
    cases operands with
    | nil => exact absurd rfl some_
    | cons first rest =>
      obtain ⟨result, found, extreme⟩ := run_isExtreme extremum ordered
      refine ⟨result, ?_, extreme⟩
      rw [← found, run, List.foldl_cons, apply_operation, before]
      rfl

/-- Any value is at least as great as null. -/
theorem compare_null_ne_lt (value : Value) : value.compare .null ≠ .lt := by
  have ranks : value.compare .null = compare value.kindRank 0 := by cases value <;> rfl
  rw [ranks, Ne, Nat.compare_eq_lt]
  exact Nat.not_lt_zero _

/-- **One operation**, whatever the kinds: the result is never behind the operand, nor behind the
value before. -/
theorem apply_not_behind (extremum : Extremum) (operand : Value) (current : Option Value) :
    ∃ result, (extremum.operation operand).apply current = some result ∧
      result.compare operand ≠ extremum.wanted.swap ∧
        ∀ base ∈ presentValue? current, result.compare base ≠ extremum.wanted.swap := by
  have tie : Ordering.eq ≠ extremum.wanted.swap := by cases extremum <;> decide
  have apart : extremum.wanted ≠ extremum.wanted.swap := by cases extremum <;> decide
  rw [apply_operation]
  refine ⟨_, rfl, ?_⟩
  cases presentValue? current with
  | none =>
    rw [preferred, Value.compare_self]
    exact ⟨tie, fun base found => by cases found⟩
  | some base =>
    rw [preferred]
    split
    · next taken =>
      rw [Value.compare_self]
      refine ⟨tie, fun other found => ?_⟩
      cases found
      rwa [taken]
    · next kept =>
      rw [Value.compare_swap operand base]
      refine ⟨fun behind => kept (Ordering.swap_inj.mp behind), fun other found => ?_⟩
      cases found
      rwa [Value.compare_self]

/-- **Extrema of any order of updates.** A field receives maxima, or minima, of values of one
ordered kind, in any order and from any start. It ends with one of them, or with what it held, that
is at the end of the kind's order; and this equals every other that is, so two orders end equally.
Any two values compare the other way round as the reverse, and one maximum is never less than its
operand or the value before, nor one minimum greater than its operand or a value that was there. -/
theorem extrema_of_any_order :
    (∀ (extremum : Extremum) (kind : OrderedKind) (values : List Value) (current : Option Value),
      seen current values ≠ [] →
      (∀ value ∈ seen current values, ∃ key, kind.Orders value key) →
        ∀ order, order.Perm values → ∃ result, extremum.run order current = some result ∧
          extremum.IsExtreme kind (seen current values) result ∧
          ∀ best, extremum.IsExtreme kind (seen current values) best → result.equal best = true) ∧
    (∀ left right : Value, right.compare left = (left.compare right).swap) ∧
    ∀ (operand : Value) (current : Option Value),
      (∃ result, (UpdateOperation.max operand).apply current = some result ∧
        result.compare operand ≠ .lt ∧ result.compare (current.getD .null) ≠ .lt) ∧
      ∃ result, (UpdateOperation.min operand).apply current = some result ∧
        result.compare operand ≠ .gt ∧
        ∀ base ∈ presentValue? current, result.compare base ≠ .gt := by
  refine ⟨fun extremum kind values current some_ ordered order perm => ?_, Value.compare_swap,
    fun operand current => ⟨?_, apply_not_behind .least operand current⟩⟩
  · have same (value : Value) : value ∈ seen current order ↔ value ∈ seen current values := by
      rw [seen, seen, List.mem_append, List.mem_append, perm.mem_iff]
    obtain ⟨first, member⟩ := List.exists_mem_of_ne_nil _ some_
    have someToo : seen current order ≠ [] := List.ne_nil_of_mem ((same first).mpr member)
    obtain ⟨result, found, extreme⟩ :=
      run_seen extremum someToo fun value mem => ordered value ((same value).mp mem)
    have moved := extreme.congr same
    exact ⟨result, found, moved, fun best => moved.equal⟩
  · obtain ⟨result, found, operands, before⟩ := apply_not_behind .greatest operand current
    refine ⟨result, found, operands, ?_⟩
    cases current with
    | none => exact compare_null_ne_lt result
    | some base =>
      by_cases null : base = .null
      · rw [null]
        exact compare_null_ne_lt result
      · exact before base (presentValue?_eq_some.mpr ⟨rfl, null⟩)

/-- The greatest integer that a word holds, three in two forms, and a bit more than three. -/
def mixed : List Value :=
  [.number (.unsigned 18446744073709551615), .number (.signed 3), .number (.decimal ⟨30, 1⟩),
    .number (.decimal ⟨30000000000000000001, 19⟩)]

theorem extrema_of_any_order_mixed :
    seen (some .null) mixed ≠ [] ∧
    (∀ value ∈ seen (some .null) mixed, ∃ key, OrderedKind.exact.Orders value key) ∧
    mixed.reverse.Perm mixed ∧
    ∃ result, Extremum.least.run mixed.reverse (some .null) = some result ∧
      Extremum.least.IsExtreme .exact (seen (some .null) mixed) result ∧
      ∀ best, Extremum.least.IsExtreme .exact (seen (some .null) mixed) best →
        result.equal best = true := by
  have ordered : ∀ value ∈ seen (some .null) mixed, ∃ key, OrderedKind.exact.Orders value key := by
    intro value member
    change value ∈ mixed at member
    simp only [mixed, List.mem_cons, List.not_mem_nil, or_false] at member
    rcases member with rfl | rfl | rfl | rfl <;> exact ⟨_, .exact rfl⟩
  have some_ : seen (some .null) mixed ≠ [] := List.cons_ne_nil _ _
  exact ⟨some_, ordered, mixed.reverse_perm, extrema_of_any_order.1 .least .exact mixed (some .null)
    some_ ordered mixed.reverse mixed.reverse_perm⟩

end Extremum

end TwinStore
