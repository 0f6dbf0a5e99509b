/-
**Marks in a text.** A character that ends a part of a text, provided that the part does not hold
it.

* `exists_behind`: a mark that a text does not hold stands behind it.
* `first_unique` and `exists_first`: a text can be cut at the first mark, in one way.
-/

import Mathlib.Data.List.Basic

namespace TwinStore

/-- A mark that a text does not hold stands behind it. -/
theorem exists_behind {mark : Char} {left rest front back : List Char} (absent : mark ∉ left)
    (same : left ++ rest = front ++ mark :: back) :
    ∃ between, front = left ++ between ∧ rest = between ++ mark :: back := by
  rcases List.append_eq_append_iff.mp same with behind | ⟨inside, cut, behind⟩
  · exact behind
  · cases inside with
    | nil => exact ⟨[], by rw [cut, List.append_nil, List.append_nil], behind.symm⟩
    | cons first more =>
      obtain ⟨rfl, -⟩ := List.cons.inj behind
      exact absurd (cut ▸ List.mem_append_right _ List.mem_cons_self) absent

/-- A text is cut at the first mark in one way. -/
theorem first_unique {mark : Char} {first second rest other : List Char} (absent : mark ∉ first)
    (also : mark ∉ second) (same : first ++ mark :: rest = second ++ mark :: other) :
    first = second ∧ rest = other := by
  obtain ⟨between, longer, behind⟩ := exists_behind absent same
  cases between with
  | nil =>
    rw [List.append_nil] at longer
    exact ⟨longer.symm, (List.cons.inj behind).2⟩
  | cons char more =>
    obtain ⟨rfl, -⟩ := List.cons.inj behind
    exact absurd (longer ▸ List.mem_append_right _ List.mem_cons_self) also

/-- A text with a mark can be cut at the first one. -/
theorem exists_first (mark : Char) (front back : List Char) : ∃ first rest,
    mark ∉ first ∧ back <:+ rest ∧ first ++ mark :: rest = front ++ mark :: back := by
  by_cases inside : mark ∈ front
  · obtain ⟨first, more, rfl, absent⟩ := List.eq_append_cons_of_mem inside
    refine ⟨first, more ++ mark :: back, absent, ?_, by rw [List.append_assoc, List.cons_append]⟩
    exact (List.suffix_cons mark back).trans (List.suffix_append more _)
  · exact ⟨front, back, inside, List.suffix_rfl, rfl⟩

end TwinStore
