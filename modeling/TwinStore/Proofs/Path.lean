/-
**Paths.** A dotted name of a field is a path: the field's name, then names inside its value.

* `intercalate_splitDots`: the parts of a text, joined by dots, are the text.
* `fieldSegments_of_plain` and `isDotted_fieldHead`: a name without dots is its own path, and the
  head of any path is such a name.
* `Value.at` and `Record.atPath`: the value that a path leads to.
-/

import Mathlib.Data.List.Basic
import TwinStore.Record
import TwinStore.Sql.Field

namespace TwinStore

/-! ### Parts between dots -/

theorem splitDots_ne_nil (text : List Char) : splitDots text ≠ [] := by
  fun_cases splitDots text <;> simp

/-- A text of one part has no dot. -/
theorem splitDots_tail (text : List Char) : (splitDots text).tail = [] ↔ '.' ∉ text := by
  fun_induction splitDots text with
  | case1 => simp
  | case2 rest => simp [splitDots_ne_nil rest]
  | case3 char rest plain empty => exact absurd empty (splitDots_ne_nil rest)
  | case4 char rest plain part parts split step =>
    rw [split] at step
    have other : '.' ≠ char := fun dot => plain dot.symm
    simpa [other] using step

theorem intercalate_splitDots (text : List Char) :
    List.intercalate ['.'] (splitDots text) = text := by
  fun_induction splitDots text with
  | case1 => rfl
  | case2 rest step =>
    obtain ⟨part, parts, split⟩ := List.exists_cons_of_ne_nil (splitDots_ne_nil rest)
    rw [split] at step ⊢
    rw [List.intercalate_cons_cons, step]
    rfl
  | case3 char rest plain empty => exact absurd empty (splitDots_ne_nil rest)
  | case4 char rest plain part parts split step =>
    rw [split] at step
    cases parts with
    | nil => simpa using step
    | cons second others =>
      rw [List.intercalate_cons_cons] at step ⊢
      rw [← step]
      rfl

/-- A text without dots is its only part. -/
theorem splitDots_of_not_mem {text : List Char} (plain : '.' ∉ text) : splitDots text = [text] := by
  obtain ⟨first, rest, split⟩ := List.exists_cons_of_ne_nil (splitDots_ne_nil text)
  have alone := (splitDots_tail text).mpr plain
  have joined := intercalate_splitDots text
  rw [split, List.tail_cons] at alone
  subst alone
  rw [split] at joined ⊢
  simpa using joined

/-- No part has a dot. -/
theorem not_mem_splitDots (text : List Char) : ∀ part ∈ splitDots text, '.' ∉ part := by
  fun_induction splitDots text with
  | case1 => simp
  | case2 rest step =>
    intro part member
    rcases List.mem_cons.mp member with rfl | later
    · exact List.not_mem_nil
    · exact step part later
  | case3 char rest plain empty => exact absurd empty (splitDots_ne_nil rest)
  | case4 char rest plain first parts split step =>
    rw [split] at step
    intro part member
    rcases List.mem_cons.mp member with rfl | later
    · have other : '.' ≠ char := fun dot => plain dot.symm
      simpa [other] using step first List.mem_cons_self
    · exact step part (List.mem_cons_of_mem _ later)

/-! ### Names of fields -/

theorem isDotted_eq_false {field : String} : isDotted field = false ↔ '.' ∉ field.toList := by
  rw [isDotted, List.contains_eq_mem, decide_eq_false_iff_not]

/-- A name without dots is its own path. -/
theorem fieldSegments_of_plain {field : String} (plain : isDotted field = false) :
    fieldSegments field = [field] := by
  rw [fieldSegments, splitDots_of_not_mem (isDotted_eq_false.mp plain), List.map_singleton,
    String.ofList_toList]

/-- A path begins with its head. -/
theorem fieldSegments_eq_cons (field : String) :
    fieldSegments field = fieldHead field :: (fieldSegments field).tail := by
  obtain ⟨first, rest, split⟩ := List.exists_cons_of_ne_nil (splitDots_ne_nil field.toList)
  rw [fieldHead, fieldSegments, split]
  rfl

/-- The head of a path has no dots. -/
theorem isDotted_fieldHead (field : String) : isDotted (fieldHead field) = false := by
  obtain ⟨first, rest, split⟩ := List.exists_cons_of_ne_nil (splitDots_ne_nil field.toList)
  have head : fieldHead field = String.ofList first := by
    rw [fieldHead, fieldSegments, split]
    rfl
  rw [isDotted_eq_false, head, String.toList_ofList]
  exact not_mem_splitDots _ first (split ▸ List.mem_cons_self)

/-! ### Values at a path -/

/-- The value that the names lead to inside a value, null if they lead nowhere. -/
def Value.at (value : Value) : List String → Value
  | [] => value
  | name :: rest =>
    match value with
    | .object fields => ((Fields.get? fields name).getD .null).at rest
    | _ => .null

/-- The value at a path in a record, null if there is none. -/
def Record.atPath (record : Record) (field : String) : Value :=
  (Value.object record.fields).at (fieldSegments field)

theorem Record.atPath_eq (record : Record) (field : String) :
    record.atPath field = (record.get (fieldHead field)).at (fieldSegments field).tail := by
  rw [atPath, fieldSegments_eq_cons]
  rfl

end TwinStore
