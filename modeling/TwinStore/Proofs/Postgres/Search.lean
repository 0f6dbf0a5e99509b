/-
**Searches for rows.** Which rows of a table a statement looks for, in which order, and where it
ends when rows are locked or have changed since they were found.

* `Search`: the rows that fit, and their order. `Search.found` are those of a table.
* `Search.seek` goes through what was found, and `seek_spec` says where it ends.
* `mem_found`, `found_eq_nil` and `found_insert_of_unfit`: what is found in tables.
* `Search.ascending`: the order of a key.
-/

import Mathlib.Data.List.Sort
import TwinStore.Proofs.Fields

namespace TwinStore.Postgres

variable {ρ : Type}

/-- Which rows are looked for, and in which order. -/
structure Search (ρ : Type) where
  fits : ρ → Bool
  order : List (String × ρ) → List (String × ρ)
  perm : ∀ rows, (order rows).Perm rows
  /-- The order of rows does not depend on the others. -/
  filter : ∀ rows (chosen : String × ρ → Bool),
    order (rows.filter chosen) = (order rows).filter chosen

/-- Where a search ends. -/
inductive Sought (ρ : Type) where
  | nothing
  /-- The first row of the rest is to be waited for. -/
  | blocked (rest : List String)
  | found (id : String) (row : ρ)

namespace Search

variable (search : Search ρ)

/-- The ids of the rows that fit, in order. -/
def found (table : Fields ρ) : List String :=
  (search.order (table.filter fun entry => search.fits entry.2)).map Prod.fst

/-- The row of an id fits. -/
def fitsIn (table : Fields ρ) (id : String) : Bool := (table.get? id).any search.fits

/-- The first row that was found in a table as it was seen and that fits in the table as it is. -/
def first? (seen table : Fields ρ) : Option String :=
  (search.found seen).find? (search.fitsIn table)

/-- Goes through rows that were found. A row that is locked is waited for, and one that does not fit
any more is left out. -/
def seek (locked : String → Bool) (table : Fields ρ) : List String → Sought ρ
  | [] => .nothing
  | id :: rest =>
    if locked id then .blocked (id :: rest)
    else
      match (table.get? id).filter search.fits with
      | some row => .found id row
      | none => seek locked table rest

variable {search} {locked : String → Bool} {table : Fields ρ}

theorem fitsIn_of_filter {id : String} :
    search.fitsIn table id = ((table.get? id).filter search.fits).isSome := by
  unfold fitsIn
  cases table.get? id with
  | none => rfl
  | some row => cases fit : search.fits row <;> simp [fit]

variable (search locked table) in
/-- **Where a search ends.** -/
theorem seek_spec (ids : List String) :
    match search.seek locked table ids with
    | .nothing => ids.find? (search.fitsIn table) = none
    | .blocked rest =>
      (∃ skipped, ids = skipped ++ rest ∧ ∀ id ∈ skipped, search.fitsIn table id = false) ∧
        ∃ id ∈ rest, locked id = true
    | .found id row =>
      ids.find? (search.fitsIn table) = some id ∧ table.get? id = some row ∧ locked id = false := by
  induction ids with
  | nil => rfl
  | cons id rest step =>
    unfold seek
    by_cases held : locked id = true
    · rw [if_pos held]
      exact ⟨⟨[], rfl, nofun⟩, id, List.mem_cons_self, held⟩
    · rw [if_neg held]
      cases looked : (table.get? id).filter search.fits with
      | some row =>
        have fit : search.fitsIn table id = true := by rw [fitsIn_of_filter, looked]; rfl
        obtain ⟨there, -⟩ := Option.filter_eq_some_iff.mp looked
        exact ⟨List.find?_cons_of_pos fit, there, Bool.eq_false_iff.mpr held⟩
      | none =>
        have unfit : search.fitsIn table id = false := by rw [fitsIn_of_filter, looked]; rfl
        have skip : (id :: rest).find? (search.fitsIn table) =
            rest.find? (search.fitsIn table) := List.find?_cons_of_neg (by simp [unfit])
        simp only [skip]
        revert step
        cases search.seek locked table rest with
        | nothing => exact fun same => same
        | found other row => exact fun same => same
        | blocked late =>
          rintro ⟨⟨skipped, rfl, others⟩, waits⟩
          exact ⟨⟨id :: skipped, rfl, List.forall_mem_cons.mpr ⟨unfit, others⟩⟩, waits⟩

/-! ### Rows that fit -/

theorem fitsIn_eq_true {id : String} :
    search.fitsIn table id = true ↔ ∃ row, table.get? id = some row ∧ search.fits row = true := by
  unfold fitsIn
  cases table.get? id <;> simp

/-- What is found in a table is what fits there. -/
theorem mem_found (sorted : Fields.Sorted table) {id : String} :
    id ∈ search.found table ↔ search.fitsIn table id = true := by
  rw [fitsIn_eq_true, found, List.mem_map]
  constructor
  · rintro ⟨entry, there, rfl⟩
    obtain ⟨inside, fit⟩ := List.mem_filter.mp ((search.perm _).mem_iff.mp there)
    exact ⟨entry.2, Fields.get?_of_mem (Fields.nodup_of_sorted sorted) inside, fit⟩
  · rintro ⟨row, there, fit⟩
    have inside := Fields.mem_of_get? there
    exact ⟨(id, row), (search.perm _).mem_iff.mpr (List.mem_filter.mpr ⟨inside, fit⟩), rfl⟩

/-- In the table that was seen, everything that was found fits. -/
theorem first?_self (sorted : Fields.Sorted table) :
    search.first? table table = (search.found table).head? := by
  unfold first?
  cases seen : search.found table with
  | nil => rfl
  | cons id rest =>
    have fit : search.fitsIn table id = true := (mem_found sorted).mp (seen ▸ List.mem_cons_self)
    exact List.find?_cons_of_pos fit

/-- Searches for the same rows find something in the same tables. -/
theorem found_eq_nil {other : Search ρ} (same : search.fits = other.fits) :
    search.found table = [] ↔ other.found table = [] := by
  unfold found
  rw [List.map_eq_nil_iff, List.map_eq_nil_iff, ← List.length_eq_zero_iff,
    ← List.length_eq_zero_iff, (search.perm _).length_eq, (other.perm _).length_eq, same]

/-- A row that fits no more leaves the order of the others alone. -/
theorem found_insert_of_unfit (sorted : Fields.Sorted table) (id : String) {row : ρ}
    (unfit : search.fits row = false) :
    search.found (table.insert id row) = (search.found table).filter fun other => other ≠ id := by
  have dropped : (table.insert id row).filter (fun entry => search.fits entry.2) =
      (table.filter fun entry => search.fits entry.2).filter fun entry => entry.1 ≠ id := by
    rw [Fields.filter_insert_of_not sorted id unfit, Fields.erase, List.filter_filter,
      List.filter_filter]
    simp only [Bool.and_comm]
  rw [found, dropped, search.filter, found, List.filter_map]
  rfl

/-! ### Order -/

section Ascending

variable {α κ : Type} (before : α → α → Prop) [DecidableRel before] [IsTrans α before]

/-- A row is put where it is put among those that are chosen. -/
theorem filter_orderedInsert (chosen : α → Bool) (row : α) {rows : List α}
    (ranked : rows.Pairwise before) :
    (rows.orderedInsert before row).filter chosen =
      if chosen row then (rows.filter chosen).orderedInsert before row else rows.filter chosen := by
  induction rows with
  | nil => cases picked : chosen row <;> simp [picked]
  | cons first rest step =>
    obtain ⟨least, later⟩ := List.pairwise_cons.mp ranked
    by_cases ahead : before row first
    · have least : ∀ other ∈ (first :: rest).filter chosen, before row other := by
        intro other member
        obtain rfl | inside := List.mem_cons.mp (List.mem_of_mem_filter member)
        · exact ahead
        · exact IsTrans.trans _ _ _ ahead (least other inside)
      have front : ((first :: rest).filter chosen).orderedInsert before row =
          row :: (first :: rest).filter chosen := by
        cases kept : (first :: rest).filter chosen with
        | nil => rfl
        | cons head tail =>
          exact List.orderedInsert_cons_of_le _ _ (least head (kept ▸ List.mem_cons_self))
      rw [List.orderedInsert_cons_of_le _ _ ahead, List.filter_cons, front]
    · rw [List.orderedInsert_of_not_le _ _ ahead, List.filter_cons, step later, List.filter_cons]
      cases chosen row <;> cases chosen first <;>
        simp [List.orderedInsert_of_not_le _ _ ahead]

/-- The rows that are chosen are in the order in which they are among all. -/
theorem filter_insertionSort [Std.Total before] (chosen : α → Bool) (rows : List α) :
    (rows.filter chosen).insertionSort before = (rows.insertionSort before).filter chosen := by
  induction rows with
  | nil => rfl
  | cons row rest step =>
    rw [List.insertionSort_cons, filter_orderedInsert before chosen row
      (List.pairwise_insertionSort _ rest), ← step, List.filter_cons]
    split <;> rfl

/-- The rows that fit, in ascending order of a key. -/
def ascending [LinearOrder κ] (fits : ρ → Bool) (key : ρ → κ) : Search ρ :=
  let before := fun left right : String × ρ => key left.2 ≤ key right.2
  have : IsTrans (String × ρ) before := ⟨fun _ _ _ => le_trans⟩
  have : Std.Total before := ⟨fun _ _ => le_total ..⟩
  { fits := fits
    order := List.insertionSort before
    perm := List.perm_insertionSort before
    filter := fun rows chosen => filter_insertionSort before chosen rows }

end Ascending

end Search

end TwinStore.Postgres
