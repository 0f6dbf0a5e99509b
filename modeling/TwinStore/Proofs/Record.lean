/-
**Records from entries.** What each entry of a row or document adds to the record.

* `addEntry_id`, `addEntry_createdAt`, `addEntry_updatedAt`, `addEntry_fields`: one entry, part by
  part of the record.
* `materialize_skip`: where nulls are skipped, null fields leave nothing behind.
* `materialize_stamped`: an id, two stamps and fields in order are the record of these parts.
-/

import Mathlib.Data.List.Nodup
import TwinStore.Proofs.Fields
import TwinStore.Record

namespace TwinStore.Record

/-- Equality of records, with fields by value. -/
def equal (left right : Record) : Bool :=
  left.className == right.className && left.id == right.id &&
    decide (left.createdAt = right.createdAt) && decide (left.updatedAt = right.updatedAt) &&
    Value.equalFields left.fields right.fields

/-! ### One entry -/

theorem isReserved_eq_false {name : String} :
    isReserved name = false ↔
      name ≠ idName ∧ name ≠ documentIdName ∧ name ≠ createdName ∧ name ≠ updatedName := by
  rw [isReserved, List.contains_eq_mem, decide_eq_false_iff_not]
  simp only [reservedNames, List.mem_cons, List.not_mem_nil, or_false, not_or, ne_eq]

/-- A field of the user is inserted, unless it is a null to skip. -/
theorem addEntry_plain {name : String} (plain : isReserved name = false) (nulls : NullPolicy)
    (record : Record) (value : Value) :
    addEntry nulls record name value =
      if value.isNull ∧ nulls = .skip then record
      else { record with fields := record.fields.insert name value } := by
  obtain ⟨notId, notDocumentId, notCreated, notUpdated⟩ := isReserved_eq_false.mp plain
  have notEither : ¬(name = idName ∨ name = documentIdName) := by
    rintro (isId | isDocumentId)
    · exact notId isId
    · exact notDocumentId isDocumentId
  rw [addEntry, if_neg notEither, if_neg notCreated, if_neg notUpdated]

section Entry

variable (nulls : NullPolicy) (record : Record) (name : String) (value : Value)

theorem addEntry_className : (addEntry nulls record name value).className = record.className := by
  unfold addEntry
  repeat' split
  all_goals rfl

theorem addEntry_id :
    (addEntry nulls record name value).id =
      if name = idName ∨ name = documentIdName then idText? value else record.id := by
  unfold addEntry
  split
  · rfl
  · repeat' split
    all_goals rfl

theorem addEntry_createdAt :
    (addEntry nulls record name value).createdAt =
      if name = createdName then value.instant? else record.createdAt := by
  unfold addEntry
  split
  · next isId =>
    have other : name ≠ createdName := by rcases isId with rfl | rfl <;> decide
    rw [if_neg other]
  · split
    · rfl
    · repeat' split
      all_goals rfl

theorem addEntry_updatedAt :
    (addEntry nulls record name value).updatedAt =
      if name = updatedName then value.instant? else record.updatedAt := by
  unfold addEntry
  split
  · next isId =>
    have other : name ≠ updatedName := by rcases isId with rfl | rfl <;> decide
    rw [if_neg other]
  · split
    · next isCreated =>
      have other : name ≠ updatedName := by subst isCreated; decide
      rw [if_neg other]
    · split
      · rfl
      · split <;> rfl

/-- An entry becomes a field unless its name is kept for the store, or it is a null to skip. -/
theorem addEntry_fields :
    (addEntry nulls record name value).fields =
      if isReserved name ∨ (value.isNull ∧ nulls = .skip) then record.fields
      else record.fields.insert name value := by
  by_cases reserved : isReserved name = true
  · rw [if_pos (.inl reserved)]
    simp only [isReserved, reservedNames, List.contains_iff_mem, List.mem_cons,
      List.not_mem_nil, or_false] at reserved
    rcases reserved with rfl | rfl | rfl | rfl <;> rfl
  · rw [addEntry_plain (Bool.eq_false_iff.mpr reserved)]
    by_cases skipped : value.isNull = true ∧ nulls = .skip
    · rw [if_pos skipped, if_pos (.inr skipped)]
    · rw [if_neg skipped, if_neg (not_or.mpr ⟨reserved, skipped⟩)]

end Entry

theorem eq_of_parts {left right : Record} (className : left.className = right.className)
    (id : left.id = right.id) (createdAt : left.createdAt = right.createdAt)
    (updatedAt : left.updatedAt = right.updatedAt) (fields : left.fields = right.fields) :
    left = right := by
  cases left
  cases right
  simp_all

/-! ### Nulls -/

/-- The entry leaves something behind where nulls are skipped. -/
def matters (entry : String × Value) : Bool := isReserved entry.1 || !entry.2.isNull

theorem addEntry_of_not_matters {entry : String × Value} (nothing : matters entry = false)
    (record : Record) : addEntry .skip record entry.1 entry.2 = record := by
  simp only [matters, Bool.or_eq_false_iff, Bool.not_eq_false'] at nothing
  obtain ⟨plain, isNull⟩ := nothing
  rw [addEntry_plain plain, if_pos ⟨isNull, rfl⟩]

/-- **Null fields leave nothing behind where nulls are skipped.** -/
theorem materialize_skip (className : String) (entries : List (String × Value)) :
    materialize className .skip entries = materialize className .skip (entries.filter matters) := by
  unfold materialize
  rw [List.foldl_filter]
  congr 1
  funext record entry
  split
  · rfl
  · next nothing =>
    exact addEntry_of_not_matters (Bool.eq_false_iff.mpr nothing) record

/-! ### The parts of a record -/

/-- Fields that are not null, or that may be, are inserted one after the other. -/
theorem foldl_addEntry_fields {nulls : NullPolicy} {entries : List (String × Value)}
    (plain : ∀ entry ∈ entries, isReserved entry.1 = false)
    (kept : nulls = .keep ∨ ∀ entry ∈ entries, entry.2.isNull = false) (record : Record) :
    entries.foldl (fun record entry => addEntry nulls record entry.1 entry.2) record =
      { record with fields := record.fields.overlay entries } := by
  induction entries generalizing record with
  | nil => rfl
  | cons entry rest step =>
    have plainRest : ∀ other ∈ rest, isReserved other.1 = false :=
      fun other member => plain other (List.mem_cons_of_mem _ member)
    have keptRest : nulls = .keep ∨ ∀ other ∈ rest, other.2.isNull = false :=
      kept.imp_right fun each other member => each other (List.mem_cons_of_mem _ member)
    have notReserved : isReserved entry.1 = false := plain entry List.mem_cons_self
    have notSkipped : ¬(entry.2.isNull = true ∧ nulls = .skip) := by
      rintro ⟨isNull, rfl⟩
      rcases kept with keep | each
      · cases keep
      · rw [each entry List.mem_cons_self] at isNull
        cases isNull
    rw [List.foldl_cons, addEntry_plain notReserved, if_neg notSkipped, step plainRest keptRest]
    rfl

/-- **An id, two stamps and fields in order are the record of these parts.** -/
theorem materialize_stamped {className : String} {nulls : NullPolicy} {idField id : String}
    {createdAt updatedAt : Instant} {fields : List (String × Value)}
    (isId : idField = idName ∨ idField = documentIdName) (sorted : Fields.Sorted fields)
    (plain : ∀ entry ∈ fields, isReserved entry.1 = false)
    (kept : nulls = .keep ∨ ∀ entry ∈ fields, entry.2.isNull = false) :
    materialize className nulls
        ([(idField, .text id), (createdName, .instant createdAt), (updatedName, .instant updatedAt)]
          ++ fields) =
      ⟨className, some id, some createdAt, some updatedAt, fields⟩ := by
  rw [materialize, List.foldl_append, foldl_addEntry_fields plain kept]
  have stamps : List.foldl (fun record (entry : String × Value) =>
        addEntry nulls record entry.1 entry.2) (empty className)
      [(idField, .text id), (createdName, .instant createdAt), (updatedName, .instant updatedAt)] =
      ⟨className, some id, some createdAt, some updatedAt, []⟩ := by
    rcases isId with rfl | rfl <;> rfl
  rw [stamps]
  show Record.mk className _ _ _ (Fields.ofEntries fields) = _
  rw [Fields.ofEntries_of_sorted sorted]

end TwinStore.Record
