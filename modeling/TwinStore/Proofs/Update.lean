/-
**What updates leave alone.** A field without an operation keeps its value, and stamping an update
changes what it does to the fields that the store keeps for itself, and nothing else.

* `UpdateOperation.presentValue?_eq_some`: a null field counts as absent.
* `UpdateSet.get?_applyTo_of_untouched`: fields without an operation; `UpdateSet.get?_applyTo`: an
  operation is applied once, to its own field. `UpdateSet.get?_applyTo_eq`: both at once.
* `UpdateSet.get?_stamped`: the operation that a stamped update has on each field.
* `UpdateSet.isStampOf_stamped`: the same as what it is good for, `UpdateSet.IsStampOf`.
-/

import TwinStore.Proofs.Fields
import TwinStore.Proofs.Record
import TwinStore.Update

namespace TwinStore

/-- What counts as a value is there and is not null. -/
theorem UpdateOperation.presentValue?_eq_some {current : Option Value} {base : Value} :
    presentValue? current = some base ↔ current = some base ∧ base ≠ .null := by
  constructor
  · intro present
    rcases current with _ | _ | _ <;> cases present <;> exact ⟨rfl, nofun⟩
  · rintro ⟨rfl, some_⟩
    cases base with
    | null => exact absurd rfl some_
    | _ => rfl

namespace UpdateSet

/-- An operation leaves every other field as it is. -/
theorem get?_applyOne_other {field name : String} (different : field ≠ name) (fields : Fields Value)
    (operation : UpdateOperation) :
    (applyOne fields field operation).get? name = fields.get? name := by
  unfold applyOne
  split
  · rw [Fields.get?_insert, if_neg different]
  · rw [Fields.get?_erase, if_neg different]

/-- **A field without an operation keeps its value.** -/
theorem get?_applyTo_of_untouched {update : UpdateSet} {name : String}
    (untouched : update.get? name = none) (fields : Fields Value) :
    (update.applyTo fields).get? name = fields.get? name := by
  induction update generalizing fields with
  | nil => rfl
  | cons entry rest step =>
    rw [Fields.get?] at untouched
    split at untouched
    · cases untouched
    · next different =>
      show (applyTo rest (applyOne fields entry.1 entry.2)).get? name = _
      rw [step untouched, get?_applyOne_other different]

/-- An operation gives its field the value that it makes of it. -/
theorem get?_applyOne_self (fields : Fields Value) (field : String)
    (operation : UpdateOperation) :
    (applyOne fields field operation).get? field = operation.apply (fields.get? field) := by
  unfold applyOne
  cases made : operation.apply (fields.get? field) with
  | some value => exact (Fields.get?_insert ..).trans (if_pos rfl)
  | none => exact (Fields.get?_erase ..).trans (if_pos rfl)

/-- **An operation is applied once, to its own field.** -/
theorem get?_applyTo {update : UpdateSet} {name : String} {operation : UpdateOperation}
    (distinct : (update.map Prod.fst).Nodup) (found : update.get? name = some operation)
    (fields : Fields Value) :
    (update.applyTo fields).get? name = operation.apply (fields.get? name) := by
  induction update generalizing fields with
  | nil => cases found
  | cons entry rest step =>
    obtain ⟨apart, later⟩ := List.nodup_cons.mp distinct
    show (applyTo rest (applyOne fields entry.1 entry.2)).get? name = _
    rw [Fields.get?] at found
    split at found
    · next here =>
      subst here
      cases found
      rw [get?_applyTo_of_untouched (Fields.get?_eq_none.mpr apart), get?_applyOne_self]
    · next different => rw [step later found, get?_applyOne_other different]

/-- **What an update makes of each field**: of one with an operation the result of the operation on
its old value alone, of any other its old value. -/
theorem get?_applyTo_eq {update : UpdateSet} (distinct : (update.map Prod.fst).Nodup)
    (fields : Fields Value) (name : String) :
    (update.applyTo fields).get? name =
      match update.get? name with
      | some operation => operation.apply (fields.get? name)
      | none => fields.get? name := by
  split
  · next operation found => exact get?_applyTo distinct found fields
  · next untouched => exact get?_applyTo_of_untouched untouched fields

/-- An operation on one field keeps the fields in order. -/
theorem sorted_applyOne {fields : Fields Value} (sorted : Fields.Sorted fields) (field : String)
    (operation : UpdateOperation) : Fields.Sorted (applyOne fields field operation) := by
  unfold applyOne
  split
  · exact Fields.sorted_insert sorted _ _
  · exact Fields.sorted_erase sorted _

theorem sorted_applyTo (update : UpdateSet) {fields : Fields Value}
    (sorted : Fields.Sorted fields) : Fields.Sorted (update.applyTo fields) := by
  unfold applyTo
  induction update generalizing fields with
  | nil => exact sorted
  | cons entry rest step => exact step (sorted_applyOne sorted entry.1 entry.2)

/-- An update sees no more of a field than its value. -/
theorem get?_applyTo_congr {update : UpdateSet} (distinct : (update.map Prod.fst).Nodup)
    {fields others : Fields Value} {name : String} (same : fields.get? name = others.get? name) :
    (update.applyTo fields).get? name = (update.applyTo others).get? name := by
  rw [get?_applyTo_eq distinct, get?_applyTo_eq distinct, same]

/-! ### The stamp -/

/-- The fields that an update must not touch. -/
def fixedNames : List String := [idName, documentIdName, createdName]

/-- A stamped update has the operations of the update on the fields of the user, none on the id and
the creation stamp, and sets the stamp of the last change. -/
structure IsStampOf (stamped update : UpdateSet) (now : Instant) : Prop where
  sorted : Fields.Sorted stamped
  kept : ∀ name, isReserved name = false → stamped.get? name = update.get? name
  dropped : ∀ name ∈ fixedNames, stamped.get? name = none
  stamp : stamped.get? updatedName = some (.set (.instant now.floorMilliseconds))

theorem get?_stamped (update : UpdateSet) (now : Instant) (name : String) :
    (update.stamped now).get? name =
      if name = updatedName then some (.set (.ofInstant now))
      else if name ∈ fixedNames then none
      else update.get? name := by
  unfold stamped
  rw [Fields.get?_insert, Fields.get?_erase, Fields.get?_erase, Fields.get?_erase]
  by_cases last : updatedName = name
  · rw [if_pos last, if_pos last.symm]
  · rw [if_neg last, if_neg (Ne.symm last)]
    by_cases fixed : name ∈ fixedNames
    · rw [if_pos fixed]
      simp only [fixedNames, List.mem_cons, List.not_mem_nil, or_false] at fixed
      rcases fixed with rfl | rfl | rfl <;> simp
    · rw [if_neg fixed]
      simp only [fixedNames, List.mem_cons, List.not_mem_nil, or_false, not_or] at fixed
      rw [if_neg (Ne.symm fixed.2.2), if_neg (Ne.symm fixed.2.1), if_neg (Ne.symm fixed.1)]

/-- A stamped update sets the stamp at least. -/
theorem stamped_ne_nil (update : UpdateSet) (now : Instant) : update.stamped now ≠ [] := by
  intro none_
  have stamp := get?_stamped update now updatedName
  rw [none_, if_pos rfl] at stamp
  cases stamp

/-- On a field of the user a stamped update has the operation that the update has. -/
theorem get?_stamped_of_plain (update : UpdateSet) (now : Instant) {name : String}
    (plain : isReserved name = false) : (update.stamped now).get? name = update.get? name := by
  obtain ⟨notId, notDocumentId, notCreated, notUpdated⟩ := Record.isReserved_eq_false.mp plain
  rw [get?_stamped, if_neg notUpdated, if_neg]
  simp [fixedNames, notId, notDocumentId, notCreated]

/-- **The stamp.** -/
theorem isStampOf_stamped {update : UpdateSet} (sorted : Fields.Sorted update) (now : Instant) :
    (update.stamped now).IsStampOf update now where
  sorted := Fields.sorted_insert (Fields.sorted_erase (Fields.sorted_erase
    (Fields.sorted_erase sorted idName) documentIdName) createdName) updatedName _
  kept _ plain := get?_stamped_of_plain update now plain
  dropped name fixed := by
    have different : name ≠ updatedName := by
      rintro rfl
      exact absurd fixed (by decide)
    rw [get?_stamped, if_neg different, if_pos fixed]
  stamp := by
    rw [get?_stamped, if_pos rfl]
    rfl

namespace IsStampOf

variable {stamped update : UpdateSet} {now : Instant}

theorem nodup (stamp : stamped.IsStampOf update now) : (stamped.map Prod.fst).Nodup :=
  Fields.nodup_of_sorted stamp.sorted

theorem not_fixed (stamp : stamped.IsStampOf update now) {name : String}
    (member : name ∈ stamped.map Prod.fst) : name ∉ fixedNames :=
  fun fixed => Fields.get?_eq_none.mp (stamp.dropped name fixed) member

theorem updatedName_mem (stamp : stamped.IsStampOf update now) :
    updatedName ∈ stamped.map Prod.fst := by
  by_contra missing
  have found := stamp.stamp
  rw [Fields.get?_eq_none.mpr missing] at found
  cases found

end IsStampOf

end UpdateSet

end TwinStore
