/-
**Updates that are sent twice.** An update reaches the fields that it has an operation for, each
through its own old value, and no others. Setting, removing, keeping an extremum and removing items
do nothing more when they are done again, so an update of such operations may be retried.

* `applyTo_perm`: operations on different fields may be done in any order.
* `apply_apply`: one operation, done twice. `applyTo_applyTo`: a whole update.
* `updates_local_and_retryable` is the main result.
-/

import TwinStore.Proofs.Update

namespace TwinStore

namespace UpdateOperation

/-- The kinds of operations that may be done again. -/
def retryableKinds : List UpdateKind := [.set, .unset, .max, .min, .removeAll]

/-- No operation tells a null field from an absent one. -/
theorem apply_null (operation : UpdateOperation) :
    operation.apply (some .null) = operation.apply none := rfl

/-- What is preferred is preferred again: a field that was not replaced meets the operand as before,
and the operand meets itself. -/
theorem preferred_preferred (wanted : Ordering) (value : Value) (current : Option Value) :
    preferred wanted value (presentValue? (some (preferred wanted value (presentValue? current)))) =
      preferred wanted value (presentValue? current) := by
  have again : preferred wanted value (presentValue? (some value)) = value := by
    by_cases null : value = .null
    · rw [null]
      rfl
    · rw [presentValue?_eq_some.mpr ⟨rfl, null⟩]
      exact ite_self _
  cases before : presentValue? current with
  | none => exact again
  | some base =>
    have kept : presentValue? (some base) = some base :=
      presentValue?_eq_some.mpr ⟨rfl, (presentValue?_eq_some.mp before).2⟩
    by_cases taken : value.compare base = wanted
    · have chosen : preferred wanted value (some base) = value := if_pos taken
      rw [chosen, again]
    · have chosen : preferred wanted value (some base) = base := if_neg taken
      rw [chosen, kept, chosen]

/-- Items that are gone are not removed again. -/
theorem without_without (removed : Value) (current : Option Value) :
    without removed (presentValue? (without removed (presentValue? current))) =
      without removed (presentValue? current) := by
  match current with
  | some (.array items) =>
    cases removed with
    | array others =>
      show some (Value.array ((items.filter _).filter _)) = some (Value.array (items.filter _))
      rw [List.filter_filter]
      simp only [Bool.and_self]
    | _ => rfl
  | none | some .null | some (.boolean _) | some (.text _) | some (.number _) | some (.instant _)
  | some (.date _) | some (.time _) | some (.binary _) | some (.object _) => rfl

/-- **A retryable operation, done twice,** does what it does once. -/
theorem apply_apply {operation : UpdateOperation} (retryable : operation.kind ∈ retryableKinds)
    (current : Option Value) :
    operation.apply (operation.apply current) = operation.apply current := by
  cases operation with
  | set value => cases value <;> rfl
  | max value => exact congrArg some (preferred_preferred _ value current)
  | min value => exact congrArg some (preferred_preferred _ value current)
  | removeAll removed => exact without_without removed current
  | increment | multiply | push | popFirst | popLast => simp [kind, retryableKinds] at retryable

end UpdateOperation

namespace UpdateSet

variable {update : UpdateSet} {fields : Fields Value}

/-- **The order of visits does not show.** -/
theorem applyTo_perm {order : UpdateSet} (distinct : (update.map Prod.fst).Nodup)
    (sorted : Fields.Sorted fields) (perm : order.Perm update) :
    order.applyTo fields = update.applyTo fields := by
  have distinctToo : (order.map Prod.fst).Nodup := (perm.map Prod.fst).nodup_iff.mpr distinct
  refine Fields.eq_of_get? (sorted_applyTo order sorted) (sorted_applyTo update sorted)
    fun name => ?_
  rw [get?_applyTo_eq distinctToo, get?_applyTo_eq distinct, Fields.get?_perm distinct perm]

/-- **An update of retryable operations, done twice,** does what it does once. -/
theorem applyTo_applyTo (distinct : (update.map Prod.fst).Nodup) (sorted : Fields.Sorted fields)
    (retryable : ∀ entry ∈ update, entry.2.kind ∈ UpdateOperation.retryableKinds) :
    update.applyTo (update.applyTo fields) = update.applyTo fields := by
  have once := sorted_applyTo update sorted
  refine Fields.eq_of_get? (sorted_applyTo update once) once fun name => ?_
  rw [get?_applyTo_eq distinct, get?_applyTo_eq distinct]
  split
  · next operation found =>
    exact UpdateOperation.apply_apply (retryable _ (Fields.mem_of_get? found)) _
  · rfl

/-- **A null field stands for an absent one** wherever an operation meets it. -/
theorem applyTo_insert_null (distinct : (update.map Prod.fst).Nodup) (sorted : Fields.Sorted fields)
    {name : String} {operation : UpdateOperation} (operated : update.get? name = some operation) :
    update.applyTo (fields.insert name .null) = update.applyTo (fields.erase name) := by
  refine Fields.eq_of_get? (sorted_applyTo update (Fields.sorted_insert sorted name _))
    (sorted_applyTo update (Fields.sorted_erase sorted name)) fun other => ?_
  by_cases same : name = other
  · subst same
    rw [get?_applyTo distinct operated, get?_applyTo distinct operated, Fields.get?_insert,
      Fields.get?_erase, if_pos rfl, if_pos rfl]
    exact operation.apply_null
  · apply get?_applyTo_congr distinct
    rw [Fields.get?_insert, Fields.get?_erase, if_neg same, if_neg same]

/-- **Updates are local and may be retried.** An update changes no field without an operation and
makes of each other field what its operation makes of the old value alone, so the operations may be
visited in any order. Every operation treats a null field like an absent one. If all operations are
of retryable kinds, then an update that is done twice leaves exactly what it leaves once. -/
theorem updates_local_and_retryable {update : UpdateSet} {fields : Fields Value}
    (operations : Fields.Sorted update) (sorted : Fields.Sorted fields) :
    (∀ name, (update.applyTo fields).get? name =
      match update.get? name with
      | some operation => operation.apply (fields.get? name)
      | none => fields.get? name) ∧
    Fields.Sorted (update.applyTo fields) ∧
    (∀ order : UpdateSet, order.Perm update → order.applyTo fields = update.applyTo fields) ∧
    (∀ operation : UpdateOperation, operation.apply (some .null) = operation.apply none) ∧
    (∀ name operation, update.get? name = some operation →
      update.applyTo (fields.insert name .null) = update.applyTo (fields.erase name)) ∧
    ((∀ entry ∈ update, entry.2.kind ∈ UpdateOperation.retryableKinds) →
      update.applyTo (update.applyTo fields) = update.applyTo fields) := by
  have distinct := Fields.nodup_of_sorted operations
  exact ⟨get?_applyTo_eq distinct fields, sorted_applyTo update sorted,
    fun order => applyTo_perm distinct sorted, UpdateOperation.apply_null,
    fun name operation => applyTo_insert_null distinct sorted, applyTo_applyTo distinct sorted⟩

/-- An extremum with what is no number, one with null, a removal without items and of a field. -/
def unusual : UpdateSet :=
  [("count", .max (.number (.float .nan))), ("last", .min .null), ("name", .set .null),
    ("tags", .removeAll (.text "none"))]

/-- Fields for them, one of them null, and another. -/
def unusualFields : Fields Value :=
  [("age", .number (.signed 7)), ("count", .null), ("name", .text "Ada"), ("tags", .array [.null])]

theorem updates_local_and_retryable_unusual :
    Fields.Sorted unusual ∧ Fields.Sorted unusualFields ∧
    unusual.reverse.Perm unusual ∧
    applyTo unusual.reverse unusualFields = unusual.applyTo unusualFields ∧
    unusual.get? "last" = some (.min .null) ∧
    unusual.applyTo (unusualFields.insert "last" .null) =
      unusual.applyTo (unusualFields.erase "last") ∧
    (∀ entry ∈ unusual, entry.2.kind ∈ UpdateOperation.retryableKinds) ∧
    unusual.applyTo (unusual.applyTo unusualFields) = unusual.applyTo unusualFields := by
  have operations : Fields.Sorted unusual := by decide
  have sorted : Fields.Sorted unusualFields := by decide
  have retryable : ∀ entry ∈ unusual, entry.2.kind ∈ UpdateOperation.retryableKinds := by
    simp only [unusual, List.forall_mem_cons]
    decide
  obtain ⟨-, -, visits, -, nulls, twice⟩ := updates_local_and_retryable operations sorted
  exact ⟨operations, sorted, unusual.reverse_perm, visits _ unusual.reverse_perm, rfl,
    nulls "last" (.min .null) rfl, retryable, twice retryable⟩

end UpdateSet

end TwinStore
