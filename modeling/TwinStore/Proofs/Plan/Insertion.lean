/-
**Insertion plans.** A plan is made from the fields of the user, or by an upsert for the record that
it may have to create.

* `InsertPlan.Made`: the two ways.
* `Made.sorted` and `Made.not_reserved`: either way the fields are in order, and none of them has a
  name that is kept for the store.
-/

import TwinStore.Plan.Write
import TwinStore.Proofs.Update

namespace TwinStore

theorem UpsertPlan.sorted_seed (predicate : Option Predicate) (update : UpdateSet)
    (setOnInsert : Fields Value) :
    Fields.Sorted (UpsertPlan.seed predicate update setOnInsert) := by
  apply UpdateSet.sorted_applyTo
  apply Fields.sorted_overlay
  cases predicate with
  | none => exact List.Pairwise.nil
  | some predicate => exact Fields.sorted_ofEntries _

namespace InsertPlan

/-- The plan was made for an insertion or an upsert. -/
inductive Made : InsertPlan → Prop where
  | insert (fields : Fields Value) (id : String) (now : Instant) (sorted : Fields.Sorted fields) :
      Made (.of fields id now)
  | upsert {query : FindQuery} {update : UpdateSet} {setOnInsert : Fields Value} {id : String}
      {now : Instant} {plan : UpsertPlan}
      (made : UpsertPlan.of query update setOnInsert id now = .ok plan) : Made plan.insert

/-- A plan made for an upsert is one for the fields of the record to create. -/
theorem Made.exists_of {plan : InsertPlan} (made : plan.Made) :
    ∃ fields id now, Fields.Sorted fields ∧ plan = .of fields id now := by
  cases made with
  | insert fields id now sorted => exact ⟨fields, id, now, sorted, rfl⟩
  | upsert made =>
    unfold UpsertPlan.of at made
    split at made
    · cases made
    · cases made
      exact ⟨_, _, _, UpsertPlan.sorted_seed _ _ _, rfl⟩

theorem Made.sorted {plan : InsertPlan} (made : plan.Made) : Fields.Sorted plan.fields := by
  obtain ⟨fields, id, now, sorted, rfl⟩ := made.exists_of
  exact List.Pairwise.filter _ sorted

theorem Made.not_reserved {plan : InsertPlan} (made : plan.Made) :
    ∀ entry ∈ plan.fields, isReserved entry.1 = false := by
  obtain ⟨fields, id, now, sorted, rfl⟩ := made.exists_of
  intro entry member
  have kept := (List.mem_filter.mp member).2
  simpa using kept

end InsertPlan

end TwinStore
