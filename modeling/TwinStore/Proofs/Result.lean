/-
**Computations that may fail.** What success and failure of a sequence say of its steps.

* `bind_eq_ok` and `mapM_eq_ok`: a sequence succeeds if its steps do.
* `fault?` is why a computation fails, if it does; `fault?_joined` and `fault?_mapM`: of several
  steps the first one that fails counts.
-/

import Mathlib.Data.List.Forall2

namespace TwinStore.Result

variable {ε α β γ : Type}

/-- A sequence succeeds if its steps do. -/
theorem bind_eq_ok {first : Except ε α} {next : α → Except ε β} {result : β} :
    (first >>= next) = .ok result ↔ ∃ value, first = .ok value ∧ next value = .ok result := by
  cases first <;> simp [bind, Except.bind]

/-- A sequence fails with the cause of its first step that fails. -/
theorem bind_eq_error {first : Except ε α} {next : α → Except ε β} {cause : ε} :
    (first >>= next) = .error cause ↔
      first = .error cause ∨ ∃ value, first = .ok value ∧ next value = .error cause := by
  cases first <;> simp [bind, Except.bind]

/-- What is made of one result fails as the result does. -/
theorem error_wrapped_iff {wrap : α → β} {first : Except ε α} :
    (∃ cause, (do return wrap (← first)) = Except.error cause) ↔ ∃ cause, first = .error cause := by
  cases first <;> simp [bind, Except.bind, pure, Except.pure]

/-- What is made of two results fails if one of them does. -/
theorem error_joined_iff {join : α → β → γ} {first : Except ε α} {second : Except ε β} :
    (∃ cause, (do return join (← first) (← second)) = Except.error cause) ↔
      (∃ cause, first = .error cause) ∨ ∃ cause, second = .error cause := by
  cases first <;> cases second <;> simp [bind, Except.bind, pure, Except.pure]

theorem map_eq_ok {change : α → β} {first : Except ε α} {result : β} :
    first.map change = .ok result ↔ ∃ value, first = .ok value ∧ change value = result := by
  cases first <;> simp [Except.map]

theorem map_eq_error {change : α → β} {first : Except ε α} {cause : ε} :
    first.map change = .error cause ↔ first = .error cause := by
  cases first <;> simp [Except.map]

theorem mapError_eq_ok {ζ : Type} {change : ε → ζ} {first : Except ε α} {result : α} :
    first.mapError change = .ok result ↔ first = .ok result := by
  cases first <;> simp [Except.mapError]

theorem pure_ne_error {value : α} {cause : ε} : (pure value : Except ε α) ≠ .error cause := by
  simp [pure, Except.pure]

/-- A computation for each item of a list succeeds if all of them do. -/
theorem mapM_eq_ok {compute : α → Except ε β} {items : List α} {results : List β} :
    items.mapM compute = .ok results ↔
      List.Forall₂ (fun item result => compute item = .ok result) items results := by
  induction items generalizing results with
  | nil =>
    rw [List.mapM_nil, List.forall₂_nil_left_iff]
    exact ⟨fun done => (Except.ok.inj done).symm, fun empty => congrArg Except.ok empty.symm⟩
  | cons item rest step =>
    rw [List.mapM_cons, bind_eq_ok, List.forall₂_cons_left_iff]
    constructor
    · rintro ⟨first, one, more⟩
      obtain ⟨others, two, made⟩ := bind_eq_ok.mp more
      exact ⟨first, others, one, step.mp two, (Except.ok.inj made).symm⟩
    · rintro ⟨first, others, one, two, rfl⟩
      exact ⟨first, one, bind_eq_ok.mpr ⟨others, step.mpr two, rfl⟩⟩

/-- A computation for each item of a list fails as that for an item does. -/
theorem exists_of_mapM_error {compute : α → Except ε β} {items : List α} {cause : ε}
    (failed : items.mapM compute = .error cause) : ∃ item ∈ items, compute item = .error cause := by
  induction items with
  | nil => exact absurd failed pure_ne_error
  | cons item rest step =>
    rw [List.mapM_cons, bind_eq_error] at failed
    obtain first | ⟨_, _, later⟩ := failed
    · exact ⟨item, List.mem_cons_self, first⟩
    · obtain rest | ⟨_, _, made⟩ := bind_eq_error.mp later
      · obtain ⟨other, member, same⟩ := step rest
        exact ⟨other, List.mem_cons_of_mem item member, same⟩
      · exact absurd made pure_ne_error

/-- Each result is that of an item. -/
theorem exists_of_mem_results {compute : α → Except ε β} {items : List α} {results : List β}
    (done : items.mapM compute = .ok results) {result : β} (member : result ∈ results) :
    ∃ item ∈ items, compute item = .ok result := by
  have pairs := mapM_eq_ok.mp done
  clear done
  induction pairs with
  | nil => cases member
  | cons one _ step =>
    rcases List.mem_cons.mp member with rfl | later
    · exact ⟨_, List.mem_cons_self, one⟩
    · obtain ⟨item, known, computed⟩ := step later
      exact ⟨item, List.mem_cons_of_mem _ known, computed⟩

/-- Each item has a result. -/
theorem exists_of_mem_items {compute : α → Except ε β} {items : List α} {results : List β}
    (done : items.mapM compute = .ok results) {item : α} (member : item ∈ items) :
    ∃ result, compute item = .ok result := by
  have pairs := mapM_eq_ok.mp done
  clear done
  induction pairs with
  | nil => cases member
  | cons one _ step =>
    rcases List.mem_cons.mp member with rfl | later
    · exact ⟨_, one⟩
    · exact step later

/-! ### Faults -/

/-- Why a computation fails, if it does. -/
def fault? : Except ε α → Option ε
  | .ok _ => none
  | .error cause => some cause

@[simp] theorem fault?_ok (value : α) : fault? (.ok value : Except ε α) = none := rfl

@[simp] theorem fault?_error (cause : ε) : fault? (.error cause : Except ε α) = some cause := rfl

theorem fault?_eq_none {result : Except ε α} :
    fault? result = none ↔ ∃ value, result = .ok value := by
  cases result <;> simp

theorem fault?_eq_some {result : Except ε α} {cause : ε} :
    fault? result = some cause ↔ result = .error cause := by
  cases result <;> simp

@[simp] theorem fault?_map (change : α → β) (result : Except ε α) :
    fault? (result.map change) = fault? result := by
  cases result <;> rfl

@[simp] theorem fault?_mapped (change : α → β) (result : Except ε α) :
    fault? (change <$> result) = fault? result :=
  fault?_map change result

theorem fault?_wrapped (wrap : α → β) (first : Except ε α) :
    fault? (do return wrap (← first)) = fault? first := by
  cases first <;> rfl

/-- Of two computations the first one that fails counts. -/
theorem fault?_joined (join : α → β → γ) (first : Except ε α) (second : Except ε β) :
    fault? (do return join (← first) (← second)) = (fault? first).or (fault? second) := by
  cases first <;> cases second <;> rfl

/-- **Of the computations for the items of a list the first one that fails counts.** -/
theorem fault?_mapM (compute : α → Except ε β) (items : List α) :
    fault? (items.mapM compute) = items.findSome? fun item => fault? (compute item) := by
  induction items with
  | nil => rfl
  | cons item rest step =>
    rw [List.mapM_cons, fault?_joined (· :: ·), step, List.findSome?_cons]
    cases fault? (compute item) <;> rfl

/-! ### Results that are told apart by their causes at most -/

/-- The results are the same, and so are their causes once they are changed. -/
def SameUpTo (change : ε → ε) (left right : Except ε α) : Prop :=
  left.mapError change = right.mapError change

namespace SameUpTo

variable {change : ε → ε} {left right : Except ε α}

@[refl] theorem refl (result : Except ε α) : SameUpTo change result result := rfl

theorem symm (same : SameUpTo change left right) : SameUpTo change right left := Eq.symm same

theorem trans {other : Except ε α} (one : SameUpTo change left right)
    (two : SameUpTo change right other) : SameUpTo change left other :=
  Eq.trans one two

/-- What follows two such results. -/
theorem bind {next other : α → Except ε β} (same : SameUpTo change left right)
    (later : ∀ value, SameUpTo change (next value) (other value)) :
    SameUpTo change (left >>= next) (right >>= other) := by
  cases left with
  | error cause =>
    cases right with
    | error _ => exact congrArg Except.error (Except.error.inj same)
    | ok _ => cases same
  | ok value =>
    cases right with
    | error _ => cases same
    | ok _ =>
      obtain rfl := Except.ok.inj same
      exact later value

theorem map (same : SameUpTo change left right) (wrap : α → β) :
    SameUpTo change (left.map wrap) (right.map wrap) :=
  same.bind fun _ => rfl

/-- Causes that become causes of another kind, in step with the change. -/
theorem mapError {ζ : Type} {further : ζ → ζ} {wrap : ε → ζ}
    (steps : ∀ cause, further (wrap cause) = wrap (change cause))
    (same : SameUpTo change left right) :
    SameUpTo further (left.mapError wrap) (right.mapError wrap) := by
  have once : ∀ result : Except ε α,
      (result.mapError wrap).mapError further = (result.mapError change).mapError wrap := by
    rintro (cause | value)
    · exact congrArg Except.error (steps cause)
    · rfl
  rw [SameUpTo, once, once, same]

end SameUpTo

end TwinStore.Result
