/-
**Which record comes first.** A list of keys ranks two records by the first key in which they
differ.

* `fieldKey`: the names that lead to a field, the id under one name.
* `rank`: how a list of keys ranks two records. `rank_eq_find?` looks up the key that decides.
* `SortList.Settled`: what is said first of a key is what is said of it last.
-/

import TwinStore.Query.Selection
import TwinStore.Sql.Field

namespace TwinStore

/-- The names that lead to a field. The id has two names. -/
def fieldKey (field : String) : List String :=
  match fieldSegments field with
  | [] => []
  | head :: rest => (if head = documentIdName then idName else head) :: rest

/-- A key to order by, and its direction. -/
abbrev SortKey := List String × SortOrder

/-- The outcome of a comparison in a direction. -/
def SortOrder.directed : SortOrder → Ordering → Ordering
  | ascending, outcome => outcome
  | descending, outcome => outcome.swap

section Rank

variable {ρ κ : Type} (value : List String → ρ → κ) (compare : κ → κ → Ordering)

/-- How keys rank two records: an earlier key decides before a later one. -/
def rank (keys : List SortKey) (left right : ρ) : Ordering :=
  match keys with
  | [] => .eq
  | (key, order) :: rest =>
    (order.directed (compare (value key left) (value key right))).then (rank rest left right)

/-- The records differ in a key. -/
def differs (left right : ρ) (key : List String) : Bool :=
  compare (value key left) (value key right) ≠ .eq

/-- **The first key in which two records differ decides.** -/
theorem rank_eq_find? (keys : List SortKey) (left right : ρ) :
    rank value compare keys left right =
      match keys.find? fun entry => differs value compare left right entry.1 with
      | none => .eq
      | some (key, order) => order.directed (compare (value key left) (value key right)) := by
  induction keys with
  | nil => rfl
  | cons entry rest step =>
    obtain ⟨key, order⟩ := entry
    rw [rank, step, List.find?_cons]
    unfold differs
    cases outcome : compare (value key left) (value key right) with
    | eq => cases order <;> simp [SortOrder.directed]
    | lt | gt => cases order <;> simp [SortOrder.directed, outcome]

end Rank

/-! ### Repeated keys -/

/-- The direction that a list gives a field of a document at last. -/
def SortList.lastOrder? (sort : SortList) (field : String) : Option SortOrder :=
  (sort.reverse.find? fun entry => documentField entry.1 = field).map Prod.snd

/-- The first entry of each key has the direction that its field is given at last. -/
def SortList.Settled (sort : SortList) : Prop :=
  ∀ key first, sort.find? (fun entry => fieldKey entry.1 = key) = some first →
    sort.lastOrder? (documentField first.1) = some first.2

end TwinStore
