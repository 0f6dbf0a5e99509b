/-
**One order for both stores.** A list of fields is an order for rows, which the text of a statement
asks for, and one for documents, which a sort document asks for.

* `sort_orders_agree_iff`: both rank all records alike exactly if no key is said to go the other way
  later on.
* `not_sort_orders_agree_repeated`: a field that is given both directions.
-/

import TwinStore.Proofs.Query.Order
import TwinStore.Proofs.Sql.Order

namespace TwinStore

open Sql

/-- The key that decides is the same, and it decides alike if its directions are the same. -/
theorem rank_eq_of_settled {sort : SortList} (settled : sort.Settled) {keys : List SortKey}
    (found : ∀ picks : List String → Bool, keys.find? (fun entry => picks entry.1) =
      (sort.find? fun entry => picks (fieldKey entry.1)).bind fun first =>
        (sort.lastOrder? (documentField first.1)).map fun order => (fieldKey first.1, order))
    {ρ κ : Type} (value : List String → ρ → κ) (compare : κ → κ → Ordering) (left right : ρ) :
    rank value compare (sort.map fun entry => (fieldKey entry.1, entry.2)) left right =
      rank value compare keys left right := by
  rw [rank_eq_find?, rank_eq_find?, found, List.find?_map]
  simp only [Function.comp_def]
  cases first : sort.find? fun entry => differs value compare left right (fieldKey entry.1) with
  | none => rfl
  | some entry =>
    -- The entry that decides is also the first one of its key.
    have leads : sort.find? (fun other => fieldKey other.1 = fieldKey entry.1) = some entry := by
      obtain ⟨decides, front, later, rfl, earlier⟩ := List.find?_eq_some_iff_append.mp first
      refine List.find?_eq_some_iff_append.mpr ⟨by simp, front, later, rfl, fun other member => ?_⟩
      have same := earlier other member
      simp only [Bool.not_eq_true', decide_eq_false_iff_not] at same ⊢
      rintro key
      rw [key, decides] at same
      cases same
    rw [Option.map_some, Option.bind_some, settled _ entry leads]
    rfl

/-- Records that differ in one key only are ranked in the direction of its first entry. -/
theorem rank_single (key : List String) (keys : List SortKey) :
    rank (fun other (record : Bool) => record && decide (other = key)) compare keys false true =
      match keys.find? fun entry => entry.1 = key with
      | none => .eq
      | some (_, order) => order.directed .lt := by
  rw [rank_eq_find?]
  have same : (fun entry : SortKey => differs (fun other (record : Bool) =>
      record && decide (other = key)) compare false true entry.1) =
        fun entry : SortKey => entry.1 = key := by
    funext entry
    by_cases here : entry.1 = key <;> simp [differs, here]
  rw [same]
  cases found : keys.find? fun entry => entry.1 = key with
  | none => rfl
  | some entry =>
    obtain ⟨other, order⟩ := entry
    have here : other = key := by simpa using List.find?_some found
    show order.directed (compare (false && decide (other = key)) (true && decide (other = key))) = _
    rw [decide_eq_true here]
    rfl

theorem SortOrder.directed_lt_inj {left right : SortOrder}
    (same : left.directed .lt = right.directed .lt) : left = right := by
  cases left <;> cases right <;> first | rfl | cases same

/-- **Sort lists mean the same on both stores exactly if they are settled.** The order that a
statement asks for and the one that a sort document asks for can both be read. They rank any two
records alike, whatever the records have in a key and however that is compared, if and only if the
first entry of each key has the direction that its field is given at last. -/
theorem sort_orders_agree_iff (sort : SortList) (tokens : List Token)
    (drafted : orderDraft sort = .ofTokens tokens) :
    ∃ inRows inDocuments,
      orderKeys? (Token.render 0 tokens).toList = some inRows ∧
      (sortDocument sort).sortKeys? = some inDocuments ∧
      ((∀ (ρ κ : Type) (value : List String → ρ → κ) (compare : κ → κ → Ordering)
          (left right : ρ), rank value compare inRows left right =
            rank value compare inDocuments left right) ↔
        sort.Settled) := by
  obtain ⟨inDocuments, read, found⟩ := exists_sortKeys_sortDocument sort
  refine ⟨_, inDocuments, orderKeys?_render drafted 0, read, fun agree => ?_, fun settled =>
    fun _ _ => rank_eq_of_settled settled found⟩
  intro key first leads
  have same :=
    agree Bool Bool (fun other record => record && decide (other = key)) compare false true
  have here : fieldKey first.1 = key := by simpa using List.find?_some leads
  rw [rank_single, rank_single, found fun other => other = key, List.find?_map] at same
  simp only [Function.comp_def] at same
  rw [leads, Option.map_some, Option.bind_some] at same
  cases last : sort.lastOrder? (documentField first.1) with
  | none =>
    rw [last] at same
    cases order : first.2 <;> simp [SortOrder.directed, order] at same
  | some order =>
    rw [last] at same
    exact congrArg some (SortOrder.directed_lt_inj same).symm

/-- Highest levels first, then by id; both are said twice. -/
def insistent : SortList :=
  [("level", .descending), ("id", .ascending), ("level", .descending), ("_id", .ascending)]

theorem sort_orders_agree_iff_insistent :
    ∃ tokens inRows inDocuments, orderDraft insistent = .ofTokens tokens ∧
      orderKeys? (Token.render 0 tokens).toList = some inRows ∧
      (sortDocument insistent).sortKeys? = some inDocuments ∧
      ∀ (ρ κ : Type) (value : List String → ρ → κ) (compare : κ → κ → Ordering) (left right : ρ),
        rank value compare inRows left right = rank value compare inDocuments left right := by
  have settled : insistent.Settled := by
    intro key first leads
    have member : first ∈ insistent := List.mem_of_find?_eq_some leads
    have last : ∀ entry ∈ insistent,
        insistent.lastOrder? (documentField entry.1) = some entry.2 := by decide
    exact last first member
  obtain ⟨inRows, inDocuments, readRows, readDocuments, agree⟩ :=
    sort_orders_agree_iff insistent _ rfl
  exact ⟨_, inRows, inDocuments, rfl, readRows, readDocuments, agree.mpr settled⟩

/-- Ages in both directions. -/
def wavering : SortList := [("age", .ascending), ("age", .descending)]

/-- A field that is given both directions goes the first way in rows, and the last way in
documents. -/
theorem not_sort_orders_agree_repeated :
    ∃ tokens inRows inDocuments, orderDraft wavering = .ofTokens tokens ∧
      orderKeys? (Token.render 0 tokens).toList = some inRows ∧
      (sortDocument wavering).sortKeys? = some inDocuments ∧
      rank (fun _ (age : Nat) => age) compare inRows 10 20 = .lt ∧
      rank (fun _ (age : Nat) => age) compare inDocuments 10 20 = .gt := by
  have drafted : orderDraft wavering = .ofTokens (orderDraft wavering).tokens := rfl
  exact ⟨_, _, [(["age"], .descending)], drafted, orderKeys?_render drafted 0, by decide +kernel,
    by decide +kernel, by decide +kernel⟩

end TwinStore
