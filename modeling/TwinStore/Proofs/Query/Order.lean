/-
**The order of a document store.** A sort document names a field for each key, and says in which
direction it sorts.

* `Document.find?_ofEntries`: a document keeps of each name the first place and the last value.
* `Document.sortKeys?` reads a sort document, and `find?_of_sortKeys?` says which key is found in
  that of a list of fields.
-/

import Mathlib.Data.List.Induction
import TwinStore.Bson.Update
import TwinStore.Proofs.Query.Ranking

namespace TwinStore

namespace Document

/-! ### Repeated names -/

/-- An insertion changes the value of its name where it is found, or is found last. -/
theorem find?_insert (picks : String → Bool) (document : Document) (name : String) (value : Bson) :
    (document.insert name value).find? (fun entry => picks entry.1) =
      match document.find? fun entry => picks entry.1 with
      | some found => some (if found.1 = name then (name, value) else found)
      | none => if picks name then some (name, value) else none := by
  induction document with
  | nil =>
    rw [insert, List.find?_cons]
    cases picks name <;> rfl
  | cons entry rest step =>
    obtain ⟨other, old⟩ := entry
    unfold insert
    split
    · next same =>
      subst same
      cases picked : picks other with
      | true => simp [picked]
      | false =>
        simp only [List.find?_cons, picked]
        cases found : rest.find? fun entry => picks entry.1 with
        | none => simp
        | some entry =>
          have apart : entry.1 ≠ other := by
            rintro rfl
            have := List.find?_some found
            simp_all
          simp [apart]
    · next different =>
      cases picked : picks other with
      | true => simp [picked, different]
      | false => simpa [picked] using step

/-- The entry of a document that is found is the first one of its name, with the last value. -/
theorem find?_ofEntries (picks : String → Bool) (entries : List (String × Bson)) :
    (ofEntries entries).find? (fun entry => picks entry.1) =
      (entries.find? fun entry => picks entry.1).bind fun first =>
        entries.reverse.find? fun entry => entry.1 = first.1 := by
  induction entries using List.reverseRecOn with
  | nil => rfl
  | append_singleton entries last step =>
    obtain ⟨name, value⟩ := last
    have left : ofEntries (entries ++ [(name, value)]) = (ofEntries entries).insert name value := by
      rw [ofEntries, List.foldl_append]; rfl
    rw [left, find?_insert, step, List.find?_append, List.reverse_append, List.reverse_singleton,
      List.singleton_append]
    cases found : entries.find? fun entry => picks entry.1 with
    | none => cases picked : picks name <;> simp [picked]
    | some first =>
      have member := List.mem_of_find?_eq_some found
      obtain ⟨latest, there⟩ : ∃ latest,
          entries.reverse.find? (fun entry => entry.1 = first.1) = some latest := by
        rw [← Option.isSome_iff_exists, List.find?_isSome]
        exact ⟨first, List.mem_reverse.mpr member, by simp⟩
      have same : latest.1 = first.1 := by simpa using List.find?_some there
      by_cases renewed : name = first.1
      · simp [there, same, renewed]
      · simp [there, same, renewed, Ne.symm renewed]

theorem mem_insert {document : Document} {name : String} {value : Bson} {entry : String × Bson}
    (member : entry ∈ document.insert name value) : entry = (name, value) ∨ entry ∈ document := by
  induction document with
  | nil => exact .inl (List.mem_singleton.mp member)
  | cons first rest step =>
    obtain ⟨other, old⟩ := first
    unfold insert at member
    split at member
    · exact (List.mem_cons.mp member).imp_right (List.mem_cons_of_mem _)
    · obtain here | later := List.mem_cons.mp member
      · exact .inr (here ▸ List.mem_cons_self)
      · exact (step later).imp_right (List.mem_cons_of_mem _)

theorem mem_of_mem_ofEntries {entries : List (String × Bson)} {entry : String × Bson}
    (member : entry ∈ ofEntries entries) : entry ∈ entries := by
  induction entries using List.reverseRecOn with
  | nil => exact member
  | append_singleton entries last step =>
    rw [ofEntries, List.foldl_append] at member
    obtain new | old := mem_insert member
    · exact List.mem_append_right _ (List.mem_singleton.mpr new)
    · exact List.mem_append_left _ (step old)

/-! ### Reading a sort document -/

/-- The direction of a number. -/
def orderOf? : Bson → Option SortOrder
  | .int32 number =>
    if number = 1 then some .ascending else if number = -1 then some .descending else none
  | _ => none

/-- The key of an entry. -/
def sortKey? (entry : String × Bson) : Option SortKey :=
  (orderOf? entry.2).map fun order => (fieldKey entry.1, order)

/-- The keys of a sort document, in order. -/
def sortKeys? : Document → Option (List SortKey)
  | [] => some []
  | entry :: rest => do return (← sortKey? entry) :: (← sortKeys? rest)

/-- The key that is found is that of the entry that is found. -/
theorem find?_of_sortKeys? {document : Document}
    (readable : ∀ entry ∈ document, (sortKey? entry).isSome) :
    ∃ keys, document.sortKeys? = some keys ∧ ∀ picks : List String → Bool,
      keys.find? (fun entry => picks entry.1) =
        (document.find? fun entry => picks (fieldKey entry.1)).bind sortKey? := by
  induction document with
  | nil => exact ⟨[], rfl, fun _ => rfl⟩
  | cons entry rest step =>
    obtain ⟨here, later⟩ := List.forall_mem_cons.mp readable
    obtain ⟨key, read⟩ := Option.isSome_iff_exists.mp here
    obtain ⟨keys, readRest, found⟩ := step later
    refine ⟨key :: keys, by rw [sortKeys?, read, readRest]; rfl, fun picks => ?_⟩
    obtain ⟨order, -, rfl⟩ := Option.map_eq_some_iff.mp read
    rw [List.find?_cons, List.find?_cons, found]
    cases picks (fieldKey entry.1) with
    | true => exact read.symm
    | false => rfl

end Document

theorem orderOf?_direction (order : SortOrder) :
    Document.orderOf? (.int32 order.direction) = some order := by
  cases order <;> rfl

/-- The id is the same key under both its names. -/
theorem fieldKey_documentField (field : String) :
    fieldKey (documentField field) = fieldKey field := by
  unfold documentField
  split
  · next same =>
    subst same
    rfl
  · rfl

/-- **A sort document has the key that is found first, in the direction that is said last.** -/
theorem exists_sortKeys_sortDocument (sort : SortList) :
    ∃ keys, (sortDocument sort).sortKeys? = some keys ∧ ∀ picks : List String → Bool,
      keys.find? (fun entry => picks entry.1) =
        (sort.find? fun entry => picks (fieldKey entry.1)).bind fun first =>
          (sort.lastOrder? (documentField first.1)).map fun order => (fieldKey first.1, order) := by
  have readable : ∀ entry ∈ sortDocument sort, (Document.sortKey? entry).isSome := by
    intro entry member
    obtain ⟨⟨field, order⟩, -, rfl⟩ := List.mem_map.mp (Document.mem_of_mem_ofEntries member)
    simp [Document.sortKey?, orderOf?_direction]
  obtain ⟨keys, read, found⟩ := Document.find?_of_sortKeys? readable
  refine ⟨keys, read, fun picks => ?_⟩
  rw [found, sortDocument, Document.find?_ofEntries fun name => picks (fieldKey name),
    List.find?_map, ← List.map_reverse]
  simp only [Function.comp_def, fieldKey_documentField]
  cases sort.find? fun entry => picks (fieldKey entry.1) with
  | none => rfl
  | some first =>
    rw [Option.map_some, Option.bind_some, Option.bind_some, List.find?_map, SortList.lastOrder?]
    simp only [Function.comp_def]
    cases last : sort.reverse.find? fun entry => documentField entry.1 = documentField first.1 with
    | none => rfl
    | some entry =>
      have same : documentField entry.1 = documentField first.1 := by
        simpa using List.find?_some last
      simp [Document.sortKey?, orderOf?_direction, same, fieldKey_documentField]

end TwinStore
