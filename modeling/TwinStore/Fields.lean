/-
**Fields.** Finite maps from names to values, held as lists of pairs in ascending order of the
names. Names compare by code points.

* `Fields.insert` keeps the order and replaces an entry of the same name.
* `Fields.ofEntries` and `Fields.overlay` insert entries one after the other, so the last one of a
  name stays.
* `get?_insert` and `get?_erase` say what reading sees of a change; `sorted_insert` and
  `sorted_erase` that the order is kept.
-/

namespace TwinStore

/-- Named values in ascending order of their names. -/
abbrev Fields (α : Type) := List (String × α)

namespace Fields

variable {α : Type}

/-- The names are strictly ascending. -/
def Sorted (fields : Fields α) : Prop := fields.Pairwise fun left right => left.1 < right.1

instance (fields : Fields α) : Decidable fields.Sorted :=
  inferInstanceAs (Decidable (fields.Pairwise fun left right => left.1 < right.1))

/-- The value of a name. -/
def get? (fields : Fields α) (name : String) : Option α :=
  match fields with
  | [] => none
  | (other, value) :: rest => if other = name then some value else get? rest name

def contains (fields : Fields α) (name : String) : Bool := (fields.get? name).isSome

/-- Gives a name a value, in place of the one it may have. -/
def insert (fields : Fields α) (name : String) (value : α) : Fields α :=
  match fields with
  | [] => [(name, value)]
  | (other, old) :: rest =>
    if name = other then (name, value) :: rest
    else if name < other then (name, value) :: (other, old) :: rest
    else (other, old) :: insert rest name value

def erase (fields : Fields α) (name : String) : Fields α :=
  fields.filter fun entry => entry.1 ≠ name

/-- Inserts entries one after the other. -/
def overlay (fields : Fields α) (entries : List (String × α)) : Fields α :=
  entries.foldl (fun fields entry => insert fields entry.1 entry.2) fields

/-- The fields that a list of entries leaves behind. -/
def ofEntries (entries : List (String × α)) : Fields α := overlay [] entries

/-! ### Reading after a change -/

/-- After an insertion the name has the new value, and every other name the value it had. -/
theorem get?_insert (fields : Fields α) (name : String) (value : α) (other : String) :
    (fields.insert name value).get? other =
      if name = other then some value else fields.get? other := by
  induction fields with
  | nil => simp [insert, get?]
  | cons entry rest step =>
    obtain ⟨key, old⟩ := entry
    unfold insert
    split
    · next same => subst same; rw [get?, get?]; split <;> rfl
    · next different =>
      split
      · rfl
      · rw [get?, step, get?]
        by_cases wanted : key = other
        · subst wanted
          simp [different]
        · simp [wanted]

/-- After an erasure the name has no value, and every other name the value it had. -/
theorem get?_erase (fields : Fields α) (name other : String) :
    (fields.erase name).get? other = if name = other then none else fields.get? other := by
  induction fields with
  | nil => simp [erase, get?]
  | cons entry rest step =>
    obtain ⟨key, old⟩ := entry
    by_cases same : key = name
    · have dropped : erase ((key, old) :: rest) name = erase rest name := by simp [erase, same]
      rw [dropped, step, get?, same]
      split <;> rfl
    · have kept : erase ((key, old) :: rest) name = (key, old) :: erase rest name := by
        simp [erase, same]
      rw [kept, get?, step, get?]
      by_cases wanted : key = other
      · subst wanted
        simp [Ne.symm same]
      · simp [wanted]

/-! ### Keeping the order -/

/-- The names after an insertion are the old ones and the new one. -/
theorem mem_insert {fields : Fields α} {name : String} {value : α} {entry : String × α}
    (member : entry ∈ fields.insert name value) : entry = (name, value) ∨ entry ∈ fields := by
  induction fields with
  | nil => simpa [insert] using member
  | cons first rest step =>
    obtain ⟨key, old⟩ := first
    unfold insert at member
    split at member
    · rcases List.mem_cons.mp member with found | found
      · exact .inl found
      · exact .inr (List.mem_cons_of_mem _ found)
    · split at member
      · rcases List.mem_cons.mp member with found | found
        · exact .inl found
        · exact .inr found
      · rcases List.mem_cons.mp member with found | found
        · exact .inr (found ▸ List.mem_cons_self ..)
        · exact (step found).imp id (List.mem_cons_of_mem _)

/-- An insertion keeps the names ascending. -/
theorem sorted_insert {fields : Fields α} (sorted : Sorted fields) (name : String) (value : α) :
    Sorted (fields.insert name value) := by
  induction fields with
  | nil => simp [insert, Sorted]
  | cons first rest step =>
    obtain ⟨key, old⟩ := first
    obtain ⟨first, later⟩ := List.pairwise_cons.mp sorted
    unfold insert
    split
    · next same => exact List.pairwise_cons.mpr ⟨fun entry found => same ▸ first entry found, later⟩
    · split
      · next before =>
        refine List.pairwise_cons.mpr ⟨fun entry found => ?_, sorted⟩
        rcases List.mem_cons.mp found with rfl | found
        · exact before
        · exact String.lt_trans before (first entry found)
      · next different notBefore =>
        have after : key < name :=
          Std.lt_of_le_of_ne (String.not_lt.mp notBefore) (Ne.symm different)
        refine List.pairwise_cons.mpr ⟨fun entry found => ?_, step later⟩
        rcases mem_insert found with rfl | found
        · exact after
        · exact first entry found

/-- An erasure keeps the names ascending. -/
theorem sorted_erase {fields : Fields α} (sorted : Sorted fields) (name : String) :
    Sorted (fields.erase name) :=
  List.Pairwise.filter _ sorted

end Fields

end TwinStore
