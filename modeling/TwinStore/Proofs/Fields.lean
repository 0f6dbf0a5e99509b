/-
**Fields in order.** What fields look like after several insertions.

* `ofEntries_of_sorted`: a list of entries in ascending order of their names is what inserting them
  leaves behind; `sorted_ofEntries`: what any list leaves behind is in order.
* `get?_overlay_of_not_mem` and `get?_overlay_of_mem`: what reading sees of many insertions;
  `get?_filter` what it sees of a selection by name. `get?_overlay`: the last insertion counts.
* `eq_of_get?`: fields in order that read alike are equal; so `ofEntries_append`.
* `forall₂_overlay`: entries that are related one by one leave fields behind that are.
-/

import Mathlib.Data.List.Forall2
import Mathlib.Data.List.Nodup
import TwinStore.Fields

namespace TwinStore.Fields

variable {α : Type}

/-! ### Entries in order -/

/-- A name behind all others is appended. -/
theorem insert_last {fields : Fields α} {name : String} {value : α}
    (last : ∀ entry ∈ fields, entry.1 < name) :
    fields.insert name value = fields ++ [(name, value)] := by
  induction fields with
  | nil => rfl
  | cons entry rest step =>
    obtain ⟨key, old⟩ := entry
    have before : key < name := last _ List.mem_cons_self
    have different : name ≠ key := by
      rintro rfl
      exact String.lt_irrefl _ before
    have notBefore : ¬name < key := fun after => String.lt_asymm before after
    have later : ∀ entry ∈ rest, entry.1 < name :=
      fun entry member => last entry (List.mem_cons_of_mem _ member)
    rw [insert, if_neg different, if_neg notBefore, step later]
    rfl

/-- Entries in order, all behind the ones there are, are appended. -/
theorem overlay_of_sorted {fields : Fields α} {entries : List (String × α)}
    (sorted : Sorted (fields ++ entries)) : fields.overlay entries = fields ++ entries := by
  induction entries generalizing fields with
  | nil => rw [List.append_nil]; rfl
  | cons entry rest step =>
    obtain ⟨name, value⟩ := entry
    have last : ∀ other ∈ fields, other.1 < name := by
      intro other member
      exact (List.pairwise_append.mp sorted).2.2 other member _ List.mem_cons_self
    have again : Sorted ((fields ++ [(name, value)]) ++ rest) := by
      rw [List.append_assoc]
      exact sorted
    show (fields.insert name value).overlay rest = _
    rw [insert_last last, step again, List.append_assoc]
    rfl

/-- **Entries in order are the fields they leave behind.** -/
theorem ofEntries_of_sorted {entries : List (String × α)} (sorted : Sorted entries) :
    ofEntries entries = entries :=
  overlay_of_sorted sorted

theorem sorted_overlay {fields : Fields α} (sorted : Sorted fields) (entries : List (String × α)) :
    Sorted (fields.overlay entries) := by
  induction entries generalizing fields with
  | nil => exact sorted
  | cons entry rest step => exact step (sorted_insert sorted entry.1 entry.2)

theorem sorted_ofEntries (entries : List (String × α)) : Sorted (ofEntries entries) :=
  sorted_overlay List.Pairwise.nil entries

theorem mem_of_mem_overlay {fields : Fields α} {entries : List (String × α)} {entry : String × α}
    (member : entry ∈ fields.overlay entries) : entry ∈ fields ∨ entry ∈ entries := by
  induction entries generalizing fields with
  | nil => exact .inl member
  | cons first rest step =>
    have later : entry ∈ (fields.insert first.1 first.2).overlay rest := member
    obtain inserted | later := step later
    · obtain new | old := mem_insert inserted
      · exact .inr (new ▸ List.mem_cons_self)
      · exact .inl old
    · exact .inr (List.mem_cons_of_mem _ later)

/-- What a list of entries leaves behind is among them. -/
theorem mem_of_mem_ofEntries {entries : List (String × α)} {entry : String × α}
    (member : entry ∈ ofEntries entries) : entry ∈ entries :=
  (mem_of_mem_overlay member).resolve_left List.not_mem_nil

theorem nodup_of_sorted {fields : Fields α} (sorted : Sorted fields) :
    (fields.map Prod.fst).Nodup := by
  rw [List.Nodup, List.pairwise_map]
  refine List.Pairwise.imp ?_ sorted
  intro left right before same
  rw [same] at before
  exact String.lt_irrefl _ before

theorem get?_of_forall_lt {fields : Fields α} {name : String}
    (before : ∀ entry ∈ fields, name < entry.1) : fields.get? name = none := by
  induction fields with
  | nil => rfl
  | cons entry rest step =>
    have different : entry.1 ≠ name := by
      intro same
      have less := before entry List.mem_cons_self
      rw [same] at less
      exact String.lt_irrefl _ less
    rw [get?, if_neg different]
    exact step fun other member => before other (List.mem_cons_of_mem _ member)

/-! ### Reading -/

theorem get?_eq_none {fields : Fields α} {name : String} :
    fields.get? name = none ↔ name ∉ fields.map Prod.fst := by
  induction fields with
  | nil => simp [get?]
  | cons entry rest step =>
    rw [get?, List.map_cons, List.mem_cons, not_or, ← step]
    split
    · next same => simp [same]
    · next different => simp [Ne.symm different]

/-- The value of a name that occurs once is the one beside it. -/
theorem get?_of_mem {fields : Fields α} (distinct : (fields.map Prod.fst).Nodup)
    {entry : String × α} (member : entry ∈ fields) : fields.get? entry.1 = some entry.2 := by
  induction fields with
  | nil => cases member
  | cons first rest step =>
    obtain ⟨apart, later⟩ := List.nodup_cons.mp distinct
    rcases List.mem_cons.mp member with rfl | inside
    · rw [get?, if_pos rfl]
    · have different : first.1 ≠ entry.1 := by
        intro same
        exact apart (same ▸ List.mem_map_of_mem inside)
      rw [get?, if_neg different, step later inside]

theorem mem_of_get? {fields : Fields α} {name : String} {value : α}
    (found : fields.get? name = some value) : (name, value) ∈ fields := by
  induction fields with
  | nil => cases found
  | cons entry rest step =>
    rw [get?] at found
    split at found
    · next same =>
      cases found
      exact same ▸ List.mem_cons_self
    · exact List.mem_cons_of_mem _ (step found)

/-- Insertions under other names leave the value of a name as it is. -/
theorem get?_overlay_of_not_mem {fields : Fields α} {entries : List (String × α)} {name : String}
    (absent : name ∉ entries.map Prod.fst) :
    (fields.overlay entries).get? name = fields.get? name := by
  induction entries generalizing fields with
  | nil => rfl
  | cons entry rest step =>
    rw [List.map_cons, List.mem_cons, not_or] at absent
    have skipped : ((fields.insert entry.1 entry.2).overlay rest).get? name = _ := step absent.2
    rw [get?_insert, if_neg (Ne.symm absent.1)] at skipped
    exact skipped

/-- A value that is inserted under a name of its own is found there. -/
theorem get?_overlay_of_mem {fields : Fields α} {entries : List (String × α)}
    (distinct : (entries.map Prod.fst).Nodup) {entry : String × α} (member : entry ∈ entries) :
    (fields.overlay entries).get? entry.1 = some entry.2 := by
  induction entries generalizing fields with
  | nil => cases member
  | cons first rest step =>
    obtain ⟨apart, later⟩ := List.nodup_cons.mp distinct
    rcases List.mem_cons.mp member with rfl | inside
    · show ((fields.insert entry.1 entry.2).overlay rest).get? entry.1 = _
      rw [get?_overlay_of_not_mem apart, get?_insert, if_pos rfl]
    · exact step later inside

/-- A selection by name keeps the values of the names selected. -/
theorem get?_filter (selected : String → Bool) (fields : Fields α) (name : String) :
    get? (fields.filter fun entry => selected entry.1) name =
      if selected name then fields.get? name else none := by
  induction fields with
  | nil => simp [get?]
  | cons entry rest step =>
    rw [List.filter_cons, get?]
    by_cases kept : selected entry.1 = true
    · rw [if_pos kept, get?, step]
      by_cases same : entry.1 = name
      · rw [if_pos same, if_pos same, ← same, if_pos kept]
      · rw [if_neg same, if_neg same]
    · rw [if_neg kept, step]
      by_cases same : entry.1 = name
      · rw [← same, if_neg kept, if_neg kept]
      · rw [if_neg same]

theorem get?_append (left right : Fields α) (name : String) :
    get? (left ++ right) name = (left.get? name).or (right.get? name) := by
  induction left with
  | nil => rfl
  | cons entry rest step =>
    rw [List.cons_append, get?, get?, step]
    split <;> rfl

/-- **The last insertion under a name counts**, and without one the value that was there. -/
theorem get?_overlay (fields : Fields α) (entries : List (String × α)) (name : String) :
    (fields.overlay entries).get? name = (get? entries.reverse name).or (fields.get? name) := by
  induction entries generalizing fields with
  | nil => rfl
  | cons entry rest step =>
    show ((fields.insert entry.1 entry.2).overlay rest).get? name = _
    rw [step, get?_insert, List.reverse_cons, get?_append]
    cases get? rest.reverse name with
    | some value => rfl
    | none => by_cases same : entry.1 = name <;> simp [get?, same]

/-- Among entries of different names each is found, in whatever order they are listed. -/
theorem get?_perm {entries others : Fields α} (distinct : (entries.map Prod.fst).Nodup)
    (perm : others.Perm entries) (name : String) : others.get? name = entries.get? name := by
  have names := perm.map Prod.fst
  by_cases named : name ∈ entries.map Prod.fst
  · obtain ⟨entry, member, rfl⟩ := List.mem_map.mp named
    rw [get?_of_mem distinct member,
      get?_of_mem (names.nodup_iff.mpr distinct) (perm.mem_iff.mpr member)]
  · rw [get?_eq_none.mpr named, get?_eq_none.mpr (names.mem_iff.not.mpr named)]

theorem get?_overlay_of_sorted (fields : Fields α) {entries : Fields α} (sorted : Sorted entries)
    (name : String) :
    (fields.overlay entries).get? name = (entries.get? name).or (fields.get? name) := by
  rw [get?_overlay, get?_perm (nodup_of_sorted sorted) entries.reverse_perm]

/-- A name in front of the first one is missing from fields in order. -/
theorem get?_of_lt_first {entry : String × α} {rest : Fields α} {name : String}
    (sorted : Sorted (entry :: rest)) (before : name < entry.1) :
    get? (entry :: rest) name = none := by
  obtain ⟨first, -⟩ := List.pairwise_cons.mp sorted
  refine get?_of_forall_lt (List.forall_mem_cons.mpr ⟨before, fun other member => ?_⟩)
  exact String.lt_trans before (first other member)

/-- Fields in order that read alike have the same first name. -/
theorem first_eq_of_get? {entry other : String × α} {rest others : Fields α}
    (sorted : Sorted (entry :: rest)) (otherSorted : Sorted (other :: others))
    (alike : ∀ name, get? (entry :: rest) name = get? (other :: others) name) :
    entry.1 = other.1 := by
  by_contra different
  by_cases before : entry.1 < other.1
  · have found := alike entry.1
    rw [get?_of_lt_first otherSorted before, get?, if_pos rfl] at found
    cases found
  · have after : other.1 < entry.1 :=
      Std.lt_of_le_of_ne (String.not_lt.mp before) (Ne.symm different)
    have found := alike other.1
    rw [get?_of_lt_first sorted after, get?, if_pos rfl] at found
    cases found

/-- **Fields in order that read alike are equal.** -/
theorem eq_of_get? {left right : Fields α} (leftSorted : Sorted left) (rightSorted : Sorted right)
    (alike : ∀ name, left.get? name = right.get? name) : left = right := by
  induction left generalizing right with
  | nil =>
    cases right with
    | nil => rfl
    | cons entry rest => simpa [get?] using alike entry.1
  | cons entry rest step =>
    cases right with
    | nil => simpa [get?] using alike entry.1
    | cons other others =>
      have same := first_eq_of_get? leftSorted rightSorted alike
      obtain ⟨name, value⟩ := entry
      obtain ⟨_, otherValue⟩ := other
      obtain rfl : name = _ := same
      obtain ⟨first, later⟩ := List.pairwise_cons.mp leftSorted
      obtain ⟨otherFirst, otherLater⟩ := List.pairwise_cons.mp rightSorted
      have values := alike name
      rw [get?, get?, if_pos rfl, if_pos rfl, Option.some.injEq] at values
      have rests : rest = others := by
        refine step later otherLater fun wanted => ?_
        by_cases here : name = wanted
        · subst here
          rw [get?_of_forall_lt first, get?_of_forall_lt otherFirst]
        · have found := alike wanted
          rwa [get?, get?, if_neg here, if_neg here] at found
      rw [values, rests]

/-- It makes no difference to fields in order if the entries are brought into order before. -/
theorem overlay_ofEntries {fields : Fields α} (sorted : Sorted fields)
    (entries : List (String × α)) :
    fields.overlay (ofEntries entries) = fields.overlay entries := by
  refine eq_of_get? (sorted_overlay sorted _) (sorted_overlay sorted _) fun name => ?_
  rw [get?_overlay_of_sorted _ (sorted_ofEntries entries), get?_overlay, ofEntries, get?_overlay]
  exact congrArg (Option.or · _) Option.or_none

/-- What two lists of entries leave behind, one after the other. -/
theorem ofEntries_append (first second : List (String × α)) :
    ofEntries (first ++ second) = (ofEntries first).overlay (ofEntries second) := by
  rw [overlay_ofEntries (sorted_ofEntries first), ofEntries, overlay, List.foldl_append]
  rfl

/-! ### Selections -/

theorem erase_of_forall_lt {fields : Fields α} {name : String}
    (behind : ∀ entry ∈ fields, name < entry.1) : fields.erase name = fields := by
  refine List.filter_eq_self.mpr fun entry member => decide_eq_true fun same => ?_
  exact String.lt_irrefl _ (same ▸ behind entry member)

/-- A value that is not selected takes the place of a name among what is. -/
theorem filter_insert_of_not {fields : Fields α} (sorted : Sorted fields) (name : String)
    {value : α} {selected : α → Bool} (dropped : selected value = false) :
    (fields.insert name value).filter (fun entry => selected entry.2) =
      (fields.erase name).filter fun entry => selected entry.2 := by
  induction fields with
  | nil => simp [insert, erase, dropped]
  | cons entry rest step =>
    obtain ⟨other, old⟩ := entry
    obtain ⟨first, later⟩ := List.pairwise_cons.mp sorted
    unfold insert
    split
    · next same =>
      have erased : erase ((other, old) :: rest) name = erase rest name :=
        List.filter_cons_of_neg (by simp [same])
      rw [erased, erase_of_forall_lt (same ▸ first), List.filter_cons_of_neg (by simp [dropped])]
    · next different =>
      split
      · next before =>
        have behind : ∀ entry ∈ (other, old) :: rest, name < entry.1 :=
          List.forall_mem_cons.mpr
            ⟨before, fun entry member => String.lt_trans before (first entry member)⟩
        rw [erase_of_forall_lt behind, List.filter_cons_of_neg (by simp [dropped])]
      · have kept : erase ((other, old) :: rest) name = (other, old) :: erase rest name :=
          List.filter_cons_of_pos (by simpa using Ne.symm different)
        rw [kept, List.filter_cons, List.filter_cons, step later]

/-! ### Two families of fields -/

section Paired

variable {β : Type} {related : α → β → Prop} {fields : Fields α} {others : Fields β}

/-- The entries have the same name and related values. -/
def Paired (related : α → β → Prop) (entry : String × α) (other : String × β) : Prop :=
  entry.1 = other.1 ∧ related entry.2 other.2

/-- Insertions under one name keep fields alike whose entries are paired. -/
theorem forall₂_insert (alike : List.Forall₂ (Paired related) fields others) (name : String)
    {value : α} {other : β} (relates : related value other) :
    List.Forall₂ (Paired related) (fields.insert name value) (others.insert name other) := by
  induction alike with
  | nil => exact .cons ⟨rfl, relates⟩ .nil
  | cons pair alike step =>
    obtain ⟨same, values⟩ := pair
    unfold insert
    rw [same]
    split
    · exact .cons ⟨rfl, relates⟩ alike
    · split
      · exact .cons ⟨rfl, relates⟩ (.cons ⟨rfl, values⟩ alike)
      · exact .cons ⟨rfl, values⟩ step

/-- **Paired entries leave paired fields behind.** -/
theorem forall₂_overlay {entries : List (String × α)} {found : List (String × β)}
    (pairs : List.Forall₂ (Paired related) entries found)
    (alike : List.Forall₂ (Paired related) fields others) :
    List.Forall₂ (Paired related) (fields.overlay entries) (others.overlay found) := by
  induction pairs generalizing fields others with
  | nil => exact alike
  | @cons entry other rest later pair _ step =>
    have next := forall₂_insert alike entry.1 pair.2
    refine step (?_ : List.Forall₂ _ _ (others.insert other.1 other.2))
    rwa [← pair.1]

end Paired

end TwinStore.Fields
