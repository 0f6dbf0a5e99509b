/-
**Nothing is lost among the entries, and nothing leaks.** What a record is, said of the whole list
of entries that it is made of: every part comes from the last entry that is meant for it.

* `lastValue?` finds that entry; `lastValue?_concat` says what one entry more does to it.
* `MadeOf`: a record is made of a list of entries. `MadeOf.addEntry` is one entry,
  `materialize_madeOf` all of them, and `MadeOf.eq` says that only one record is.
* `materialize_perm`: entries of different names may come in any order.
* `record_of_entries` is the main result.
-/

import Mathlib.Data.List.Induction
import TwinStore.Proofs.Record

namespace TwinStore.Record

variable {className : String} {nulls : NullPolicy} {entries others : List (String × Value)}

/-! ### The last entry -/

/-- The value of the last entry that is selected. -/
def lastValue? (selected : String × Value → Bool) (entries : List (String × Value)) :
    Option Value :=
  (entries.filter selected).getLast?.map Prod.snd

section Last

variable {selected : String × Value → Bool}

theorem lastValue?_concat (entry : String × Value) :
    lastValue? selected (entries ++ [entry]) =
      if selected entry then some entry.2 else lastValue? selected entries := by
  rw [lastValue?, List.filter_append]
  by_cases chosen : selected entry = true
  · rw [List.filter_cons_of_pos chosen, List.filter_nil, List.getLast?_concat, if_pos chosen]
    rfl
  · rw [List.filter_cons_of_neg chosen, List.filter_nil, List.append_nil, if_neg chosen]
    rfl

theorem exists_of_lastValue? {value : Value} (found : lastValue? selected entries = some value) :
    ∃ name, (name, value) ∈ entries ∧ selected (name, value) = true := by
  obtain ⟨⟨name, _⟩, last, rfl⟩ := Option.map_eq_some_iff.mp found
  exact ⟨name, List.mem_filter.mp (List.mem_of_getLast? last)⟩

/-- Where all selected entries have one name, and no name is repeated, the order does not count. -/
theorem lastValue?_perm (same : entries.Perm others) (distinct : (entries.map Prod.fst).Nodup)
    {name : String} (alike : ∀ entry ∈ entries, selected entry = true → entry.1 = name) :
    lastValue? selected others = lastValue? selected entries := by
  have names : (entries.filter selected).map Prod.fst =
      List.replicate (entries.filter selected).length name := by
    rw [List.eq_replicate_iff, List.length_map]
    refine ⟨rfl, fun other member => ?_⟩
    obtain ⟨entry, kept, rfl⟩ := List.mem_map.mp member
    obtain ⟨known, chosen⟩ := List.mem_filter.mp kept
    exact alike entry known chosen
  have once : (entries.filter selected).length ≤ 1 := by
    rw [← List.nodup_replicate, ← names]
    exact distinct.sublist (List.filter_sublist.map Prod.fst)
  have permuted := same.symm.filter selected
  rw [lastValue?, lastValue?]
  generalize entries.filter selected = kept at once permuted
  match kept, once with
  | [], _ => rw [permuted.eq_nil]
  | [_], _ => rw [List.perm_singleton.mp permuted]

end Last

/-! ### Parts of a record -/

/-- The entry is the id. -/
def meansId (entry : String × Value) : Bool := entry.1 == idName || entry.1 == documentIdName

/-- The entry has a name. -/
def isCalled (name : String) (entry : String × Value) : Bool := entry.1 == name

/-- The entry sets a field: nulls do only where they are kept. -/
def setsField (nulls : NullPolicy) (name : String) (entry : String × Value) : Bool :=
  isCalled name entry && (nulls == .keep || !entry.2.isNull)

/-- The record is made of the entries: every part comes from the last entry that is meant for it,
and no name that is kept for the store is a field. -/
structure MadeOf (className : String) (nulls : NullPolicy) (entries : List (String × Value))
    (record : Record) : Prop where
  className_eq : record.className = className
  id_eq : record.id = (lastValue? meansId entries).bind idText?
  createdAt_eq : record.createdAt = (lastValue? (isCalled createdName) entries).bind Value.instant?
  updatedAt_eq : record.updatedAt = (lastValue? (isCalled updatedName) entries).bind Value.instant?
  sorted : Fields.Sorted record.fields
  get?_eq : ∀ name, record.fields.get? name =
    if isReserved name then none else lastValue? (setsField nulls name) entries

namespace MadeOf

variable {record : Record}

theorem empty : MadeOf className nulls [] (Record.empty className) where
  className_eq := rfl
  id_eq := rfl
  createdAt_eq := rfl
  updatedAt_eq := rfl
  sorted := List.Pairwise.nil
  get?_eq name := by
    show none = _
    split <;> rfl

/-- **One entry more.** -/
theorem addEntry (made : MadeOf className nulls entries record) (entry : String × Value) :
    MadeOf className nulls (entries ++ [entry]) (addEntry nulls record entry.1 entry.2) where
  className_eq := by rw [addEntry_className, made.className_eq]
  id_eq := by
    rw [addEntry_id, lastValue?_concat, made.id_eq]
    simp only [meansId, Bool.or_eq_true, beq_iff_eq]
    split <;> rfl
  createdAt_eq := by
    rw [addEntry_createdAt, lastValue?_concat, made.createdAt_eq]
    simp only [isCalled, beq_iff_eq]
    split <;> rfl
  updatedAt_eq := by
    rw [addEntry_updatedAt, lastValue?_concat, made.updatedAt_eq]
    simp only [isCalled, beq_iff_eq]
    split <;> rfl
  sorted := by
    rw [addEntry_fields]
    split
    · exact made.sorted
    · exact Fields.sorted_insert made.sorted _ _
  get?_eq name := by
    rw [addEntry_fields, lastValue?_concat]
    by_cases same : entry.1 = name
    · subst same
      by_cases reserved : isReserved entry.1 = true
      · rw [if_pos (.inl reserved), made.get?_eq, if_pos reserved, if_pos reserved]
      · cases nulls <;> cases nothing : entry.2.isNull <;>
          simp [reserved, nothing, setsField, isCalled, Fields.get?_insert, made.get?_eq]
    · have other : setsField nulls name entry = false := by simp [setsField, isCalled, same]
      have kept : ∀ value,
          (record.fields.insert entry.1 value).get? name = record.fields.get? name :=
        fun value => by rw [Fields.get?_insert, if_neg same]
      rw [other, if_neg Bool.false_ne_true, ← made.get?_eq, apply_ite (Fields.get? · name), kept,
        ite_self]

/-- **Only one record is made of a list of entries.** -/
theorem eq {other : Record} (made : MadeOf className nulls entries record)
    (again : MadeOf className nulls entries other) : record = other := by
  refine eq_of_parts ?_ ?_ ?_ ?_ (Fields.eq_of_get? made.sorted again.sorted fun name => ?_)
  · rw [made.className_eq, again.className_eq]
  · rw [made.id_eq, again.id_eq]
  · rw [made.createdAt_eq, again.createdAt_eq]
  · rw [made.updatedAt_eq, again.updatedAt_eq]
  · rw [made.get?_eq, again.get?_eq]

/-- A field is one of the entries. Its name is free, and it is no null where nulls are skipped. -/
theorem of_mem_fields (made : MadeOf className nulls entries record) {field : String × Value}
    (member : field ∈ record.fields) :
    isReserved field.1 = false ∧ field ∈ entries ∧ (nulls = .skip → field.2.isNull = false) := by
  have found := Fields.get?_of_mem (Fields.nodup_of_sorted made.sorted) member
  rw [made.get?_eq, Option.ite_none_left_eq_some] at found
  obtain ⟨free, last⟩ := found
  obtain ⟨name, known, sets⟩ := exists_of_lastValue? last
  simp only [setsField, isCalled, Bool.and_eq_true, Bool.or_eq_true, beq_iff_eq,
    Bool.not_eq_true'] at sets
  obtain ⟨rfl, kept⟩ := sets
  refine ⟨Bool.eq_false_iff.mpr free, known, ?_⟩
  rintro rfl
  exact kept.resolve_left (by decide)

/-- The order of entries with different names does not count, if one of them at most is the id. -/
theorem perm (made : MadeOf className nulls entries record) (same : entries.Perm others)
    (distinct : (entries.map Prod.fst).Nodup)
    (single : idName ∉ entries.map Prod.fst ∨ documentIdName ∉ entries.map Prod.fst) :
    MadeOf className nulls others record := by
  have called : ∀ name, ∀ entry ∈ entries, isCalled name entry = true → entry.1 = name :=
    fun name entry _ chosen => beq_iff_eq.mp chosen
  have absent : ∀ {name}, name ∉ entries.map Prod.fst → ∀ entry ∈ entries, entry.1 ≠ name := by
    rintro name missing entry member rfl
    exact missing (List.mem_map_of_mem member)
  obtain ⟨name, alike⟩ : ∃ name, ∀ entry ∈ entries, meansId entry = true → entry.1 = name := by
    simp only [meansId, Bool.or_eq_true, beq_iff_eq]
    rcases single with missing | missing
    · exact ⟨documentIdName, fun entry member chosen =>
        chosen.resolve_left (absent missing entry member)⟩
    · exact ⟨idName, fun entry member chosen =>
        chosen.resolve_right (absent missing entry member)⟩
  refine ⟨made.className_eq, ?_, ?_, ?_, made.sorted, fun field => ?_⟩
  · rw [lastValue?_perm same distinct alike, made.id_eq]
  · rw [lastValue?_perm same distinct (called createdName), made.createdAt_eq]
  · rw [lastValue?_perm same distinct (called updatedName), made.updatedAt_eq]
  · have sets : ∀ entry ∈ entries, setsField nulls field entry = true → entry.1 = field :=
      fun entry member chosen => called field entry member (Bool.and_eq_true_iff.mp chosen).1
    rw [lastValue?_perm same distinct sets, made.get?_eq]

end MadeOf

/-! ### All entries -/

/-- **Every record is made of its entries.** -/
theorem materialize_madeOf (className : String) (nulls : NullPolicy)
    (entries : List (String × Value)) :
    MadeOf className nulls entries (materialize className nulls entries) := by
  -- Entries are added at the end, so the induction is from the end of the list.
  induction entries using List.reverseRecOn with
  | nil => exact .empty
  | append_singleton front entry step =>
    rw [materialize, List.foldl_concat]
    exact step.addEntry entry

/-- **The order of the entries does not matter** if their names are different, and one of them at
most is the id. -/
theorem materialize_perm (className : String) (nulls : NullPolicy) (same : entries.Perm others)
    (distinct : (entries.map Prod.fst).Nodup)
    (single : idName ∉ entries.map Prod.fst ∨ documentIdName ∉ entries.map Prod.fst) :
    materialize className nulls others = materialize className nulls entries :=
  (materialize_madeOf className nulls others).eq
    ((materialize_madeOf className nulls entries).perm same distinct single)

/-- Only null is no id. -/
theorem idText?_eq_none {value : Value} : idText? value = none ↔ value = .null := by
  cases value <;> simp [idText?]

/-- Only an instant is a stamp. -/
theorem instant?_eq_some {value : Value} {instant : Instant} :
    value.instant? = some instant ↔ value = .instant instant := by
  cases value <;> simp [Value.instant?]

/-- **Nothing is lost among the entries, and nothing leaks.** The record of a list of entries is the
only one that is made of them. Its fields are entries with names that are not kept for the store,
and no nulls where nulls are skipped. There is no id exactly if the last entry for it is null or
missing, and a stamp only if the last entry for it is an instant. Entries of different names, one of
which at most is the id, give one record in any order. -/
theorem record_of_entries (className : String) (nulls : NullPolicy)
    (entries : List (String × Value)) :
    (∀ record, MadeOf className nulls entries record ↔
      record = materialize className nulls entries) ∧
    (∀ field ∈ (materialize className nulls entries).fields,
      isReserved field.1 = false ∧ field ∈ entries ∧ (nulls = .skip → field.2.isNull = false)) ∧
    ((materialize className nulls entries).id = none ↔
      ∀ value, lastValue? meansId entries = some value → value = .null) ∧
    (∀ instant, ((materialize className nulls entries).createdAt = some instant ↔
        lastValue? (isCalled createdName) entries = some (.instant instant)) ∧
      ((materialize className nulls entries).updatedAt = some instant ↔
        lastValue? (isCalled updatedName) entries = some (.instant instant))) ∧
    ∀ others, entries.Perm others → (entries.map Prod.fst).Nodup →
      (idName ∉ entries.map Prod.fst ∨ documentIdName ∉ entries.map Prod.fst) →
      materialize className nulls others = materialize className nulls entries := by
  have made := materialize_madeOf className nulls entries
  refine ⟨fun record => ⟨fun other => other.eq made, ?_⟩, fun field => made.of_mem_fields, ?_,
    fun instant => ⟨?_, ?_⟩, fun others => materialize_perm className nulls⟩
  · rintro rfl
    exact made
  · rw [made.id_eq, Option.bind_eq_none_iff]
    exact forall_congr' fun value => imp_congr_right fun _ => idText?_eq_none
  · rw [made.createdAt_eq, Option.bind_eq_some_iff]
    simp only [instant?_eq_some, exists_eq_right]
  · rw [made.updatedAt_eq, Option.bind_eq_some_iff]
    simp only [instant?_eq_some, exists_eq_right]

-- Both names are the id, and a null is passed over where nulls are skipped.
example :
    materialize "Item" .skip
        [("id", .text "a"), ("name", .text "A"), ("_id", .number (.signed 7)), ("name", .null),
          ("updated_at", .text "today")] =
      ⟨"Item", some "7", none, none, [("name", .text "A")]⟩ := by
  rfl

/-- The entries of an item that was never changed, and has no price. -/
def sampleEntries : List (String × Value) :=
  [("_id", .text "a"), ("price", .null), ("name", .text "A"), ("updated_at", .null),
    ("created_at", .instant (Instant.clampMilliseconds 0))]

theorem record_of_entries_reversed :
    let reversed := sampleEntries.reverse
    let record : Record :=
      ⟨"Item", some "a", some (Instant.clampMilliseconds 0), none, [("name", .text "A")]⟩
    MadeOf "Item" .skip sampleEntries record ∧ ("name", .text "A") ∈ record.fields ∧
      isReserved "name" = false ∧ ("name", .text "A") ∈ sampleEntries ∧
      sampleEntries.Perm reversed ∧ (sampleEntries.map Prod.fst).Nodup ∧
      idName ∉ sampleEntries.map Prod.fst ∧ materialize "Item" .skip reversed = record := by
  intro reversed record
  obtain ⟨only, fields, -, -, ordered⟩ := record_of_entries "Item" .skip sampleEntries
  have member : ("name", Value.text "A") ∈ record.fields := List.mem_singleton_self _
  obtain ⟨free, known, -⟩ := fields ("name", .text "A") member
  have permuted : sampleEntries.Perm reversed := (List.reverse_perm _).symm
  have distinct : (sampleEntries.map Prod.fst).Nodup := by decide
  have noColumn : idName ∉ sampleEntries.map Prod.fst := by decide
  exact ⟨(only record).mpr rfl, member, free, known, permuted, distinct, noColumn,
    ordered reversed permuted distinct (.inl noColumn)⟩

end TwinStore.Record
