/-
**Requested fields that overlap.** A projection asks both stores for fields and paths. A table is
asked for the columns they begin in, once each. A document is asked for the paths themselves, and a
server does not take two of them where one leads into the other.

* `columnsOf_asked` and `keysOf_asked`: what a table and a document are asked for.
* `LeadsInto`: a path that leads on from another one. `acceptable_iff`: when no key of a projection
  document leads into another one.
* `projection_asked` joins them; `not_projection_acceptable` is a projection that is not taken.
-/

import TwinStore.Proofs.Bson.Insertion
import TwinStore.Proofs.Plan.SystemFields
import TwinStore.Proofs.Query.Refusal
import TwinStore.Proofs.Sql.Projection

namespace TwinStore

open Sql

/-! ### Lists without repetition -/

theorem nodup_eraseDups {α : Type} [BEq α] [LawfulBEq α] : ∀ list : List α, list.eraseDups.Nodup
  | [] => List.nodup_nil
  | item :: rest => by
    rw [List.eraseDups_cons, List.nodup_cons, List.mem_eraseDups]
    exact ⟨by simp, nodup_eraseDups _⟩
termination_by list => list.length
decreasing_by exact Nat.lt_succ_of_le (List.length_filter_le _ _)

theorem map_eraseDups {α β : Type} [BEq α] [LawfulBEq α] [BEq β] [LawfulBEq β] {change : α → β}
    (injective : Function.Injective change) :
    ∀ list : List α, list.eraseDups.map change = (list.map change).eraseDups
  | [] => rfl
  | item :: rest => by
    have same : ((fun other => !other == change item) ∘ change) = fun other => !other == item := by
      funext other
      simp [injective.beq_eq]
    rw [List.eraseDups_cons, List.map_cons, List.map_cons, List.eraseDups_cons, List.filter_map,
      same, map_eraseDups injective]
termination_by list => list.length
decreasing_by exact Nat.lt_succ_of_le (List.length_filter_le _ _)

/-! ### Requested names -/

/-- The columns that the store keeps for itself. -/
def systemColumns : List String := [idName, createdName, updatedName]

/-- The keys of a document that the store keeps for itself. -/
def systemKeys : List String := [documentIdName, createdName, updatedName]

/-- The column that a path begins in. -/
def headColumn (path : String) : String :=
  if fieldHead path = documentIdName then idName else fieldHead path

namespace Projection

/-- The names that a projection of given names asks for. -/
theorem mem_only {names : List String} {name : String} :
    name ∈ (Fields.ofEntries (names.map fun name => (name, ()))).map Prod.fst ↔ name ∈ names := by
  rw [← not_iff_not, ← Fields.get?_eq_none, Fields.ofEntries, Fields.get?_overlay,
    show Fields.get? ([] : Fields Unit) name = none from rfl, Option.or_none, Fields.get?_eq_none,
    List.map_reverse, List.mem_reverse, List.map_map]
  simp

/-- The requested fields of the user are those of the names that are not kept for the store. -/
theorem userFields_only (names : List String) : ∃ users,
    (Projection.only names).userFields? = some users ∧ users.Nodup ∧
      ∀ name, name ∈ users ↔ name ∈ names ∧ isReserved name = false := by
  refine ⟨_, rfl, ?_, fun name => ?_⟩
  · exact (Fields.nodup_of_sorted (Fields.sorted_ofEntries _)).filter _
  · rw [List.mem_filter, mem_only]
    simp

end Projection

/-! ### Columns -/

/-- What a table is asked for if names are requested. -/
structure ColumnsOf (names columns : List String) : Prop where
  leading : systemColumns <+: columns
  distinct : columns.Nodup
  mem_iff : ∀ column, column ∈ columns ↔
    column ∈ systemColumns ∨ ∃ name ∈ names, headColumn name = column

theorem headColumn_of_isReserved {name : String} (reserved : isReserved name = true) :
    headColumn name ∈ systemColumns := by
  rw [isReserved, List.contains_iff_mem] at reserved
  have each : ∀ name ∈ reservedNames, headColumn name ∈ systemColumns := by decide
  exact each name reserved

/-- Fields that begin in identifiers have columns. -/
theorem requestedColumns_spec {fields : List String}
    (heads : ∀ field ∈ fields, IsIdentifier (fieldHead field)) : ∃ columns,
      requestedColumns fields = .ok columns ∧
        columns.map Identifier.text = (fields.map headColumn).eraseDups := by
  obtain ⟨columns, each⟩ : ∃ columns,
      fields.mapM (fun field => columnName (fieldHead field)) = .ok columns := by
    rw [← Result.fault?_eq_none, Result.fault?_mapM, List.findSome?_eq_none_iff]
    intro field member
    obtain ⟨column, named⟩ := exists_columnName (heads field member)
    rw [named, Result.fault?_ok]
  have texts : columns.map Identifier.text = fields.map headColumn := by
    rw [← List.forall₂_eq_eq_eq, List.forall₂_map_left_iff, List.forall₂_map_right_iff]
    exact (Result.mapM_eq_ok.mp each).flip.imp fun _ _ named => columnName_eq_ok.mp named
  have injective : Function.Injective Identifier.text := by
    rintro ⟨first, _⟩ ⟨second, _⟩ rfl
    rfl
  refine ⟨columns.eraseDups, Result.bind_eq_ok.mpr ⟨columns, each, rfl⟩, ?_⟩
  rw [map_eraseDups injective, texts]

/-- The list of a projection is read, where it stands alone, as what the projection asks for. -/
theorem Projection.read_clause {projection : Projection} {list : List (Option String)}
    (asked : projection.listed = .ok list) (table : Option Identifier) : ∃ clause,
      (projection.draft table).text 0 = .ok clause ∧ listedColumns? clause = some list := by
  have sound := Projection.fault_of_listed asked table
  obtain ⟨same, again, read, -⟩ := Projection.reads (Draft.eq_ofTokens sound) 0
  obtain rfl := Except.ok.inj (again.symm.trans asked)
  refine ⟨_, Draft.text_eq_ok.mpr ⟨sound, rfl⟩, ?_⟩
  rw [listedColumns?, Token.render, String.toList_ofList,
    Token.pieces?_charsFrom (projection.draft_writes table).apart, Option.bind_some, read]

/-- **A table is asked for its columns.** -/
theorem columnsOf_asked {names : List String} (paths : ∀ name ∈ names, IsPath name)
    (table : Option Identifier) : ∃ clause columns,
      ((Projection.only names).draft table).text 0 = .ok clause ∧
        listedColumns? clause = some (columns.map some) ∧ ColumnsOf names columns := by
  obtain ⟨users, asked, -, users_iff⟩ := Projection.userFields_only names
  have heads : ∀ field ∈ idName :: createdName :: updatedName :: users,
      IsIdentifier (fieldHead field) := by
    have system : ∀ field ∈ [idName, createdName, updatedName], IsIdentifier (fieldHead field) := by
      decide
    intro field member
    rcases List.mem_append.mp (show field ∈ [idName, createdName, updatedName] ++ users from member)
      with fixed | user
    · exact system field fixed
    · refine paths field ((users_iff field).mp user).1 _ ?_
      rw [fieldSegments_eq_cons]
      exact List.mem_cons_self
  obtain ⟨columns, requested, texts⟩ := requestedColumns_spec heads
  have listed : (Projection.only names).listed =
      .ok ((columns.map Identifier.text).map some) := by
    rw [Projection.listed, Projection.columns?, asked, Option.map_some]
    show (requestedColumns _).map _ = _
    rw [requested, List.map_map]
    rfl
  obtain ⟨clause, written, read⟩ := Projection.read_clause listed table
  have split : columns.map Identifier.text =
      (systemColumns ++ users.map headColumn).eraseDups := texts
  refine ⟨clause, _, written, read, ?_, ?_, fun column => ?_⟩
  · rw [split, List.eraseDups_append]
    exact List.prefix_append _ _
  · rw [split]
    exact nodup_eraseDups _
  · rw [split, List.mem_eraseDups, List.mem_append, List.mem_map]
    constructor
    · rintro (fixed | ⟨name, user, begins⟩)
      · exact .inl fixed
      · exact .inr ⟨name, ((users_iff name).mp user).1, begins⟩
    · rintro (fixed | ⟨name, wanted, rfl⟩)
      · exact .inl fixed
      · cases reserved : isReserved name with
        | true => exact .inl (headColumn_of_isReserved reserved)
        | false => exact .inr ⟨name, (users_iff name).mpr ⟨wanted, reserved⟩, rfl⟩

/-! ### Keys -/

/-- What a document is asked for if names are requested. -/
structure KeysOf (names : List String) (document : Document) : Prop where
  leading : systemKeys <+: document.map Prod.fst
  distinct : (document.map Prod.fst).Nodup
  wanted : ∀ entry ∈ document, entry.2 = .int32 1
  mem_iff : ∀ key, key ∈ document.map Prod.fst ↔
    key ∈ systemKeys ∨ key ∈ names ∧ isReserved key = false

/-- **A document is asked for its fields.** -/
theorem keysOf_asked (names : List String) : ∃ document,
    (Projection.only names).toDocument? = some document ∧ KeysOf names document := by
  obtain ⟨users, asked, apart, users_iff⟩ := Projection.userFields_only names
  have fields : (Projection.only names).documentFields? = some (systemKeys ++ users) := by
    rw [Projection.documentFields?, asked]
    rfl
  have keys : ((systemKeys ++ users).map fun key => (key, Bson.int32 1)).map Prod.fst =
      systemKeys ++ users := by
    rw [List.map_map]
    exact List.map_id _
  have distinct : (systemKeys ++ users).Nodup := by
    have reserved : ∀ key ∈ systemKeys, isReserved key = true := by decide
    refine List.nodup_append.mpr ⟨by decide, apart, fun key system user member same => ?_⟩
    have plain := ((users_iff user).mp member).2
    rw [← same, reserved key system] at plain
    cases plain
  have document : (Projection.only names).toDocument? =
      some ((systemKeys ++ users).map fun key => (key, .int32 1)) := by
    rw [Projection.toDocument?, fields, Option.map_some]
    exact congrArg some (Document.ofEntries_of_nodup (by rwa [keys]))
  refine ⟨_, document, ?_, ?_, ?_, fun key => ?_⟩
  · rw [keys]
    exact List.prefix_append _ _
  · rwa [keys]
  · intro entry member
    obtain ⟨key, -, rfl⟩ := List.mem_map.mp member
    rfl
  · rw [keys, List.mem_append, users_iff]

/-! ### Overlapping paths -/

/-- The path leads on from the other one. -/
def LeadsInto (path other : String) : Prop :=
  fieldSegments other <+: fieldSegments path ∧ path ≠ other

instance (path other : String) : Decidable (LeadsInto path other) :=
  inferInstanceAs (Decidable (_ ∧ _))

/-- A server takes the keys of the document: none of them leads into another one. -/
def Document.Acceptable (document : Document) : Prop :=
  ∀ key ∈ document.map Prod.fst, ∀ other ∈ document.map Prod.fst, ¬LeadsInto key other

instance (document : Document) : Decidable document.Acceptable :=
  inferInstanceAs (Decidable (∀ key ∈ _, ∀ other ∈ _, _))

/-- A path leads into a name without dots if it begins with it. -/
theorem leadsInto_plain {path name : String} (plain : isDotted name = false) :
    LeadsInto path name ↔ fieldHead path = name ∧ path ≠ name := by
  rw [LeadsInto, fieldSegments_of_plain plain, fieldSegments_eq_cons path, List.cons_prefix_cons,
    and_iff_left List.nil_prefix, eq_comm]

/-- A name without dots leads nowhere. -/
theorem not_leadsInto_of_plain {name other : String} (plain : isDotted name = false) :
    ¬LeadsInto name other := by
  rintro ⟨front, different⟩
  rw [fieldSegments_of_plain plain, fieldSegments_eq_cons other, List.cons_prefix_cons,
    List.prefix_nil] at front
  obtain ⟨head, short⟩ := front
  have undotted : isDotted other = false := by
    rw [isDotted_eq_false, ← splitDots_tail]
    rw [fieldSegments, ← List.map_tail, List.map_eq_nil_iff] at short
    exact short
  exact different (head.symm.trans (fieldHead_of_plain undotted))

/-- **When the keys are taken**: no requested path leads into another one or into a key that the
store keeps for itself. -/
theorem KeysOf.acceptable_iff {names : List String} {document : Document}
    (keys : KeysOf names document) :
    document.Acceptable ↔ ∀ path ∈ names, isReserved path = false →
      fieldHead path ∉ systemKeys ∧
        ∀ other ∈ names, isReserved other = false → ¬LeadsInto path other := by
  have system : ∀ key ∈ systemKeys, isDotted key = false ∧ isReserved key = true := by decide
  constructor
  · intro accepted path wanted plain
    have own := (keys.mem_iff path).mpr (.inr ⟨wanted, plain⟩)
    refine ⟨fun begins => ?_, fun other also unreserved => ?_⟩
    · obtain ⟨undotted, reserved⟩ := system _ begins
      refine accepted path own _ ((keys.mem_iff _).mpr (.inl begins))
        ((leadsInto_plain undotted).mpr ⟨rfl, fun same => ?_⟩)
      rw [← same, plain] at reserved
      cases reserved
    · exact accepted path own other ((keys.mem_iff other).mpr (.inr ⟨also, unreserved⟩))
  · intro clear key member other also leads
    rcases (keys.mem_iff key).mp member with fixed | ⟨wanted, plain⟩
    · exact not_leadsInto_of_plain (system key fixed).1 leads
    · obtain ⟨head, others⟩ := clear key wanted plain
      rcases (keys.mem_iff other).mp also with fixed | ⟨requested, unreserved⟩
      · exact head (((leadsInto_plain (system other fixed).1).mp leads).1 ▸ fixed)
      · exact others other requested unreserved leads

/-- **What both stores are asked for**, and when the document of it is taken. -/
theorem projection_asked {names : List String} (paths : ∀ name ∈ names, IsPath name)
    (table : Option Identifier) :
    (∃ clause columns, ((Projection.only names).draft table).text 0 = .ok clause ∧
      listedColumns? clause = some (columns.map some) ∧ ColumnsOf names columns) ∧
    ∃ document, (Projection.only names).toDocument? = some document ∧ KeysOf names document ∧
      (document.Acceptable ↔ ∀ path ∈ names, isReserved path = false →
        fieldHead path ∉ systemKeys ∧
          ∀ other ∈ names, isReserved other = false → ¬LeadsInto path other) := by
  obtain ⟨document, made, keys⟩ := keysOf_asked names
  exact ⟨columnsOf_asked paths table, document, made, keys, keys.acceptable_iff⟩

/-- A field and a field inside it. -/
def nestedNames : List String := ["address", "address.city"]

/-- **A projection that the one store answers and the other one does not take.** -/
theorem not_projection_acceptable : (∀ name ∈ nestedNames, IsPath name) ∧
    ((Projection.only nestedNames).draft none).text 0 =
      .ok "\"id\", \"created_at\", \"updated_at\", \"address\"" ∧
    ∃ document, (Projection.only nestedNames).toDocument? = some document ∧
      ¬document.Acceptable := by
  refine ⟨by decide, ?_, _, rfl, ?_⟩
  · decide +kernel
  · decide +kernel

/-- A list of names with a path, a name twice and names of the store's own in both spellings. -/
theorem projection_asked_mixed :
    (∀ name ∈ ["name", "address.city", "_id", "name", "id"], IsPath name) ∧
    ∃ document, (Projection.only ["name", "address.city", "_id", "name", "id"]).toDocument? =
      some document ∧ document.Acceptable := by
  have paths : ∀ name ∈ ["name", "address.city", "_id", "name", "id"], IsPath name := by decide
  obtain ⟨-, document, made, -, accepted⟩ := projection_asked paths none
  exact ⟨paths, document, made, accepted.mpr (by decide)⟩

end TwinStore
