/-
**The operations of an update document.** An update document groups operations by their kinds, and
none of them gets lost on the way.

* `Document.operations`: the operators, fields and operands that an update document holds.
* `UpdateSet.groups_perm`: the groups hold each operation of an update once.
* `Document.Delivers`: no operator is there without a field, and the operations of the document are
  those of an update, each under the operator of its kind with its own operand.
* `UpdateSet.toDocument_delivers`: an update document delivers the update.
-/

import Mathlib.Data.List.Perm.Basic
import TwinStore.Bson.Update
import TwinStore.Proofs.Bson.Insertion
import TwinStore.Proofs.Bson.Selector

namespace TwinStore

open Result

/-! ### Operations of a document -/

/-- An operation as a store receives it. -/
structure SentOperation where
  operator : String
  field : String
  operand : Bson

/-- The operations of an operator: one for each field under it. -/
def SentOperation.ofEntry : String × Bson → List SentOperation
  | (operator, .document fields) => fields.map fun entry => ⟨operator, entry.1, entry.2⟩
  | _ => []

/-- The operations that an update document holds. -/
def Document.operations (document : Document) : List SentOperation :=
  document.flatMap SentOperation.ofEntry

/-- The operand of an operation, as a store receives it: the operation's own value, an empty text
for a field to remove, or the end at which an item is taken off. -/
inductive UpdateOperation.Encodes : UpdateOperation → Bson → Prop
  | unset : Encodes (.set .null) (.text "")
  | set {value : Value} {stored : Bson} (present : value.isNull = false)
      (encoded : value.toBson = .ok stored) : Encodes (.set value) stored
  | increment {amount : Number} {stored : Bson}
      (encoded : (Value.number amount).toBson = .ok stored) : Encodes (.increment amount) stored
  | multiply {factor : Number} {stored : Bson}
      (encoded : (Value.number factor).toBson = .ok stored) : Encodes (.multiply factor) stored
  | max {value : Value} {stored : Bson} (encoded : value.toBson = .ok stored) :
      Encodes (.max value) stored
  | min {value : Value} {stored : Bson} (encoded : value.toBson = .ok stored) :
      Encodes (.min value) stored
  | push {value : Value} {stored : Bson} (encoded : value.toBson = .ok stored) :
      Encodes (.push value) stored
  | removeAll {items : List Value} {stored : Bson}
      (encoded : (Value.array items).toBson = .ok stored) :
      Encodes (.removeAll (.array items)) stored
  | popFirst : Encodes .popFirst (.int32 (-1))
  | popLast : Encodes .popLast (.int32 1)

/-- An operation is sent under the operator of its kind, on its own field, with its operand. -/
structure SentOperation.Carries (entry : String × UpdateOperation) (sent : SentOperation) :
    Prop where
  operator : sent.operator = entry.2.kind.operator
  field : sent.field = documentField entry.1
  operand : entry.2.Encodes sent.operand

/-- A document delivers the operations of an update: all operators are different and have a field
under them, and the operations of the document are those of the update, each once. -/
structure Document.Delivers (document : Document) (update : UpdateSet) : Prop where
  distinct : (document.map Prod.fst).Nodup
  some_ : ∀ entry ∈ document, ∃ kind fields,
    entry = (UpdateKind.operator kind, .document fields) ∧ fields ≠ []
  once : ∃ sent, List.Forall₂ SentOperation.Carries update sent ∧ sent.Perm document.operations

/-! ### Operands -/

theorem UpdateOperation.encodes_of_operand {field : String} {operation : UpdateOperation}
    {stored : Bson} (done : operation.operand field = .ok stored) : operation.Encodes stored := by
  cases operation with
  | set value =>
    cases value with
    | null =>
      cases done
      exact .unset
    | _ => exact .set rfl (Value.compile_eq_ok.mp done)
  | increment amount => exact .increment (Value.compile_eq_ok.mp done)
  | multiply factor => exact .multiply (Value.compile_eq_ok.mp done)
  | max value => exact .max (Value.compile_eq_ok.mp done)
  | min value => exact .min (Value.compile_eq_ok.mp done)
  | push value => exact .push (Value.compile_eq_ok.mp done)
  | removeAll values =>
    cases values with
    | array items => exact .removeAll (Value.compile_eq_ok.mp done)
    | _ => cases done
  | popFirst =>
    cases done
    exact .popFirst
  | popLast =>
    cases done
    exact .popLast

/-! ### Groups -/

theorem UpdateKind.mem_all (kind : UpdateKind) : kind ∈ all := by cases kind <;> decide

theorem UpdateKind.nodup_all : all.Nodup := by decide

theorem UpdateKind.operator_injective : Function.Injective operator := by
  intro left right same
  cases left <;> cases right <;> first | rfl | exact absurd same (by decide)

/-- Grouping items by the kinds of a list loses none that are of those kinds. -/
theorem flatMap_filter_perm {α κ : Type} [DecidableEq κ] (kindOf : α → κ) {kinds : List κ}
    (distinct : kinds.Nodup) (items : List α) :
    (kinds.flatMap fun kind => items.filter fun item => kindOf item = kind).Perm
      (items.filter fun item => kindOf item ∈ kinds) := by
  induction kinds with
  | nil => simp
  | cons kind rest step =>
    obtain ⟨fresh, later⟩ := List.nodup_cons.mp distinct
    have split := List.filter_append_perm (fun item => decide (kindOf item = kind))
      (items.filter fun item => kindOf item ∈ kind :: rest)
    have same : ((items.filter fun item => kindOf item ∈ kind :: rest).filter fun item =>
        kindOf item = kind) = items.filter fun item => kindOf item = kind := by
      rw [List.filter_filter]
      refine List.filter_congr fun item _ => ?_
      by_cases here : kindOf item = kind <;> simp [here]
    have others : ((items.filter fun item => kindOf item ∈ kind :: rest).filter fun item =>
        !decide (kindOf item = kind)) = items.filter fun item => kindOf item ∈ rest := by
      rw [List.filter_filter]
      refine List.filter_congr fun item _ => ?_
      by_cases here : kindOf item = kind
      · simp [here, fresh]
      · simp [here]
    rw [same, others] at split
    rw [List.flatMap_cons]
    exact ((step later).append_left _).trans split

namespace UpdateSet

/-- **The groups hold each operation of an update once.** -/
theorem groups_perm (update : UpdateSet) : (update.groups.flatMap Prod.snd).Perm update := by
  have all_ : update.groups.flatMap Prod.snd =
      UpdateKind.all.flatMap fun kind => update.filter fun entry => entry.2.kind = kind := by
    have kept : update.groups.map Prod.snd =
        ((UpdateKind.all.map fun kind => (kind, update.ofKind kind)).map Prod.snd).filter
          fun group => group ≠ [] := by
      rw [List.filter_map]
      rfl
    rw [List.flatMap_def, kept, List.flatten_filter_ne_nil, List.map_map, List.flatMap_def]
    rfl
  have every : (update.filter fun entry => entry.2.kind ∈ UpdateKind.all) = update :=
    List.filter_eq_self.mpr fun entry _ => decide_eq_true (UpdateKind.mem_all _)
  have grouped := flatMap_filter_perm (fun entry : String × UpdateOperation => entry.2.kind)
    UpdateKind.nodup_all update
  rwa [every, ← all_] at grouped

theorem mem_groups {update : UpdateSet} {group : UpdateKind × List (String × UpdateOperation)} :
    group ∈ update.groups ↔ group.2 = update.ofKind group.1 ∧ group.2 ≠ [] := by
  obtain ⟨kind, operations⟩ := group
  rw [groups, List.mem_filter, List.mem_map]
  constructor
  · rintro ⟨⟨other, -, same⟩, some_⟩
    cases same
    exact ⟨rfl, of_decide_eq_true some_⟩
  · rintro ⟨own, some_⟩
    exact ⟨⟨kind, UpdateKind.mem_all kind, congrArg (Prod.mk kind) own.symm⟩,
      decide_eq_true some_⟩

theorem nodup_groups (update : UpdateSet) : (update.groups.map Prod.fst).Nodup := by
  refine List.Nodup.sublist (List.filter_sublist.map Prod.fst) ?_
  rw [List.map_map]
  exact UpdateKind.nodup_all.map fun _ _ same => same

/-! ### Delivery -/

/-- The entries of operations of one kind carry them. -/
theorem carries_of_operandEntries {kind : UpdateKind}
    {operations : List (String × UpdateOperation)} {entries : List (String × Bson)}
    (alike : ∀ entry ∈ operations, entry.2.kind = kind)
    (done : operandEntries operations = .ok entries) :
    List.Forall₂ SentOperation.Carries operations
      (SentOperation.ofEntry (kind.operator, .document entries)) := by
  rw [SentOperation.ofEntry, List.forall₂_map_right_iff]
  have pairs := (List.forall₂_and_left _ _).mpr ⟨alike, mapM_eq_ok.mp done⟩
  refine pairs.imp fun entry written one => ?_
  obtain ⟨stored, encoded, made⟩ := bind_eq_ok.mp one.2
  cases made
  exact ⟨by rw [one.1], rfl, UpdateOperation.encodes_of_operand encoded⟩

theorem names_operandEntries {operations : List (String × UpdateOperation)}
    {entries : List (String × Bson)} (done : operandEntries operations = .ok entries) :
    entries.map Prod.fst = operations.map fun entry => documentField entry.1 := by
  have pairs := mapM_eq_ok.mp done
  clear done
  induction pairs with
  | nil => rfl
  | cons one _ step =>
    obtain ⟨stored, -, made⟩ := bind_eq_ok.mp one
    cases made
    rw [List.map_cons, List.map_cons, step]

/-- The entry of a group in an update document. -/
def IsGroupEntry (group : UpdateKind × List (String × UpdateOperation)) (entry : String × Bson) :
    Prop :=
  ∃ fields, entry = (group.1.operator, .document fields) ∧ fields ≠ [] ∧
    List.Forall₂ SentOperation.Carries group.2 (SentOperation.ofEntry entry)

/-- The compiled group is an entry with its operations. -/
theorem isGroupEntry_of_mem {update : UpdateSet}
    {group : UpdateKind × List (String × UpdateOperation)} {entry : String × Bson}
    (apart : (update.map fun entry => documentField entry.1).Nodup) (member : group ∈ update.groups)
    (done : (do return (group.1.operator, .document (Document.ofEntries
      (← operandEntries group.2)))) = (.ok entry : Except CompileError (String × Bson))) :
    IsGroupEntry group entry := by
  obtain ⟨own, some_⟩ := mem_groups.mp member
  obtain ⟨fields, written, made⟩ := bind_eq_ok.mp done
  cases made
  have names := names_operandEntries written
  have different : (fields.map Prod.fst).Nodup := by
    rw [names, own]
    exact apart.sublist (List.filter_sublist.map _)
  rw [Document.ofEntries_of_nodup different]
  refine ⟨fields, rfl, ?_, carries_of_operandEntries (fun entry inside => ?_) written⟩
  · rintro rfl
    exact some_ (List.map_eq_nil_iff.mp names.symm)
  · rw [own] at inside
    exact of_decide_eq_true (List.mem_filter.mp inside).2

theorem operators_of_groupEntries {groups : List (UpdateKind × List (String × UpdateOperation))}
    {entries : List (String × Bson)} (grouped : List.Forall₂ IsGroupEntry groups entries) :
    entries.map Prod.fst = (groups.map Prod.fst).map UpdateKind.operator := by
  induction grouped with
  | nil => rfl
  | cons one _ step =>
    obtain ⟨fields, rfl, -⟩ := one
    rw [List.map_cons, List.map_cons, List.map_cons, step]

/-- **An update document delivers the update**, if no two fields are called alike in documents. -/
theorem toDocument_delivers {update : UpdateSet} {document : Document}
    (apart : (update.map fun entry => documentField entry.1).Nodup)
    (done : update.toDocument = .ok document) : document.Delivers update := by
  obtain ⟨entries, mapped, made⟩ := bind_eq_ok.mp done
  cases made
  have grouped : List.Forall₂ IsGroupEntry update.groups entries := by
    have pairs := (List.forall₂_and_left _ _).mpr
      ⟨fun group (member : group ∈ update.groups) => member, mapM_eq_ok.mp mapped⟩
    exact pairs.imp fun group entry one => isGroupEntry_of_mem apart one.1 one.2
  have distinct : (entries.map Prod.fst).Nodup := by
    rw [operators_of_groupEntries grouped]
    exact update.nodup_groups.map UpdateKind.operator_injective
  rw [Document.ofEntries_of_nodup distinct]
  refine ⟨distinct, fun entry member => ?_, ?_⟩
  · obtain ⟨group, known, compiled⟩ := exists_of_mem_results mapped member
    obtain ⟨fields, rfl, some_, -⟩ := isGroupEntry_of_mem apart known compiled
    exact ⟨group.1, fields, rfl, some_⟩
  · have carried : List.Forall₂ SentOperation.Carries (update.groups.flatMap Prod.snd)
        (Document.operations entries) :=
      List.rel_flatMap grouped fun _ _ one => one.choose_spec.2.2
    obtain ⟨sent, carries, same⟩ := List.perm_comp_forall₂ update.groups_perm.symm carried
    exact ⟨sent, carries, same⟩

end UpdateSet

end TwinStore
