/-
**The document of an insertion.** What a plan writes to a document store, and the record that is
read from it.

* `ofEntries_of_nodup`: entries of different names are the document that they leave behind.
* `ofDocument_toDocument`: the record of the document has the plan's id, its instant as both stamps,
  and the fields as they come back from a document.
-/

import TwinStore.Bson.Request
import TwinStore.Proofs.Plan.Insertion
import TwinStore.Proofs.Record
import TwinStore.Proofs.Value.Document

namespace TwinStore

open Result Value

/-! ### Entries of different names -/

namespace Document

theorem insert_new {document : Document} {name : String} {value : Bson}
    (fresh : name ∉ document.map Prod.fst) :
    document.insert name value = document ++ [(name, value)] := by
  induction document with
  | nil => rfl
  | cons entry rest step =>
    obtain ⟨other, old⟩ := entry
    rw [List.map_cons, List.mem_cons, not_or] at fresh
    rw [Document.insert, if_neg (Ne.symm fresh.1), step fresh.2]
    rfl

/-- New entries of different names are appended. -/
theorem foldl_insert_of_nodup {document : Document} {entries : List (String × Bson)}
    (distinct : ((document ++ entries).map Prod.fst).Nodup) :
    entries.foldl (fun document entry => Document.insert document entry.1 entry.2) document =
      document ++ entries := by
  induction entries generalizing document with
  | nil => rw [List.append_nil]; rfl
  | cons entry rest step =>
    have fresh : entry.1 ∉ document.map Prod.fst := by
      intro member
      rw [List.map_append, List.nodup_append] at distinct
      exact distinct.2.2 _ member _ List.mem_cons_self rfl
    have again : (((document ++ [entry]) ++ rest).map Prod.fst).Nodup := by
      rw [List.append_assoc]
      exact distinct
    rw [List.foldl_cons, insert_new fresh, step again, List.append_assoc]
    rfl

/-- **Entries of different names are the document that they leave behind.** -/
theorem ofEntries_of_nodup {entries : List (String × Bson)}
    (distinct : (entries.map Prod.fst).Nodup) : Document.ofEntries entries = entries :=
  foldl_insert_of_nodup distinct

end Document

/-! ### Writing -/

/-- Fields are stored if each of their decimals is. -/
theorem fieldsToBson_of_storable {fields : List (String × Value)}
    (storable : EveryField StorableDecimal fields) :
    ∃ stored, fieldsToBson fields = .ok stored := by
  cases outcome : fieldsToBson fields with
  | ok stored => exact ⟨stored, rfl⟩
  | error cause =>
    obtain ⟨number, member, refused⟩ := decimal_of_fieldsToBson_error outcome
    have kept : Decimal128.ofDecimal? number ≠ none := storable _ member
    unfold Decimal.toBson at refused
    split at refused
    · cases refused
    · next none_ => exact absurd none_ kept

/-- Fields that are not called as the id are written under their own names. -/
theorem mapM_compile {fields : Fields Value} {stored : List (String × Bson)}
    (plain : ∀ entry ∈ fields, entry.1 ≠ idName) (done : fieldsToBson fields = .ok stored) :
    (fields.mapM fun (field, value) => do return (documentField field, ← value.compile)) =
      (.ok stored : Except CompileError (List (String × Bson))) := by
  induction fields generalizing stored with
  | nil =>
    cases done
    rfl
  | cons entry rest step =>
    obtain ⟨name, value⟩ := entry
    obtain ⟨first, firstDone, more⟩ := bind_eq_ok.mp done
    obtain ⟨others, restDone, joined⟩ := bind_eq_ok.mp more
    cases joined
    have own : documentField name = name := if_neg (plain (name, value) List.mem_cons_self)
    have compiled : value.compile = .ok first := by
      rw [Value.compile, firstDone]
      rfl
    have written := step (fun other member => plain other (List.mem_cons_of_mem _ member)) restDone
    rw [List.mapM_cons]
    refine bind_eq_ok.mpr ⟨(name, first), ?_, bind_eq_ok.mpr ⟨others, written, rfl⟩⟩
    show (do return (documentField name, ← value.compile)) = _
    rw [compiled, own]
    rfl

theorem names_fieldsToBson : ∀ {fields : List (String × Value)} {stored : List (String × Bson)},
    fieldsToBson fields = .ok stored → stored.map Prod.fst = fields.map Prod.fst
  | [], _, done => by
    cases done
    rfl
  | (name, _) :: _, _, done => by
    obtain ⟨_, _, more⟩ := bind_eq_ok.mp done
    obtain ⟨_, restDone, joined⟩ := bind_eq_ok.mp more
    cases joined
    rw [List.map_cons, List.map_cons, names_fieldsToBson restDone]

/-- The id and the stamps of a plan's document. -/
def InsertPlan.stampEntries (plan : InsertPlan) : List (String × Bson) :=
  [(documentIdName, .text plan.id), (createdName, instantBson plan.now),
    (updatedName, instantBson plan.now)]

/-- **What a plan writes**: the stamps, then its fields as they are stored. -/
theorem toDocument_eq {plan : InsertPlan} (made : plan.Made) {stored : List (String × Bson)}
    (done : fieldsToBson plan.fields = .ok stored) :
    plan.toDocument = .ok (plan.stampEntries ++ stored) := by
  have plain : ∀ entry ∈ plan.fields, entry.1 ≠ idName :=
    fun entry member => (Record.isReserved_eq_false.mp (made.not_reserved entry member)).1
  have distinct : ((plan.stampEntries ++ stored).map Prod.fst).Nodup := by
    rw [List.map_append, List.nodup_append]
    refine ⟨?_, ?_, ?_⟩
    · show [documentIdName, createdName, updatedName].Nodup
      decide
    · rw [names_fieldsToBson done]
      exact Fields.nodup_of_sorted made.sorted
    · intro name stamp other member same
      subst same
      rw [names_fieldsToBson done] at member
      obtain ⟨entry, inside, rfl⟩ := List.mem_map.mp member
      obtain ⟨_, notDocumentId, notCreated, notUpdated⟩ :=
        Record.isReserved_eq_false.mp (made.not_reserved entry inside)
      have stamps : entry.1 ∈ [documentIdName, createdName, updatedName] := stamp
      simp [notDocumentId, notCreated, notUpdated] at stamps
  rw [InsertPlan.toDocument, documentEntries, mapM_compile plain done]
  show Except.ok (Document.ofEntries (plan.stampEntries ++ stored)) = _
  rw [Document.ofEntries_of_nodup distinct]

/-! ### Reading -/

/-- The stamps of a document are read as the plan's id and its instant. -/
theorem entriesOfBson_stamps {plan : InsertPlan} (whole : plan.now.IsWhole)
    {stored : List (String × Bson)} {read : List (String × Value)}
    (back : entriesOfBson stored = .ok read) :
    entriesOfBson (plan.stampEntries ++ stored) =
      .ok ([(documentIdName, .text plan.id), (createdName, .instant plan.now),
        (updatedName, .instant plan.now)] ++ read) := by
  have stamp : ofBson (instantBson plan.now) = .ok (.instant plan.now) := by
    obtain ⟨low, high⟩ := plan.now.milliseconds_range
    rw [instantBson, ofBson, Int64.toInt_ofInt_of_le low high,
      Instant.clampMilliseconds_milliseconds_eq_iff.mpr whole]
  have id : ofBson (.text plan.id) = .ok (.text plan.id) := by rw [ofBson]
  simp only [InsertPlan.stampEntries, List.cons_append, List.nil_append, entriesOfBson, stamp, id,
    back]
  rfl

/-- **The record of a plan's document.** -/
theorem ofDocument_toDocument {plan : InsertPlan} (made : plan.Made)
    (whole : plan.now.IsWhole) (storable : EveryField StorableDecimal plan.fields)
    (ordered : EveryField OrderedFields plan.fields) (className : String) :
    ∃ document read, plan.toDocument = .ok document ∧
      Record.ofDocument className document =
        .ok ⟨className, some plan.id, some plan.now, some plan.now, read⟩ ∧
      AlikeFields read (mapFields storedLeaf plan.fields) := by
  obtain ⟨stored, done⟩ := fieldsToBson_of_storable storable
  obtain ⟨read, back, names, alike⟩ := entriesOfBson_toBson ordered done
  have sorted : Fields.Sorted read := by
    have before := made.sorted
    rw [Fields.Sorted, ← List.pairwise_map (f := Prod.fst)] at before ⊢
    rwa [names]
  have plain : ∀ entry ∈ read, isReserved entry.1 = false := by
    intro entry member
    have name : entry.1 ∈ plan.fields.map Prod.fst := names ▸ List.mem_map_of_mem member
    obtain ⟨other, inside, same⟩ := List.mem_map.mp name
    rw [← same]
    exact made.not_reserved other inside
  refine ⟨_, read, toDocument_eq made done, ?_, alike⟩
  rw [Record.ofDocument, entriesOfBson_stamps whole back]
  exact congrArg Except.ok (Record.materialize_stamped (.inr rfl) sorted plain (.inl rfl))

end TwinStore
