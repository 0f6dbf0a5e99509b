/-
**Every operation arrives once.** What becomes of an update on its way to a store: it is stamped,
and then written as assignments or as an update document. An upsert adds what only an insertion
sets.

* `UpdateSet.IsStampOf`: no operation of the user is changed, and the stamp is always there.
* `UpdateSet.Assigns` and `Document.Delivers`: both ways of writing have one place for each
  operation. The places are apart, since the names of a stamped update are.
* `UpsertPlan.InsertsOnly`: the id, the creation and the insert-only fields, none of which an
  operation touches.
* `operations_arrive_once` joins them.
-/

import TwinStore.Bson.Request
import TwinStore.Proofs.Bson.Update
import TwinStore.Proofs.Plan.Seeding
import TwinStore.Proofs.Sql.Assignment
import TwinStore.Proofs.Update
import TwinStore.Sql.Generator

namespace TwinStore

open Sql

/-! ### Names of a stamped update -/

namespace UpdateSet.IsStampOf

variable {stamped update : UpdateSet} {now : Instant}

theorem ne_nil (stamp : stamped.IsStampOf update now) : stamped ≠ [] := by
  rintro rfl
  cases stamp.updatedName_mem

/-- No field of a stamped update is renamed in a document. -/
theorem documentNames (stamp : stamped.IsStampOf update now) :
    (stamped.map fun entry => documentField entry.1) = stamped.map Prod.fst := by
  refine List.map_congr_left fun entry member => ?_
  have notId : entry.1 ≠ idName := by
    intro same
    exact stamp.not_fixed (List.mem_map_of_mem member) (same ▸ by decide)
  rw [documentField, if_neg notId]

/-- **The assignments of a stamped update**: one for each operation, to different columns, the stamp
among them. -/
theorem assigned (stamp : stamped.IsStampOf update now) {generator : Generator}
    {table : Identifier} {text : String}
    (written : (generator.run (.setClause stamped table)).2 = .ok text) :
    ∃ assigned, assignments? text.toList = some assigned ∧
      UpdateSet.Assigns table generator.arguments.length stamped assigned ∧
      assigned.map Prod.fst = stamped.map Prod.fst := by
  obtain ⟨tokens, finished, rendered⟩ := Result.map_eq_ok.mp written
  obtain ⟨assigned, read, assigns⟩ := UpdateSet.assignments?_render
    (Draft.finish_eq_ok.mp finished) stamp.ne_nil generator.arguments.length
  have plain : documentIdName ∉ stamped.map Prod.fst :=
    fun member => stamp.not_fixed member (by decide)
  exact ⟨assigned, rendered ▸ read, assigns, assigns.columns plain⟩

/-- **The update document of a stamped update** delivers it. -/
theorem delivered (stamp : stamped.IsStampOf update now) {document : Document}
    (compiled : stamped.toDocument = .ok document) : document.Delivers stamped :=
  UpdateSet.toDocument_delivers (stamp.documentNames ▸ stamp.nodup) compiled

end UpdateSet.IsStampOf

/-! ### What only an insertion sets -/

namespace UpsertPlan

/-- What an upsert hands over for an insertion only: the id, the creation and the insert-only
fields as they are stored, all under different names. -/
structure InsertsOnly (plan : UpsertPlan) (insertion : Document) : Prop where
  entries : ∃ stored, List.Forall₂ Stores plan.insertOnlyFields stored ∧
    insertion = (documentIdName, .text plan.insert.id) ::
      (createdName, instantBson plan.insert.now) :: stored
  distinct : (insertion.map Prod.fst).Nodup

variable {plan : UpsertPlan}

/-- An insert-only field is one of the user, without an operation on it. -/
theorem mem_insertOnlyFields {entry : String × Value} :
    entry ∈ plan.insertOnlyFields ↔
      entry ∈ plan.setOnInsert ∧ plan.update.get? entry.1 = none ∧ isReserved entry.1 = false := by
  rw [insertOnlyFields, untouched, List.mem_filter, List.mem_filter, Fields.contains]
  simp [and_assoc]

/-- The entries of insert-only fields, under their own names. -/
theorem stores_of_documentEntries {fields : Fields Value} {stored : List (String × Bson)}
    (plain : ∀ entry ∈ fields, isReserved entry.1 = false)
    (done : documentEntries fields = .ok stored) : List.Forall₂ Stores fields stored := by
  have pairs := (List.forall₂_and_left _ _).mpr
    ⟨plain, Result.mapM_eq_ok.mp (Result.mapError_eq_ok.mp done)⟩
  refine pairs.imp fun entry written one => ?_
  obtain ⟨value, compiled, made⟩ := Result.bind_eq_ok.mp one.2
  cases made
  have notId : entry.1 ≠ idName := (Record.isReserved_eq_false.mp one.1).1
  refine ⟨?_, Value.compile_eq_ok.mp compiled⟩
  show entry.1 = documentField entry.1
  rw [documentField, if_neg notId]

theorem names_of_stores {fields : Fields Value} {stored : List (String × Bson)}
    (stores : List.Forall₂ Stores fields stored) :
    stored.map Prod.fst = fields.map Prod.fst := by
  induction stores with
  | nil => rfl
  | cons one _ step => rw [List.map_cons, List.map_cons, step, one.1]

/-- **The insertion of an upsert** holds the id, the creation and the insert-only fields. -/
theorem insertsOnly_of_insertionDocument (sorted : Fields.Sorted plan.setOnInsert)
    {insertion : Document} (done : plan.insertionDocument = .ok insertion) :
    plan.InsertsOnly insertion := by
  obtain ⟨stored, written, made⟩ := Result.bind_eq_ok.mp done
  cases made
  have plain : ∀ entry ∈ plan.insertOnlyFields, isReserved entry.1 = false :=
    fun entry member => (mem_insertOnlyFields.mp member).2.2
  have stores := stores_of_documentEntries plain written
  have names := names_of_stores stores
  have distinct : (((documentIdName, Bson.text plan.insert.id) ::
      (createdName, instantBson plan.insert.now) :: stored).map Prod.fst).Nodup := by
    have apart : ∀ name, isReserved name = true → name ∉ stored.map Prod.fst := by
      intro name reserved member
      rw [names] at member
      obtain ⟨entry, known, rfl⟩ := List.mem_map.mp member
      rw [plain entry known] at reserved
      cases reserved
    have different : documentIdName ≠ createdName := by decide
    rw [List.map_cons, List.map_cons, List.nodup_cons, List.nodup_cons, List.mem_cons, not_or,
      names]
    rw [names] at apart
    refine ⟨⟨different, apart documentIdName (by decide)⟩, apart createdName (by decide), ?_⟩
    exact Fields.nodup_of_sorted ((sorted.filter _).filter _)
  show plan.InsertsOnly (Document.ofEntries (_ :: _ :: stored))
  rw [Document.ofEntries_of_nodup distinct]
  exact ⟨⟨stored, stores, rfl⟩, distinct⟩

/-- No operation is on a field that only an insertion sets. -/
theorem InsertsOnly.untouched {insertion : Document} (inserts : plan.InsertsOnly insertion)
    {update : UpdateSet} {now : Instant} (stamp : plan.update.IsStampOf update now)
    {entry : String × Bson} (member : entry ∈ insertion) :
    entry.1 ∉ plan.update.map Prod.fst := by
  obtain ⟨⟨stored, stores, rfl⟩, -⟩ := inserts
  have fixed : ∀ name ∈ UpdateSet.fixedNames, name ∉ plan.update.map Prod.fst :=
    fun name fixed touched => stamp.not_fixed touched fixed
  rcases List.mem_cons.mp member with rfl | member
  · exact fixed documentIdName (by decide)
  · rcases List.mem_cons.mp member with rfl | member
    · exact fixed createdName (by decide)
    · have named := names_of_stores stores ▸ List.mem_map_of_mem (f := Prod.fst) member
      obtain ⟨field, known, same⟩ := List.mem_map.mp named
      rw [← same]
      exact Fields.get?_eq_none.mp (mem_insertOnlyFields.mp known).2.1

end UpsertPlan

/-! ### Delivery -/

theorem UpdateKind.operator_ne_setOnInsert (kind : UpdateKind) :
    kind.operator ≠ "$setOnInsert" := by
  cases kind <;> decide

namespace Document.Delivers

variable {document : Document} {update : UpdateSet}

/-- The fields of a document's operations are those of the update, each as often. -/
theorem fields_perm (delivers : document.Delivers update) :
    (document.operations.map SentOperation.field).Perm
      (update.map fun entry => documentField entry.1) := by
  obtain ⟨sent, carries, same⟩ := delivers.once
  have names : sent.map SentOperation.field = update.map fun entry => documentField entry.1 := by
    clear same delivers
    induction carries with
    | nil => rfl
    | cons one _ step => rw [List.map_cons, List.map_cons, step, one.field]
  rw [← names]
  exact (same.map _).symm

/-- There are as many operations as in the update. -/
theorem length_operations (delivers : document.Delivers update) :
    document.operations.length = update.length := by
  have same := delivers.fields_perm.length_eq
  rwa [List.length_map, List.length_map] at same

theorem setOnInsert_new (delivers : document.Delivers update) :
    "$setOnInsert" ∉ document.map Prod.fst := by
  intro member
  obtain ⟨entry, known, same⟩ := List.mem_map.mp member
  obtain ⟨kind, fields, rfl, -⟩ := delivers.some_ entry known
  exact kind.operator_ne_setOnInsert same

end Document.Delivers

/-- **The update document of an upsert** delivers the update, and behind it what only an insertion
sets, on no field that an operation is on. -/
theorem UpsertPlan.toDocument_delivers {plan : UpsertPlan} {update : UpdateSet} {now : Instant}
    (stamp : plan.update.IsStampOf update now) (sorted : Fields.Sorted plan.setOnInsert)
    {document : Document} (done : plan.toDocument = .ok document) :
    ∃ operators insertion, document = operators ++ [("$setOnInsert", .document insertion)] ∧
      operators.Delivers plan.update ∧ plan.InsertsOnly insertion ∧
      ∀ entry ∈ insertion, ∀ sent ∈ Document.operations operators, sent.field ≠ entry.1 := by
  obtain ⟨operators, compiled, more⟩ := Result.bind_eq_ok.mp done
  obtain ⟨insertion, inserted, made⟩ := Result.bind_eq_ok.mp more
  cases made
  have delivers := stamp.delivered (Result.mapError_eq_ok.mp compiled)
  have inserts := insertsOnly_of_insertionDocument sorted inserted
  refine ⟨operators, insertion, Document.insert_new delivers.setOnInsert_new, delivers, inserts, ?_⟩
  intro entry member sent known same
  have touched := delivers.fields_perm.mem_iff.mp (List.mem_map_of_mem known)
  rw [stamp.documentNames, same] at touched
  exact inserts.untouched stamp member touched

/-- **Every operation arrives once.** A stamped update has the operations of the user, but for those
on the id and the creation stamp, and sets the stamp of the last change. Its assignments are one for
each operation, to different columns, and its update document holds each operation once under the
operator of its kind. An upsert delivers the same update, and what it adds for an insertion is on no
field that an operation is on. -/
theorem operations_arrive_once {update : UpdateSet} {setOnInsert : Fields Value}
    (sorted : Fields.Sorted update) (ordered : Fields.Sorted setOnInsert) (now : Instant) :
    (update.stamped now).IsStampOf update now ∧
    (∀ (generator : Generator) (table : Identifier) (text : String),
      (generator.run (.setClause (update.stamped now) table)).2 = .ok text →
      ∃ assigned, assignments? text.toList = some assigned ∧ assigned ≠ [] ∧
        UpdateSet.Assigns table generator.arguments.length (update.stamped now) assigned ∧
        assigned.map Prod.fst = (update.stamped now).map Prod.fst ∧
        (assigned.map Prod.fst).Nodup ∧
        (∀ name ∈ UpdateSet.fixedNames, name ∉ assigned.map Prod.fst) ∧
        (assigned.map Prod.fst).count updatedName = 1) ∧
    (∀ document, (update.stamped now).toDocument = .ok document →
      document.Delivers (update.stamped now) ∧
      (document.operations.map SentOperation.field).Nodup ∧
      document.operations.length = (update.stamped now).length) ∧
    ∀ (query : FindQuery) (id : String) (plan : UpsertPlan),
      UpsertPlan.of query update setOnInsert id now = .ok plan →
      plan.update = update.stamped now ∧ plan.setOnInsert = setOnInsert ∧
      plan.insert.id = id ∧ plan.insert.now = now ∧
      ∀ document, plan.toDocument = .ok document →
        ∃ operators insertion, document = operators ++ [("$setOnInsert", .document insertion)] ∧
          operators.Delivers plan.update ∧ plan.InsertsOnly insertion ∧
          ∀ entry ∈ insertion, ∀ sent ∈ Document.operations operators, sent.field ≠ entry.1 := by
  have stamp := UpdateSet.isStampOf_stamped sorted now
  refine ⟨stamp, fun generator table text written => ?_, fun document compiled => ?_, ?_⟩
  · obtain ⟨assigned, read, assigns, columns⟩ := stamp.assigned written
    have some_ : assigned ≠ [] := by
      rintro rfl
      exact stamp.ne_nil (List.map_eq_nil_iff.mp columns.symm)
    refine ⟨assigned, read, some_, assigns, columns, ?_⟩
    rw [columns]
    exact ⟨stamp.nodup, fun name fixed member => stamp.not_fixed member fixed,
      List.count_eq_one_of_mem stamp.nodup stamp.updatedName_mem⟩
  · have delivers := stamp.delivered compiled
    have names := delivers.fields_perm
    rw [stamp.documentNames] at names
    exact ⟨delivers, names.nodup_iff.mpr stamp.nodup, delivers.length_operations⟩
  · intro query id plan planned
    unfold UpsertPlan.of at planned
    split at planned
    · cases planned
    · cases planned
      exact ⟨rfl, rfl, rfl, rfl, fun document done =>
        UpsertPlan.toDocument_delivers stamp ordered done⟩

/-- An update with an operation on the creation stamp. -/
def scoring : UpdateSet :=
  [("created_at", .set .null), ("score", .increment (.signed 5)), ("tags", .push (.text "won"))]

/-- Fields for an insertion, one of which an operation is on. -/
def scoringDefaults : Fields Value :=
  [("level", .number (.signed 1)), ("score", .number (.signed 0))]

theorem operations_arrive_once_scoring :
    Fields.Sorted scoring ∧ Fields.Sorted scoringDefaults ∧
    (∃ text assigned,
      (Generator.empty.run (.setClause (scoring.stamped .fine)
        ⟨"players", by decide⟩)).2 = .ok text ∧
      assignments? text.toList = some assigned ∧
      assigned.map Prod.fst = ["score", "tags", "updated_at"]) ∧
    (∃ document, (scoring.stamped .fine).toDocument = .ok document ∧
      document.operations.length = 3) ∧
    ∃ plan document, UpsertPlan.of .empty scoring scoringDefaults "a"
        .fine = .ok plan ∧
      plan.toDocument = .ok document ∧
      ∃ operators insertion, document = operators ++ [("$setOnInsert", .document insertion)] ∧
        Document.Delivers operators plan.update ∧ plan.InsertsOnly insertion := by
  have sorted : Fields.Sorted scoring := by decide
  have ordered : Fields.Sorted scoringDefaults := by decide
  obtain ⟨-, assigned, delivered, upserted⟩ :=
    operations_arrive_once sorted ordered .fine
  refine ⟨sorted, ordered, ?_, ⟨_, rfl, (delivered _ rfl).2.2⟩, ?_⟩
  · obtain ⟨list, read, -, -, columns, -⟩ := assigned .empty ⟨"players", by decide⟩ _ rfl
    exact ⟨_, list, rfl, read, columns⟩
  · obtain ⟨-, -, -, -, documents⟩ := upserted .empty "a" _ rfl
    obtain ⟨operators, insertion, parts, delivers, inserts, -⟩ := documents _ rfl
    exact ⟨_, _, rfl, rfl, operators, insertion, parts, delivers, inserts⟩

end TwinStore
