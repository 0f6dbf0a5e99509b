/-
**Fields that the store keeps for itself.** Which keys of an update document and of an insertion
reach into the id or the stamps, and what follows for the record that is read back.

* `Intrudes`: a path whose first name is kept for the store. `Spares`: the key reaches into no such
  field, unless it is the stamp of the last change as a whole.
* `mem_stamped_iff`: the names of a stamped update are the stamp and the names of the update that
  are not fixed as a whole. So the keys that do not spare are the paths of the update that intrude.
* `Record.id_of_document` and `Record.createdAt_of_document`: the parts of the record are read from
  the entries of these names.
* `intrusions_iff` joins them; `not_updates_spare` is an update that does intrude, and the id that
  is read back after it.
-/

import TwinStore.Proofs.Path
import TwinStore.Proofs.Plan.Precedence

namespace TwinStore

/-! ### Names that reach into a field -/

/-- The name is a path into a field that the store keeps for itself. -/
def Intrudes (name : String) : Prop := isDotted name = true ∧ isReserved (fieldHead name) = true

/-- The key reaches into no field that the store keeps for itself, unless it is the stamp of the
last change as a whole. -/
def Spares (key : String) : Prop := isReserved (fieldHead key) = true → key = updatedName

instance : DecidablePred Intrudes := fun _ => inferInstanceAs (Decidable (_ ∧ _))

instance : DecidablePred Spares := fun _ => inferInstanceAs (Decidable (_ → _))

/-- A name without dots is its own head. -/
theorem fieldHead_of_plain {name : String} (plain : isDotted name = false) :
    fieldHead name = name := by
  rw [fieldHead, fieldSegments_of_plain plain]
  rfl

/-- No path is kept for the store as a whole. -/
theorem isReserved_of_dotted {name : String} (dotted : isDotted name = true) :
    isReserved name = false := by
  rw [← Bool.not_eq_true, isReserved, List.contains_iff_mem]
  intro member
  have plain : ∀ reserved ∈ reservedNames, isDotted reserved = false := by decide
  rw [plain name member] at dotted
  cases dotted

/-- A name that is not kept for the store reaches into such a field only as a path. -/
theorem intrudes_iff {name : String} (plain : isReserved name = false) :
    Intrudes name ↔ isReserved (fieldHead name) = true := by
  rw [Intrudes, and_iff_right_iff_imp]
  intro reserved
  by_contra undotted
  rw [fieldHead_of_plain (Bool.eq_false_iff.mpr undotted), plain] at reserved
  cases reserved

/-! ### Keys of an update -/

namespace UpdateSet

/-- The names of a stamped update. -/
theorem mem_stamped_iff {update : UpdateSet} {now : Instant} {name : String} :
    name ∈ (update.stamped now).map Prod.fst ↔
      name = updatedName ∨ (name ∉ fixedNames ∧ name ∈ update.map Prod.fst) := by
  rw [← not_iff_not, ← Fields.get?_eq_none, get?_stamped, not_or, not_and, ← Fields.get?_eq_none]
  by_cases last : name = updatedName
  · simp [last]
  · by_cases fixed : name ∈ fixedNames
    · simp [last, fixed]
    · simp [last, fixed]

/-- **The keys of a stamped update that do not spare are the paths of the update that intrude.** -/
theorem intrusion_iff {update : UpdateSet} {now : Instant} {name : String} :
    (name ∈ (update.stamped now).map Prod.fst ∧ ¬Spares name) ↔
      name ∈ update.map Prod.fst ∧ Intrudes name := by
  rw [mem_stamped_iff, Spares, Classical.not_imp]
  constructor
  · rintro ⟨last | ⟨unfixed, member⟩, reserved, other⟩
    · exact absurd last other
    · have plain : isReserved name = false := by
        rw [Record.isReserved_eq_false]
        simp only [fixedNames, List.mem_cons, List.not_mem_nil, or_false, not_or] at unfixed
        exact ⟨unfixed.1, unfixed.2.1, unfixed.2.2, other⟩
      exact ⟨member, (intrudes_iff plain).mpr reserved⟩
  · rintro ⟨member, dotted, reserved⟩
    obtain ⟨notId, notDocumentId, notCreated, notUpdated⟩ :=
      Record.isReserved_eq_false.mp (isReserved_of_dotted dotted)
    refine ⟨.inr ⟨?_, member⟩, reserved, notUpdated⟩
    simp [fixedNames, notId, notDocumentId, notCreated]

end UpdateSet

/-- The keys of the operations that a document delivers are the names of the stamped update. -/
theorem Document.Delivers.mem_keys_iff {document : Document} {stamped update : UpdateSet}
    {now : Instant} (delivers : document.Delivers stamped) (stamp : stamped.IsStampOf update now)
    {name : String} :
    name ∈ document.operations.map SentOperation.field ↔ name ∈ stamped.map Prod.fst := by
  rw [delivers.fields_perm.mem_iff, stamp.documentNames]

/-! ### What is read back -/

theorem Document.get?_eq_get? (document : Document) (name : String) :
    document.get? name = Fields.get? document name := by
  induction document with
  | nil => rfl
  | cons entry rest step => rw [Document.get?, Fields.get?, step]

/-- The values of a document stand under the names of its entries. -/
theorem Value.get?_entriesOfBson : ∀ {document : List (String × Bson)}
    {entries : List (String × Value)}, entriesOfBson document = .ok entries → ∀ name,
      Fields.get? entries name = (Document.get? document name).bind fun stored =>
        (ofBson stored).toOption
  | [], _, read, _ => by
    cases read
    rfl
  | (key, stored) :: rest, _, read, name => by
    obtain ⟨value, first, more⟩ := Result.bind_eq_ok.mp read
    obtain ⟨others, later, made⟩ := Result.bind_eq_ok.mp more
    cases made
    rw [Fields.get?, Document.get?, get?_entriesOfBson later name]
    split
    · rw [Option.bind_some, first]
      rfl
    · rfl

theorem Value.names_entriesOfBson : ∀ {document : List (String × Bson)}
    {entries : List (String × Value)}, entriesOfBson document = .ok entries →
      entries.map Prod.fst = document.map Prod.fst
  | [], _, read => by
    cases read
    rfl
  | (key, stored) :: rest, _, read => by
    obtain ⟨value, first, more⟩ := Result.bind_eq_ok.mp read
    obtain ⟨others, later, made⟩ := Result.bind_eq_ok.mp more
    cases made
    rw [List.map_cons, List.map_cons, names_entriesOfBson later]

namespace Record

/-- A part of a record that only entries of one name set is read from the entry of that name. -/
theorem foldl_addEntry_part {α : Type} (part : Record → α) {key : String} {read : Value → α}
    {nulls : NullPolicy} {entries : List (String × Value)}
    (distinct : (entries.map Prod.fst).Nodup)
    (sets : ∀ record, ∀ entry ∈ entries, part (addEntry nulls record entry.1 entry.2) =
      if entry.1 = key then read entry.2 else part record) (record : Record) :
    part (entries.foldl (fun record entry => addEntry nulls record entry.1 entry.2) record) =
      ((Fields.get? entries key).map read).getD (part record) := by
  induction entries generalizing record with
  | nil => rfl
  | cons entry rest step =>
    obtain ⟨apart, later⟩ := List.nodup_cons.mp distinct
    rw [List.foldl_cons, step later fun record other member =>
      sets record other (List.mem_cons_of_mem _ member), sets record entry List.mem_cons_self,
      Fields.get?]
    by_cases here : entry.1 = key
    · rw [if_pos here, if_pos here, Fields.get?_eq_none.mpr (here ▸ apart)]
      rfl
    · rw [if_neg here, if_neg here]

variable {className : String} {document : Document} {record : Record}

/-- What a document has under a name, as a value. -/
def entryOf (document : Document) (name : String) : Option Value :=
  (document.get? name).bind fun stored => (Value.ofBson stored).toOption

/-- The entries that a record is made from are those of its document. -/
theorem exists_entries (read : ofDocument className document = .ok record) :
    ∃ entries, record = materialize className .keep entries ∧
      entries.map Prod.fst = document.map Prod.fst ∧
      ∀ name, Fields.get? entries name = entryOf document name := by
  obtain ⟨entries, decoded, made⟩ := Result.bind_eq_ok.mp read
  cases made
  have values := Result.mapError_eq_ok.mp (Result.mapError_eq_ok.mp decoded)
  exact ⟨entries, rfl, Value.names_entriesOfBson values, Value.get?_entriesOfBson values⟩

/-- **The id of a record is read from the id of the document**, if no other entry is called so. -/
theorem id_of_document (read : ofDocument className document = .ok record)
    (distinct : (document.map Prod.fst).Nodup) (unaliased : idName ∉ document.map Prod.fst) :
    record.id = (entryOf document documentIdName).bind idText? := by
  obtain ⟨entries, rfl, names, values⟩ := exists_entries read
  rw [← names] at distinct unaliased
  rw [materialize, foldl_addEntry_part Record.id distinct, values]
  · cases entryOf document documentIdName <;> rfl
  · intro record entry member
    have other : entry.1 ≠ idName := fun same => unaliased (same ▸ List.mem_map_of_mem member)
    simp only [addEntry_id, other, false_or]

/-- **The creation stamp of a record is read from that of the document.** -/
theorem createdAt_of_document (read : ofDocument className document = .ok record)
    (distinct : (document.map Prod.fst).Nodup) :
    record.createdAt = (entryOf document createdName).bind Value.instant? := by
  obtain ⟨entries, rfl, names, values⟩ := exists_entries read
  rw [← names] at distinct
  rw [materialize, foldl_addEntry_part Record.createdAt distinct, values]
  · cases entryOf document createdName <;> rfl
  · exact fun record entry _ => addEntry_createdAt ..

end Record

/-- The second document is what an update with the given keys may make of the first: it differs
under the heads of the keys at most. The first one has its id under the name that documents have for
it, and no name occurs twice. -/
structure Document.UpdatedAt (keys : List String) (before after : Document) : Prop where
  distinctBefore : (before.map Prod.fst).Nodup
  distinctAfter : (after.map Prod.fst).Nodup
  unaliased : idName ∉ before.map Prod.fst
  kept : ∀ name, name ∉ keys.map fieldHead → after.get? name = before.get? name

/-- **An update whose keys all spare leaves the id and the creation of the record as they are.** -/
theorem Document.UpdatedAt.identity_kept {keys : List String} {before after : Document}
    (updated : UpdatedAt keys before after) (spared : ∀ key ∈ keys, Spares key)
    {className : String} {old new : Record} (was : Record.ofDocument className before = .ok old)
    (is : Record.ofDocument className after = .ok new) :
    new.id = old.id ∧ new.createdAt = old.createdAt := by
  have kept : ∀ name ∈ UpdateSet.fixedNames, after.get? name = before.get? name := by
    intro name fixed
    refine updated.kept name fun member => ?_
    obtain ⟨key, inside, rfl⟩ := List.mem_map.mp member
    have reserved : ∀ name ∈ UpdateSet.fixedNames, isReserved name = true := by decide
    rw [spared key inside (reserved _ fixed)] at fixed
    revert fixed
    decide
  have unaliased : idName ∉ after.map Prod.fst := by
    rw [← Fields.get?_eq_none, ← Document.get?_eq_get?, kept idName (by decide),
      Document.get?_eq_get?, Fields.get?_eq_none]
    exact updated.unaliased
  constructor
  · rw [Record.id_of_document is updated.distinctAfter unaliased,
      Record.id_of_document was updated.distinctBefore updated.unaliased, Record.entryOf,
      kept documentIdName (by decide), Record.entryOf]
  · rw [Record.createdAt_of_document is updated.distinctAfter,
      Record.createdAt_of_document was updated.distinctBefore, Record.entryOf,
      kept createdName (by decide), Record.entryOf]

/-! ### Updates and insertions -/

/-- The keys of a stamped update that do not spare. -/
theorem UpdateSet.intrusions_of_delivers {update : UpdateSet} {now : Instant}
    (sorted : Fields.Sorted update) {document : Document}
    (delivers : document.Delivers (update.stamped now)) (name : String) :
    (name ∈ document.operations.map SentOperation.field ∧ ¬Spares name) ↔
      name ∈ update.map Prod.fst ∧ Intrudes name := by
  rw [delivers.mem_keys_iff (isStampOf_stamped sorted now), intrusion_iff]

/-- The insert-only fields that do not spare are the paths that intrude and have no operation. -/
theorem UpsertPlan.intrusions {plan : UpsertPlan} {update : UpdateSet} {now : Instant}
    (stamped : plan.update = update.stamped now) (name : String) :
    (name ∈ plan.insertOnlyFields.map Prod.fst ∧ ¬Spares name) ↔
      name ∈ plan.setOnInsert.map Prod.fst ∧ update.get? name = none ∧ Intrudes name := by
  rw [Spares, Classical.not_imp]
  constructor
  · rintro ⟨member, reserved, -⟩
    obtain ⟨entry, inside, rfl⟩ := List.mem_map.mp member
    obtain ⟨known, untouched, plain⟩ := mem_insertOnlyFields.mp inside
    rw [stamped, update.get?_stamped_of_plain now plain] at untouched
    exact ⟨List.mem_map_of_mem known, untouched, (intrudes_iff plain).mpr reserved⟩
  · rintro ⟨member, untouched, dotted, reserved⟩
    obtain ⟨entry, known, rfl⟩ := List.mem_map.mp member
    have plain := isReserved_of_dotted dotted
    rw [← update.get?_stamped_of_plain now plain, ← stamped] at untouched
    have kept := mem_insertOnlyFields.mpr ⟨known, untouched, plain⟩
    exact ⟨List.mem_map_of_mem kept, reserved, (Record.isReserved_eq_false.mp plain).2.2.2⟩

/-- **Which updates reach into the fields that the store keeps for itself.** No key is the id or the
creation stamp as a whole. The keys that reach into such a field, or into the stamp of the last
change, are the paths of the update that do, and so for an insertion. An update without such paths
leaves the id and the creation of the record as they are. -/
theorem intrusions_iff {update : UpdateSet} {setOnInsert : Fields Value}
    (sorted : Fields.Sorted update) (ordered : Fields.Sorted setOnInsert) (now : Instant) :
    (∀ document, (update.stamped now).toDocument = .ok document →
      (∀ name ∈ document.operations.map SentOperation.field, name ∉ UpdateSet.fixedNames) ∧
      (∀ name, (name ∈ document.operations.map SentOperation.field ∧ ¬Spares name) ↔
        name ∈ update.map Prod.fst ∧ Intrudes name) ∧
      ((∀ name ∈ update.map Prod.fst, ¬Intrudes name) →
        ∀ before after className old new,
          Document.UpdatedAt (document.operations.map SentOperation.field) before after →
          Record.ofDocument className before = .ok old →
          Record.ofDocument className after = .ok new →
          new.id = old.id ∧ new.createdAt = old.createdAt)) ∧
    ∀ query id plan, UpsertPlan.of query update setOnInsert id now = .ok plan →
      ∀ document, plan.toDocument = .ok document →
        ∃ operators extra, document = operators ++
            [("$setOnInsert", .document ((documentIdName, .text plan.insert.id) ::
              (createdName, instantBson plan.insert.now) :: extra))] ∧
          (∀ name, (name ∈ (Document.operations operators).map SentOperation.field ∧
            ¬Spares name) ↔ name ∈ update.map Prod.fst ∧ Intrudes name) ∧
          ∀ name, (name ∈ extra.map Prod.fst ∧ ¬Spares name) ↔
            name ∈ setOnInsert.map Prod.fst ∧ update.get? name = none ∧ Intrudes name := by
  have stamp := UpdateSet.isStampOf_stamped sorted now
  refine ⟨fun document compiled => ?_, fun query id plan planned document done => ?_⟩
  · have delivers := stamp.delivered compiled
    have intrusions := UpdateSet.intrusions_of_delivers sorted delivers
    refine ⟨fun name member => ?_, intrusions, ?_⟩
    · exact stamp.not_fixed ((delivers.mem_keys_iff stamp).mp member)
    · intro spared before after className old new updated was is
      refine updated.identity_kept (fun key member => ?_) was is
      by_contra intruding
      obtain ⟨known, intrudes⟩ := (intrusions key).mp ⟨member, intruding⟩
      exact spared key known intrudes
  · obtain ⟨stamped, rfl, -⟩ := UpsertPlan.parts_of_planned planned
    obtain ⟨operators, insertion, parts, delivers, inserts, -⟩ :=
      UpsertPlan.toDocument_delivers (stamped ▸ stamp) ordered done
    obtain ⟨extra, stores, rfl⟩ := inserts.entries
    rw [stamped] at delivers
    refine ⟨operators, extra, parts, UpdateSet.intrusions_of_delivers sorted delivers, ?_⟩
    rw [UpsertPlan.names_of_stores stores]
    exact UpsertPlan.intrusions stamped

/-- An update with an operation on the creation stamp, which is dropped, and one on a path into a
field of the user. -/
def addressing : UpdateSet :=
  [("address.city", .set (.text "Oslo")), ("created_at", .set .null)]

/-- Insert-only fields, one of them a path into the id. -/
def intruding : Fields Value := [("id.x", .text "y"), ("level", .ofSigned 1)]

theorem intrusions_iff_addressing :
    Fields.Sorted addressing ∧ Fields.Sorted intruding ∧
      (∃ document, (addressing.stamped .fine).toDocument = .ok document ∧
        ∀ name ∈ document.operations.map SentOperation.field, Spares name) ∧
      ∃ plan document, UpsertPlan.of .empty addressing intruding "a"
          .fine = .ok plan ∧ plan.toDocument = .ok document ∧
        ∃ operators extra, document = operators ++
            [("$setOnInsert", .document ((documentIdName, .text plan.insert.id) ::
              (createdName, instantBson plan.insert.now) :: extra))] ∧
          "id.x" ∈ extra.map Prod.fst ∧ ¬Spares "id.x" := by
  have sorted : Fields.Sorted addressing := by decide
  have ordered : Fields.Sorted intruding := by decide
  obtain ⟨updated, upserted⟩ := intrusions_iff sorted ordered .fine
  refine ⟨sorted, ordered, ⟨_, rfl, fun name member => ?_⟩, ?_⟩
  · obtain ⟨-, intrusions, -⟩ := updated _ rfl
    by_contra intrudes
    obtain ⟨known, path⟩ := (intrusions name).mp ⟨member, intrudes⟩
    revert name
    decide
  · obtain ⟨operators, extra, parts, -, intrusions⟩ := upserted .empty "a" _ rfl _ rfl
    have path := (intrusions "id.x").mpr (by decide)
    exact ⟨_, _, rfl, rfl, operators, extra, parts, path⟩

/-- An update of a path into the id. -/
def identifying : UpdateSet := [("id.x", .set (.text "y"))]

/-- **An update that reaches into the id**: its document sets a path into it, and the document that
results is read back as a record of another id. -/
theorem not_updates_spare :
    Fields.Sorted identifying ∧ ∃ document before after old new,
      (identifying.stamped .fine).toDocument = .ok document ∧
      ¬(∀ name ∈ document.operations.map SentOperation.field, Spares name) ∧
      Document.UpdatedAt (document.operations.map SentOperation.field) before after ∧
      Record.ofDocument "Person" before = .ok old ∧ Record.ofDocument "Person" after = .ok new ∧
      old.id = some "a" ∧ new.id = some "\x7b\"x\":\"y\"\x7d" := by
  refine ⟨by decide, _, [("_id", .text "a")],
    [("_id", .text "a"), ("id", .document [("x", .text "y")])], _, _, rfl, ?_, ?_, rfl, rfl, rfl,
    ?_⟩
  · decide
  · refine ⟨by decide, by decide, by decide, fun name absent => ?_⟩
    have other : "id" ≠ name := by
      rintro rfl
      exact absent (by decide)
    simp [Document.get?, other]
  · decide

end TwinStore
