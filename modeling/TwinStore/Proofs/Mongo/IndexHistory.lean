/-
**Indexes of collections.** Every collection of a MongoDB database has names of its own for its
indexes.

* `Catalogue`: the collections with their indexes by name. `Keeper.server` keeps a catalogue, and
  may refuse any command.
* `leads_operation`: what one operation makes of an index, and `leads_history` the same of a
  history: operations on other collections make nothing of it.
* `leads_ensureTable_index`: a table that is ensured has its indexes as they are described.
* `confined`: both together, for any server that keeps a catalogue.
-/

import TwinStore.Proofs.Fields
import TwinStore.Proofs.Mongo.Definition
import TwinStore.Proofs.Store.IndexHistory

namespace TwinStore.Mongo

variable {σ : Type} {channel : Channel}

/-! ### Catalogues -/

/-- The collections of a database with their indexes by name. The index of a collection's key is
not listed. -/
abbrev Catalogue := Fields (Fields IndexModel)

/-- The index of a name that a collection has. -/
def Catalogue.index? (catalogue : Catalogue) (className name : String) : Option IndexModel :=
  (catalogue.get? className).bind (Fields.get? · name)

/-- The same names in the same directions. -/
def sameKeys : Document → Document → Bool
  | [], [] => true
  | (name, .int32 direction) :: rest, (other, .int32 second) :: others =>
    name = other && direction = second && sameKeys rest others
  | _, _ => false

/-- The same index, keys and all. -/
def sameIndex (one two : IndexModel) : Bool :=
  sameKeys one.keys two.keys && one.name = two.name && one.unique = two.unique

theorem eq_of_sameKeys {one two : Document} (same : sameKeys one two = true) : one = two := by
  fun_induction sameKeys one two with
  | case1 => rfl
  | case2 name direction rest other second others step =>
    simp only [Bool.and_eq_true, decide_eq_true_eq] at same
    obtain ⟨⟨rfl, rfl⟩, more⟩ := same
    rw [step more]
  | case3 => cases same

theorem eq_of_sameIndex {one two : IndexModel} (same : sameIndex one two = true) : one = two := by
  obtain ⟨keys, name, unique⟩ := one
  simp only [sameIndex, Bool.and_eq_true, decide_eq_true_eq] at same
  obtain ⟨⟨alike, rfl⟩, rfl⟩ := same
  rw [eq_of_sameKeys alike]

/-- What a server decides on its own: the commands that it refuses. -/
structure Keeper where
  refuses : Command → Catalogue → Option ServerFault

namespace Keeper

/-- What a command makes of a catalogue. It is refused with the code for a collection that exists,
an index of another description, a collection or an index that does not exist. -/
def made (catalogue : Catalogue) : Command → Except ServerFault Catalogue
  | .create className =>
    if catalogue.contains className then .error (.refused "48")
    else .ok (catalogue.insert className [])
  | .createIndex className index =>
    match catalogue.index? className index.name with
    | some known => if sameIndex known index then .ok catalogue else .error (.refused "86")
    | none => .ok (catalogue.insert className
        (Fields.insert ((catalogue.get? className).getD []) index.name index))
  | .drop className =>
    if catalogue.contains className then .ok (catalogue.erase className)
    else .error missingCollection
  | .dropIndex className name =>
    match catalogue.get? className with
    | none => .error missingCollection
    | some known =>
      if known.contains name then .ok (catalogue.insert className (known.erase name))
      else .error (.refused "27")
  | _ => .ok catalogue

/-- What is said of a catalogue in reply to a command. -/
def replied (catalogue : Catalogue) : Command → Reply
  | .listCollections => { Reply.empty with
      documents := catalogue.map fun collection => [("name", .text collection.1)] }
  | _ => .empty

/-- What a server answers, and the catalogue behind the answer. -/
def answer (keeper : Keeper) (command : Command) (catalogue : Catalogue) : Reply × Catalogue :=
  match keeper.refuses command catalogue, made catalogue command with
  | some fault, _ | none, .error fault => ({ Reply.empty with fault := some fault }, catalogue)
  | none, .ok after => (replied after command, after)

/-- A server that keeps a catalogue. -/
def server (keeper : Keeper) : Server Catalogue :=
  ⟨fun _ command => modifyGet (keeper.answer command)⟩

end Keeper

theorem index?_insert (catalogue : Catalogue) (collection : String) (indexes : Fields IndexModel)
    (className name : String) :
    Catalogue.index? (catalogue.insert collection indexes) className name =
      if collection = className then indexes.get? name else catalogue.index? className name := by
  rw [Catalogue.index?, Fields.get?_insert]
  split <;> rfl

/-- The indexes of a collection, none if it does not exist. -/
theorem get?_getD (catalogue : Catalogue) (className name : String) :
    Fields.get? ((catalogue.get? className).getD []) name = catalogue.index? className name := by
  rw [Catalogue.index?]
  cases catalogue.get? className <;> rfl

/-! ### What is answered -/

/-- What is sent is answered, whatever the channel. -/
theorem answered_of_send {server : Server σ} {command : Command} {answer : σ → Reply × σ}
    (same : ∀ channel state, Id.run ((server.answer channel command).run state) = answer state)
    {session after : Session σ} {reply : Reply}
    (sent : (send server channel command).outcome session = (.ok reply, after)) :
    answer session.server = (reply, after.server) := by
  cases channel with
  | none =>
    rw [← same none]
    cases sent
    rfl
  | some number =>
    change (exclusively number (sendInside server number command)).outcome session = _ at sent
    cases busy : (session.transaction number).busy with
    | true =>
      rw [outcome_exclusively_busy _ busy] at sent
      cases sent
    | false =>
      rw [outcome_exclusively_free _ busy] at sent
      unfold sendInside at sent
      rw [Action.outcome_get_bind] at sent
      split at sent
      · rw [← same none]
        cases sent
        rfl
      · rw [← same (some number)]
        cases sent
        rfl

/-- Relates the catalogues of two sessions. -/
def OnCatalogues (related : Catalogue → Catalogue → Prop) (session after : Session Catalogue) :
    Prop := related session.server after.server

section Commands

variable {keeper : Keeper} {related : Catalogue → Catalogue → Prop}

theorem leads_fetchAll {command : Command}
    (ran : ∀ catalogue after, Keeper.made catalogue command = .ok after → related catalogue after) :
    (fetchAll keeper.server channel command).Leads (OnCatalogues related) := by
  intro session value after succeeded
  unfold fetchAll at succeeded
  rw [Action.outcome_bind] at succeeded
  rcases sent : (send keeper.server channel command).outcome session with ⟨error | reply, middle⟩
  · rw [sent] at succeeded
    cases succeeded
  · have answered : keeper.answer command session.server = (reply, middle.server) :=
      answered_of_send (fun _ _ => rfl) sent
    rw [sent] at succeeded
    have behind : middle = after := congrArg Prod.snd succeeded
    rw [Keeper.answer] at answered
    split at answered
    · obtain ⟨rfl, -⟩ := Prod.mk.inj answered
      cases succeeded
    · obtain ⟨rfl, -⟩ := Prod.mk.inj answered
      cases succeeded
    · next changed _ made =>
      subst behind
      exact ran _ _ (made.trans (congrArg Except.ok (Prod.mk.inj answered).2))

theorem leads_execute {command : Command}
    (ran : ∀ catalogue after, Keeper.made catalogue command = .ok after → related catalogue after) :
    (execute keeper.server channel command).Leads (OnCatalogues related) := by
  refine ((leads_fetchAll ran).bind fun _ => .ofResult (.ok ())).mono ?_
  rintro session after ⟨middle, came, rfl⟩
  exact came

end Commands

/-! ### Histories -/

/-- An index as it is described to a collection. -/
def indexModel (_ : String) (index : TableIndex) : IndexModel :=
  ⟨sortDocument index.columns, index.name, index.isUnique⟩

theorem eq_of_toModel {index : TableIndex} {model : IndexModel}
    (described : index.toModel = .ok model) (className : String) :
    model = indexModel className index := by
  unfold TableIndex.toModel at described
  split at described
  · cases described
  · exact (Except.ok.inj described).symm

/-- An index is added where there is none of its name, and where there is the same. -/
theorem index?_of_createIndex {catalogue after : Catalogue} {collection : String}
    {model : IndexModel}
    (made : Keeper.made catalogue (.createIndex collection model) = .ok after) :
    after.index? collection model.name = some model ∧
      (catalogue.index? collection model.name = none ∨
        catalogue.index? collection model.name = some model) ∧
      ∀ className name, ¬(collection = className ∧ model.name = name) →
        after.index? className name = catalogue.index? className name := by
  rw [Keeper.made] at made
  split at made
  · next known there =>
    split at made
    · next same =>
      cases made
      rw [there, eq_of_sameIndex same]
      exact ⟨rfl, .inr rfl, fun _ _ _ => rfl⟩
    · cases made
  · next new =>
    cases made
    refine ⟨?_, .inl new, fun className name others => ?_⟩
    · rw [index?_insert, if_pos rfl, Fields.get?_insert, if_pos rfl]
    · rw [index?_insert]
      split
      · next same =>
        subst same
        rw [Fields.get?_insert, if_neg fun named => others ⟨rfl, named⟩, get?_getD]
      · rfl

theorem index?_of_dropIndex {catalogue after : Catalogue} {collection dropped : String}
    (made : Keeper.made catalogue (.dropIndex collection dropped) = .ok after) :
    ∀ className name, after.index? className name =
      if collection = className ∧ dropped = name then none
      else catalogue.index? className name := by
  intro className name
  rw [Keeper.made] at made
  split at made
  · cases made
  · next known there =>
    split at made
    · cases made
      rw [index?_insert, Fields.get?_erase]
      by_cases here : collection = className
      · subst here
        rw [if_pos rfl, Catalogue.index?, there]
        simp
      · rw [if_neg here, if_neg fun both => here both.1]
    · cases made

section Operations

variable {keeper : Keeper}

theorem leads_addIndex {related : Catalogue → Catalogue → Prop} {className : String}
    {index : TableIndex} (ran : ∀ catalogue after,
      Keeper.made catalogue (.createIndex className (indexModel className index)) = .ok after →
        related catalogue after) :
    (addIndex keeper.server channel className index).Leads (OnCatalogues related) := by
  unfold addIndex
  cases described : index.toModel with
  | error error => nofun
  | ok model =>
    rw [Action.ofResult_bind_ok, eq_of_toModel described className]
    exact leads_execute ran

/-- **What one operation makes of an index.** -/
theorem leads_operation (className name other : String) (operation : IndexOperation) :
    (operation.perform (backend keeper.server) channel other).Leads
      (OnCatalogues fun catalogue after => after.index? className name =
        if decide (other = className ∧ operation.name = name) then
          operation.on (indexModel other) (catalogue.index? className name)
        else catalogue.index? className name) := by
  cases operation with
  | add index =>
    refine leads_addIndex fun catalogue after made => ?_
    obtain ⟨there, before, others⟩ := index?_of_createIndex made
    simp only [decide_eq_true_eq]
    split
    · next both =>
      obtain ⟨rfl, rfl⟩ := both
      refine there.trans ?_
      obtain new | known := before
      · exact congrArg (Option.or · _) new.symm
      · exact congrArg (Option.or · _) known.symm
    · next different => exact others className name different
  | drop dropped =>
    refine leads_execute fun catalogue after made => ?_
    simp only [decide_eq_true_eq]
    exact index?_of_dropIndex made className name

/-- **What a history makes of an index**: what the operations on its collection make of it. -/
theorem leads_history (className name : String) (history : IndexHistory) :
    (history.perform (backend keeper.server) channel).Leads
      (OnCatalogues fun catalogue after => after.index? className name =
        history.own indexModel className name (catalogue.index? className name)) := by
  have each (other : String) (operation : IndexOperation) :
      (operation.perform (backend keeper.server) channel other).Leads fun session after =>
        True → True ∧ after.server.index? className name =
          if decide (other = className ∧ operation.name = name) then
            operation.on (indexModel other) (session.server.index? className name)
          else session.server.index? className name :=
    (leads_operation className name other operation).mono fun _ _ came _ => ⟨trivial, came⟩
  exact (leads_perform each history).mono fun _ _ came => (came trivial).2

end Operations

/-! ### Tables that are ensured -/

section Tables

variable {keeper : Keeper}

/-- No index is changed. -/
def Unchanged (catalogue after : Catalogue) : Prop :=
  ∀ className name, after.index? className name = catalogue.index? className name

theorem leads_tables : (tables keeper.server channel).Leads (OnCatalogues Unchanged) := by
  have listed : (fetchAll keeper.server channel .listCollections).Leads
      (OnCatalogues Unchanged) := by
    refine leads_fetchAll fun catalogue after made => ?_
    cases made
    exact fun _ _ => rfl
  refine (listed.bind fun _ => .ofResult _).mono ?_
  rintro session after ⟨middle, same, rfl⟩
  exact same

theorem leads_create (className : String) :
    (execute keeper.server channel (.create className)).Leads (OnCatalogues Unchanged) := by
  refine leads_execute fun catalogue after made other name => ?_
  rw [Keeper.made, Fields.contains] at made
  split at made
  · cases made
  · next new =>
    cases made
    rw [index?_insert, Catalogue.index?]
    split
    · next same =>
      subst same
      rw [Option.not_isSome_iff_eq_none.mp new]
      rfl
    · rfl

/-- What the indexes of a table come to, added one after the other. -/
structure Described (table : String) (indexes : List TableIndex) (catalogue after : Catalogue) :
    Prop where
  there : ∀ index ∈ indexes, after.index? table index.name = some (indexModel table index)
  stays : ∀ className name model, catalogue.index? className name = some model →
    after.index? className name = some model
  others : ∀ className name, className ≠ table →
    after.index? className name = catalogue.index? className name

theorem leads_indexes (table : String) (indexes : List TableIndex) :
    (indexes.forM (addIndex keeper.server channel table)).Leads
      (OnCatalogues (Described table indexes)) := by
  induction indexes with
  | nil =>
    intro session value after succeeded
    cases succeeded
    exact ⟨nofun, fun _ _ _ there => there, fun _ _ _ => rfl⟩
  | cons index rest step =>
    have first : (addIndex keeper.server channel table index).Leads
        (OnCatalogues (Described table [index])) := by
      refine leads_addIndex fun catalogue after made => ?_
      obtain ⟨there, before, others⟩ := index?_of_createIndex made
      refine ⟨List.forall_mem_singleton.mpr there, fun className name model known => ?_,
        fun className name different => others className name fun both => different both.1.symm⟩
      by_cases same : table = className ∧ index.name = name
      · obtain ⟨rfl, rfl⟩ := same
        obtain new | old := before
        · cases known.symm.trans new
        · exact there.trans (old.symm.trans known)
      · exact (others className name same).trans known
    refine (first.bind fun _ => step).mono ?_
    rintro session after ⟨middle, early, late⟩
    have here := early.there index (List.mem_singleton.mpr rfl)
    exact ⟨List.forall_mem_cons.mpr ⟨late.stays _ _ _ here, late.there⟩,
      fun className name model known => late.stays _ _ _ (early.stays _ _ _ known),
      fun className name different =>
        (late.others className name different).trans (early.others className name different)⟩

theorem Unchanged.trans {one two three : Catalogue} (first : Unchanged one two)
    (second : Unchanged two three) : Unchanged one three :=
  fun className name => (second className name).trans (first className name)

theorem leads_createTable (table : Table) :
    (createTable keeper.server channel table).Leads fun session after => ∃ middle,
      OnCatalogues Unchanged session middle ∧
        OnCatalogues (Described table.name table.indexes) middle after := by
  have indexed : (table.indexes.forM (addIndex keeper.server channel table.name)).Leads
      (OnCatalogues (Described table.name table.indexes)) := leads_indexes _ _
  have made (existing : List String) : (if !existing.contains table.name then
      (do
        execute keeper.server channel (.create table.name)
        table.indexes.forM (addIndex keeper.server channel table.name))
      else table.indexes.forM (addIndex keeper.server channel table.name)).Leads
        fun session after => ∃ middle, OnCatalogues Unchanged session middle ∧
          OnCatalogues (Described table.name table.indexes) middle after := by
    split
    · exact (leads_create table.name).bind fun _ => indexed
    · exact indexed.mono fun session after came => ⟨session, fun _ _ => rfl, came⟩
  refine (leads_tables.bind made).mono ?_
  rintro session after ⟨listed, first, middle, second, last⟩
  exact ⟨middle, first.trans second, last⟩

/-- **A table that is ensured has its indexes** as they are described, and no other collection's
index is changed. -/
theorem leads_ensureTable_index {capabilities : Capabilities} (table : Table) :
    (Connection.ensureTable ⟨backend keeper.server, channel, capabilities⟩ table).Leads
      fun world after =>
        (∀ index ∈ table.indexes, after.store.server.index? table.name index.name =
          some (indexModel table.name index)) ∧
        ∀ className name, className ≠ table.name →
          after.store.server.index? className name = world.store.server.index? className name := by
  have indexed : (table.indexHistory.perform (backend keeper.server) channel).Leads
      (OnCatalogues (Described table.name table.indexes)) := by
    rw [perform_indexHistory]
    exact leads_indexes table.name table.indexes
  have added : ((backend keeper.server).addColumns channel table.name table.userColumns).Leads
      (OnCatalogues Unchanged) := by
    intro session value after succeeded
    cases succeeded
    exact fun _ _ => rfl
  refine (leads_ensureTable leads_tables added (leads_createTable table) indexed
    fun first second => first.trans second).mono ?_
  rintro world after ⟨middle, unchanged, described⟩
  exact ⟨described.there, fun className name different =>
    (described.others className name different).trans (unchanged className name)⟩

end Tables

/-- What succeeds is confined to its class, since every collection has index names of its own. -/
structure Confined (keeper : Keeper) (channel : Channel) (capabilities : Capabilities) : Prop where
  /-- A class has of an index what its own operations leave. -/
  histories : ∀ (history : IndexHistory) {session after : Session Catalogue},
    (history.perform (backend keeper.server) channel).outcome session = (.ok (), after) →
      ∀ className name, after.server.index? className name =
        history.own indexModel className name (session.server.index? className name)
  /-- A table that is ensured has its indexes as they are described. -/
  ensured : ∀ (table : Table) {world after : World (Session Catalogue)},
    (Connection.ensureTable ⟨backend keeper.server, channel, capabilities⟩ table).outcome world =
        (.ok (), after) →
      (∀ index ∈ table.indexes, after.store.server.index? table.name index.name =
        some (indexModel table.name index)) ∧
      ∀ className name, className ≠ table.name →
        after.store.server.index? className name = world.store.server.index? className name

theorem confined (keeper : Keeper) (channel : Channel) (capabilities : Capabilities) :
    Confined keeper channel capabilities where
  histories history session after done className name :=
    leads_history className name history session () after done
  ensured table world after done := leads_ensureTable_index table world () after done

end TwinStore.Mongo
