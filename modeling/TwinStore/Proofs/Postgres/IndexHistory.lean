/-
**Indexes of one schema.** All indexes of a PostgreSQL schema share their names, whatever tables
they are of. Adding an index does nothing where its name is taken, and dropping one drops it from
whatever table it is of.

* `Keeper.dropping`: a server that keeps a schema, in which indexes can be dropped, too.
* `leads_operation`: what one operation makes of the index of a name, and `leads_history` the same
  of a history.
* `leads_ensureTable_index`: a table that is ensured has an index of its own under a name unless
  the index of another table has it.
* `confinedIff`: all of it, for any server that keeps a schema.
-/

import TwinStore.Proofs.Postgres.Convergence
import TwinStore.Proofs.Store.IndexHistory

namespace TwinStore.Postgres

variable {σ : Type} {keeper : Keeper} {retains : String → Schema → Option ServerFault}
  {channel : Channel}

/-! ### Dropping -/

/-- The name of the index that a statement drops. -/
def droppedIndex? : List Token → Option String
  | [.keyword .dropIndex, .keyword .space, .name index] => some index.text
  | _ => none

namespace Keeper

/-- What a statement makes of a schema in which indexes can be dropped. An index is dropped unless
the server has to retain it, and one that does not exist is not missed. -/
def runDropping (keeper : Keeper) (retains : String → Schema → Option ServerFault)
    (statement : Statement) (schema : Schema) : Except ServerFault Schema :=
  match droppedIndex? statement.tokens with
  | none => keeper.run statement schema
  | some name =>
    match retains name schema with
    | some fault => .error fault
    | none => .ok { schema with indexes := schema.indexes.erase name }

/-- What a server answers, and the schema behind the answer. -/
def answerDropping (keeper : Keeper) (retains : String → Schema → Option ServerFault)
    (request : Request) (schema : Schema) : Reply × Schema :=
  match request with
  | .run statement =>
    match keeper.runDropping retains statement schema with
    | .ok after => (⟨[], 0, none⟩, after)
    | .error fault => (⟨[], 0, some fault⟩, schema)
  | request => keeper.answer request schema

/-- A server that keeps a schema, in which indexes can be dropped. -/
def dropping (keeper : Keeper) (retains : String → Schema → Option ServerFault) : Server Schema :=
  ⟨fun _ request => modifyGet (keeper.answerDropping retains request)⟩

end Keeper

/-- **The statement that drops an index** can be read. -/
theorem droppedIndex?_dropIndex {name : String} {statement : Statement}
    (compiled : Statement.dropIndex name = .ok statement) :
    droppedIndex? statement.tokens = some name := by
  obtain ⟨identifier, identified, built⟩ := Result.bind_eq_ok.mp compiled
  have written := tokens_of_parts built [[.keyword .dropIndex], [.name identifier]] rfl (by simp)
  rw [written]
  exact congrArg some (Identifier.ofText_eq_ok.mp (liftIdentifier_eq_ok.mp identified))

/-- A statement that drops an index does not create anything. -/
theorem droppedIndex?_of_read {tokens : List Token} {alteration : Alteration}
    (read : Alteration.read? tokens = some alteration) : droppedIndex? tokens = none := by
  unfold droppedIndex?
  split
  · cases read
  · rfl

theorem runDropping_of_read {statement : Statement} {alteration : Alteration} {schema : Schema}
    (read : Alteration.read? statement.tokens = some alteration) :
    keeper.runDropping retains statement schema = keeper.run statement schema := by
  rw [Keeper.runDropping, droppedIndex?_of_read read]

theorem eq_of_runDropping {statement : Statement} {name : String} {schema after : Schema}
    (dropped : droppedIndex? statement.tokens = some name)
    (ran : keeper.runDropping retains statement schema = .ok after) :
    after = { schema with indexes := schema.indexes.erase name } := by
  rw [Keeper.runDropping, dropped] at ran
  simp only at ran
  split at ran
  · cases ran
  · exact (Except.ok.inj ran).symm

/-! ### What is answered -/

/-- What is sent is answered, whatever the channel. -/
theorem answered_of_send {server : Server σ} {request : Request} {answer : σ → Reply × σ}
    (same : ∀ channel state, Id.run ((server.answer channel request).run state) = answer state)
    {session after : Session σ} {reply : Reply}
    (sent : (send server channel request).outcome session = (.ok reply, after)) :
    answer session.server = (reply, after.server) := by
  cases channel with
  | none =>
    rw [← same none]
    cases sent
    rfl
  | some number =>
    rw [← same (some number)]
    change (exclusively number (ask server (some number) request)).outcome session = _ at sent
    cases phase : session.phase number with
    | busy =>
      rw [outcome_exclusively_busy phase] at sent
      cases sent
    | finished =>
      rw [outcome_exclusively_finished phase] at sent
      cases sent
    | idle =>
      rw [outcome_exclusively_idle phase] at sent
      cases sent
      rfl

/-- Relates the schemas of two sessions. -/
def OnSchemas (related : Schema → Schema → Prop) (session after : Session Schema) : Prop :=
  related session.server after.server

theorem leads_define {related : Schema → Schema → Prop}
    {definition : Except StoreError (Option Statement)}
    (unneeded : definition = .ok none → ∀ schema, related schema schema)
    (ran : ∀ statement, definition = .ok (some statement) → ∀ schema after,
      keeper.runDropping retains statement schema = .ok after → related schema after) :
    (define (keeper.dropping retains) channel definition).Leads (OnSchemas related) := by
  intro session value after succeeded
  match definition with
  | .error error => cases succeeded
  | .ok none =>
    cases succeeded
    exact unneeded rfl session.server
  | .ok (some statement) =>
    change (execute _ channel statement >>= fun _ => pure ()).outcome session = _ at succeeded
    unfold execute at succeeded
    rw [Action.outcome_bind, Action.outcome_bind] at succeeded
    rcases sent : (send (keeper.dropping retains) channel (.run statement)).outcome session with
      ⟨error | reply, middle⟩
    · rw [sent] at succeeded
      cases succeeded
    · have answered : keeper.answerDropping retains (.run statement) session.server =
          (reply, middle.server) := answered_of_send (fun _ _ => rfl) sent
      rw [sent] at succeeded
      rw [Keeper.answerDropping] at answered
      split at answered
      · next changed made =>
        obtain ⟨rfl, same⟩ := Prod.mk.inj answered
        cases succeeded
        exact ran statement rfl _ _ (made.trans (congrArg Except.ok same))
      · obtain ⟨rfl, -⟩ := Prod.mk.inj answered
        cases succeeded

/-- The definition is always needed. -/
theorem leads_define_map {related : Schema → Schema → Prop}
    {definition : Except StoreError Statement}
    (ran : ∀ statement, definition = .ok statement → ∀ schema after,
      keeper.runDropping retains statement schema = .ok after → related schema after) :
    (define (keeper.dropping retains) channel (definition.map some)).Leads (OnSchemas related) := by
  refine leads_define (fun unneeded => ?_) fun statement compiled => ?_
  · obtain ⟨_, -, same⟩ := Result.map_eq_ok.mp unneeded
    cases same
  · obtain ⟨_, made, same⟩ := Result.map_eq_ok.mp compiled
    cases same
    exact ran statement made

/-! ### Histories -/

/-- An index as it is stored for a class. -/
def storedIndex (className : String) (index : TableIndex) : StoredIndex :=
  ⟨className, index.columns.map fun column => (storedName column.1, column.2.keyword),
    index.isUnique⟩

/-- Where tables and indexes share their names, no table has this one. -/
def NoTable (keeper : Keeper) (name : String) (schema : Schema) : Prop :=
  keeper.sharesNames = true → schema.tables.contains name = false

/-- A name that is taken for an index, though not by a table, is that of an index. -/
theorem exists_of_taken {schema : Schema} {name other : String} (same : other = name)
    (alone : NoTable keeper name schema) (taken : keeper.takenForIndex schema other = true) :
    ∃ known, schema.indexes.get? name = some known := by
  subst same
  obtain there | shared := Bool.or_eq_true_iff.mp taken
  · exact Option.isSome_iff_exists.mp there
  · obtain ⟨shared, there⟩ := Bool.and_eq_true_iff.mp shared
    cases there.symm.trans (alone shared)

theorem get?_of_free {schema : Schema} {name : String}
    (free : keeper.takenForIndex schema name = false) : schema.indexes.get? name = none :=
  Option.isNone_iff_eq_none.mp (Option.isSome_eq_false_iff.mp (Bool.or_eq_false_iff.mp free).1)

/-- **What one operation makes of the index of a name.** -/
theorem leads_operation (name className : String) (operation : IndexOperation) :
    (operation.perform (backend (keeper.dropping retains)) channel className).Leads
      (OnSchemas fun schema after => NoTable keeper name schema → NoTable keeper name after ∧
        after.indexes.get? name =
          if decide (operation.name = name) then
            operation.on (storedIndex className) (schema.indexes.get? name)
          else schema.indexes.get? name) := by
  cases operation with
  | add index =>
    refine leads_define_map fun statement compiled schema after ran alone => ?_
    have read := read?_createIndex compiled
    rw [runDropping_of_read read] at ran
    obtain ⟨stored, -, -, ⟨taken, rfl⟩ | ⟨free, rfl⟩⟩ :=
      Keeper.made_createIndex.mp (Keeper.made_of_run read ran)
    · refine ⟨alone, ?_⟩
      split
      · next named =>
        obtain ⟨known, there⟩ := exists_of_taken (of_decide_eq_true named) alone taken
        rw [there]
        rfl
      · rfl
    · refine ⟨alone, (Fields.get?_insert _ _ _ name).trans ?_⟩
      simp only [decide_eq_true_eq]
      split
      · next named =>
        subst named
        rw [get?_of_free free]
        exact (if_pos rfl).symm
      · next different => exact (if_neg different).symm
  | drop dropped =>
    refine leads_define_map fun statement compiled schema after ran alone => ?_
    cases eq_of_runDropping (droppedIndex?_dropIndex compiled) ran
    refine ⟨alone, (Fields.get?_erase _ dropped name).trans ?_⟩
    simp only [decide_eq_true_eq]
    rfl

/-- **What a history makes of the index of a name.** -/
theorem leads_history (name : String) (history : IndexHistory) :
    (history.perform (backend (keeper.dropping retains)) channel).Leads
      (OnSchemas fun schema after => NoTable keeper name schema →
        NoTable keeper name after ∧
        after.indexes.get? name = history.standing storedIndex name (schema.indexes.get? name)) :=
  leads_perform (fun className operation => leads_operation name className operation) history

/-! ### Tables that are ensured -/

/-- Nothing happens but to a table: at most, there is a new index of it. -/
structure Prepares (table : String) (schema after : Schema) : Prop where
  tables : ∀ other, other ≠ table → after.tables.get? other = schema.tables.get? other
  indexes : ∀ name, after.indexes.get? name = schema.indexes.get? name ∨
    schema.indexes.get? name = none ∧
      ∃ stored, after.indexes.get? name = some stored ∧ stored.table = table

namespace Prepares

variable {table : String} {one two three : Schema}

theorem refl (schema : Schema) : Prepares table schema schema := ⟨fun _ _ => rfl, fun _ => .inl rfl⟩

theorem trans (first : Prepares table one two) (second : Prepares table two three) :
    Prepares table one three := by
  refine ⟨fun other different => (second.tables other different).trans
    (first.tables other different), fun name => ?_⟩
  obtain same | ⟨new, stored, there, mine⟩ := second.indexes name
  · rw [same]
    exact first.indexes name
  · obtain same | ⟨-, other, known, -⟩ := first.indexes name
    · exact .inr ⟨same.symm.trans new, stored, there, mine⟩
    · cases new.symm.trans known

theorem of_createTable {columns : List (String × Keyword)}
    (made : keeper.made one (.createTable table columns) = .ok two) : Prepares table one two := by
  obtain ⟨-, rfl⟩ | ⟨-, -, rfl⟩ := Keeper.made_createTable.mp made
  · exact .refl _
  · refine ⟨fun other different => ?_, fun name => ?_⟩
    · rw [Fields.get?_insert, if_neg different.symm]
    · rw [Fields.get?_insert]
      split
      · next key =>
        subst key
        exact .inr ⟨Option.isNone_iff_eq_none.mp (Option.isSome_eq_false_iff.mp
          (keeper.fresh one table)), _, rfl, rfl⟩
      · exact .inl rfl

theorem of_addColumns {columns : List (String × Keyword)}
    (made : keeper.made one (.addColumns table columns) = .ok two) : Prepares table one two := by
  obtain ⟨stored, -, ⟨-, rfl⟩ | ⟨-, rfl⟩⟩ := Keeper.made_addColumns.mp made
  · exact .refl _
  · refine ⟨fun other different => ?_, fun name => .inl rfl⟩
    rw [Fields.get?_insert, if_neg different.symm]

theorem noTable {name : String} (prepares : Prepares table one two)
    (different : keeper.sharesNames = true → name ≠ table) (alone : NoTable keeper name one) :
    NoTable keeper name two := by
  intro shared
  rw [Fields.contains, prepares.tables name (different shared)]
  exact alone shared

end Prepares

theorem leads_tables (table : String) : (tables (keeper.dropping retains) channel).Leads
    (OnSchemas (Prepares table)) := by
  intro session value after succeeded
  unfold tables fetchAll at succeeded
  rw [Action.outcome_bind, Action.outcome_bind] at succeeded
  rcases sent : (send (keeper.dropping retains) channel .listTables).outcome session with
    ⟨error | reply, middle⟩
  · rw [sent] at succeeded
    cases succeeded
  · have answered : keeper.answerDropping retains .listTables session.server =
        (reply, middle.server) := answered_of_send (fun _ _ => rfl) sent
    rw [sent] at succeeded
    obtain ⟨rfl, same⟩ := Prod.mk.inj answered
    have behind : middle = after := congrArg Prod.snd succeeded
    rw [OnSchemas, ← behind, ← same]
    exact .refl _

theorem leads_addColumns (table : Table) : (define (keeper.dropping retains) channel
    (Statement.addColumns table.name table.userColumns)).Leads
      (OnSchemas (Prepares table.name)) := by
  refine leads_define (fun _ => .refl) fun statement compiled schema after ran => ?_
  have read := read?_addColumns compiled
  rw [runDropping_of_read read] at ran
  exact .of_addColumns (Keeper.made_of_run read ran)

theorem leads_createTable {table : Table} {related : Session Schema → Session Schema → Prop}
    (indexed : (table.indexHistory.perform (backend (keeper.dropping retains)) channel).Leads
      related) :
    (createTable (keeper.dropping retains) channel table).Leads fun session after =>
      ∃ middle, OnSchemas (Prepares table.name) session middle ∧ related middle after := by
  rw [perform_indexHistory] at indexed
  refine .bind (leads_define_map fun statement compiled schema after ran => ?_) fun _ => indexed
  have read := read?_createTable compiled
  rw [runDropping_of_read read] at ran
  exact .of_createTable (Keeper.made_of_run read ran)

/-- **A table that is ensured has an index of its own** under each of its names, exactly if no other
table's index had it. -/
theorem leads_ensureTable_index {capabilities : Capabilities} {table : Table} {index : TableIndex}
    (member : index ∈ table.indexes)
    (different : keeper.sharesNames = true → index.name ≠ table.name) :
    (Connection.ensureTable ⟨backend (keeper.dropping retains), channel, capabilities⟩
      table).Leads fun world after => NoTable keeper index.name world.store.server →
        ∃ stored, after.store.server.indexes.get? index.name = some stored ∧
          (stored.table = table.name ↔ ∀ other ∈ world.store.server.indexes.get? index.name,
            other.table = table.name) := by
  have indexed : (table.indexHistory.perform (backend (keeper.dropping retains)) channel).Leads _ :=
    leads_history index.name table.indexHistory
  refine (leads_ensureTable (leads_tables table.name) (leads_addColumns table)
    (leads_createTable indexed) indexed fun first second => first.trans second).mono ?_
  rintro world after ⟨middle, prepares, indexes⟩ alone
  obtain ⟨-, left⟩ := indexes (prepares.noTable different alone)
  rw [IndexHistory.standing, IndexHistory.leaves_indexHistory storedIndex fun _ => rfl] at left
  obtain ⟨first, found⟩ : ∃ first,
      (table.indexes.find? fun other => other.name = index.name) = some first :=
    Option.isSome_iff_exists.mp (List.find?_isSome.mpr ⟨index, member, decide_eq_true rfl⟩)
  rw [found] at left
  cases known : middle.server.indexes.get? index.name with
  | none =>
    rw [known] at left
    refine ⟨_, left, iff_of_true rfl fun other there => ?_⟩
    obtain same | ⟨-, stored, here, -⟩ := prepares.indexes index.name
    · cases there.symm.trans (same.symm.trans known)
    · cases here.symm.trans known
  | some stored =>
    rw [known] at left
    refine ⟨stored, left, ?_⟩
    obtain same | ⟨new, other, here, mine⟩ := prepares.indexes index.name
    · rw [← same, known]
      exact ⟨fun mine other there => Option.some.inj there ▸ mine, fun each => each stored rfl⟩
    · cases here.symm.trans known
      rw [new]
      refine iff_of_true mine fun other none_ => ?_
      cases none_

/-- The index of a name as far as it is one of a class. -/
def Schema.indexOf? (schema : Schema) (className name : String) : Option StoredIndex :=
  IndexHistory.belonging StoredIndex.table className (schema.indexes.get? name)

/-- **After each part of a history, every class has the index that its own operations leave**,
exactly if none of them meets the index of another class. -/
theorem confined_iff (name : String) {history : IndexHistory} {session after : Session Schema}
    (done : (history.perform (backend (keeper.dropping retains)) channel).outcome session =
      (.ok (), after)) (alone : NoTable keeper name session.server) :
    (∀ part : IndexHistory, part <+: history → ∀ middle,
      (part.perform (backend (keeper.dropping retains)) channel).outcome session =
          (.ok (), middle) →
        ∀ className, middle.server.indexOf? className name =
          part.own storedIndex className name (session.server.indexOf? className name)) ↔
    history.Undisturbed StoredIndex.table storedIndex name (session.server.indexes.get? name) := by
  rw [← IndexHistory.confined_iff_undisturbed fun _ _ => rfl]
  have left (part : IndexHistory) (middle : Session Schema)
      (came : (part.perform (backend (keeper.dropping retains)) channel).outcome session =
        (.ok (), middle)) : middle.server.indexes.get? name =
          part.standing storedIndex name (session.server.indexes.get? name) :=
    (leads_history name part session () middle came alone).2
  constructor
  · intro confined part front className
    obtain ⟨middle, came⟩ := exists_of_prefix front done
    rw [← left part middle came]
    exact confined part front middle came className
  · intro confined part front middle came className
    rw [Schema.indexOf?, left part middle came]
    exact confined part front className

/-- What succeeds changes the one index of a name that there is in a schema, whatever class it is
of. -/
structure ConfinedIff (keeper : Keeper) (retains : String → Schema → Option ServerFault)
    (channel : Channel) (capabilities : Capabilities) : Prop where
  /-- The index of a name is the one that all operations together leave. -/
  histories : ∀ (history : IndexHistory) {session after : Session Schema},
    (history.perform (backend (keeper.dropping retains)) channel).outcome session =
        (.ok (), after) →
      ∀ name, NoTable keeper name session.server → after.server.indexes.get? name =
        history.standing storedIndex name (session.server.indexes.get? name)
  /-- After each part of a history every class has the index that its own operations leave, exactly
  if none of them meets the index of another class. -/
  apart : ∀ (history : IndexHistory) {session after : Session Schema},
    (history.perform (backend (keeper.dropping retains)) channel).outcome session =
        (.ok (), after) →
      ∀ name, NoTable keeper name session.server →
        ((∀ part : IndexHistory, part <+: history → ∀ middle,
          (part.perform (backend (keeper.dropping retains)) channel).outcome session =
              (.ok (), middle) →
            ∀ className, middle.server.indexOf? className name =
              part.own storedIndex className name (session.server.indexOf? className name)) ↔
          history.Undisturbed StoredIndex.table storedIndex name
            (session.server.indexes.get? name))
  /-- A table that is ensured has an index under each of its names, and an index of its own exactly
  if no other table's index had the name. -/
  ensured : ∀ (table : Table) {world after : World (Session Schema)},
    (Connection.ensureTable ⟨backend (keeper.dropping retains), channel, capabilities⟩
        table).outcome world = (.ok (), after) →
      ∀ index ∈ table.indexes, (keeper.sharesNames = true → index.name ≠ table.name) →
        NoTable keeper index.name world.store.server →
          ∃ stored, after.store.server.indexes.get? index.name = some stored ∧
            (stored.table = table.name ↔
              ∀ other ∈ world.store.server.indexes.get? index.name, other.table = table.name)

theorem confinedIff (keeper : Keeper) (retains : String → Schema → Option ServerFault)
    (channel : Channel) (capabilities : Capabilities) :
    ConfinedIff keeper retains channel capabilities where
  histories history session after done name alone :=
    (leads_history name history session () after done alone).2
  apart _ _ _ done name alone := confined_iff name done alone
  ensured _ world after done _ member different alone :=
    leads_ensureTable_index member different world () after done alone

end TwinStore.Postgres
