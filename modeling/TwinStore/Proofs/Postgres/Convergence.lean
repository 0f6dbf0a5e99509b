/-
**A table that is ensured.** Bringing a table in line with its description is a change of a schema,
and one that need not be made twice.

* `Keeper.ensured`: the change, put together from those of the statements. `Follows` and
  `follows_ensureTable`: the verb makes this change, through any channel that takes requests.
* `ensured_spec`: the schema has what the table is described with then, and all that it had before.
  `ensured_again`: the same change does nothing more.
* `ensureTable_converges`: both for the verb.
-/

import TwinStore.Proofs.Fields
import TwinStore.Proofs.Postgres.Schema

namespace TwinStore.Postgres

variable {σ β : Type} {keeper : Keeper}

/-! ### Changes -/

namespace Keeper

/-- What a definition makes of a schema, if there is something to define. -/
def defined (keeper : Keeper) (definition : Except StoreError (Option Statement))
    (schema : Schema) : Except StoreError Schema :=
  match definition with
  | .error error => .error error
  | .ok none => .ok schema
  | .ok (some statement) => (keeper.run statement schema).mapError .postgres

/-- What an index makes of a schema. -/
def indexed (keeper : Keeper) (name : String) (schema : Schema) (index : TableIndex) :
    Except StoreError Schema :=
  keeper.defined ((Statement.createIndex name index).map some) schema

/-- What a table makes of a schema, where it exists and where it does not. -/
def brought (keeper : Keeper) (table : Table) (exists_ : Bool) (schema : Schema) :
    Except StoreError Schema := do
  let definition := if exists_ then Statement.addColumns table.name table.userColumns
    else (Statement.createTable table).map some
  table.indexes.foldlM (keeper.indexed table.name) (← keeper.defined definition schema)

/-- What a table makes of a schema that is to have it. -/
def ensured (keeper : Keeper) (table : Table) (schema : Schema) : Except StoreError Schema :=
  keeper.brought table (schema.tables.contains table.name) schema

end Keeper

/-! ### Actions that make changes -/

/-- In its place, an action makes a change of a schema, or fails as the change does. -/
structure Follows (place : Schema → σ) (action : Action σ Unit)
    (change : Schema → Except StoreError Schema) : Prop where
  done : ∀ {schema after}, change schema = .ok after →
    action.outcome (place schema) = (.ok (), place after)
  failed : ∀ {schema error}, change schema = .error error →
    (action.outcome (place schema)).1 = .error error

namespace Follows

variable {place : Schema → σ} {first next : Action σ Unit}
  {change later : Schema → Except StoreError Schema}

theorem seq (one : Follows place first change) (two : Follows place next later) :
    Follows place (first >>= fun _ => next) fun schema => change schema >>= later where
  done changed := by
    obtain ⟨middle, early, late⟩ := Result.bind_eq_ok.mp changed
    rw [Action.outcome_bind, one.done early]
    exact two.done late
  failed {schema error} unchanged := by
    rw [Action.outcome_bind]
    obtain early | ⟨middle, early, late⟩ := Result.bind_eq_error.mp unchanged
    · have lost := one.failed early
      revert lost
      obtain ⟨result, after⟩ := first.outcome (place schema)
      rintro rfl
      rfl
    · rw [one.done early]
      exact two.failed late

theorem forM (items : List β) {action : β → Action σ Unit}
    {change : Schema → β → Except StoreError Schema}
    (each : ∀ item, Follows place (action item) fun schema => change schema item) :
    Follows place (items.forM action) fun schema => items.foldlM change schema := by
  induction items with
  | nil =>
    refine ⟨fun same => ?_, nofun⟩
    cases same
    rfl
  | cons item rest step => exact (each item).seq step

/-- What is looked up decides which change is made. -/
theorem look {α : Type} {looking : Action σ α} {found : Schema → α} {next : α → Action σ Unit}
    (change : α → Schema → Except StoreError Schema)
    (looks : ∀ schema, looking.outcome (place schema) = (.ok (found schema), place schema))
    (each : ∀ value, Follows place (next value) (change value)) :
    Follows place (looking >>= next) fun schema => change (found schema) schema where
  done changed := by
    rw [Action.outcome_bind, looks]
    exact (each _).done changed
  failed unchanged := by
    rw [Action.outcome_bind, looks]
    exact (each _).failed unchanged

/-- An action on a store is one on its world. -/
theorem act (issued : Nat) (follows : Follows place first change) :
    Follows (fun schema => (⟨issued, place schema⟩ : World σ)) (World.act first) change where
  done changed :=
    congrArg (fun outcome => (outcome.1, (⟨issued, outcome.2⟩ : World σ))) (follows.done changed)
  failed unchanged := follows.failed unchanged

end Follows

/-- A schema in a session of which nothing else changes. -/
abbrev inSession (opened : Nat) (phase : Nat → Phase) (schema : Schema) : Session Schema :=
  ⟨schema, opened, phase⟩

section Channels

variable (keeper) {channel : Channel} {opened : Nat} {phase : Nat → Phase}
  (open_ : ∀ number ∈ channel, phase number = .idle)

include open_

/-- A channel that takes requests is as it was behind them. -/
theorem outcome_send_open (request : Request) (schema : Schema) :
    (send keeper.server channel request).outcome (inSession opened phase schema) =
      (.ok (keeper.answer request schema).1,
        inSession opened phase (keeper.answer request schema).2) := by
  cases channel with
  | none => rfl
  | some number =>
    have idle := open_ number rfl
    refine (outcome_exclusively_idle idle _).trans ?_
    have restored (state : Schema) :
        ({ (inSession opened phase schema).setPhase number .busy with server := state } :
          Session Schema).setPhase number .idle = inSession opened phase state :=
      setPhase_restored idle state
    exact congrArg (Prod.mk _) (restored _)

theorem follows_define (definition : Except StoreError (Option Statement)) :
    Follows (inSession opened phase) (define keeper.server channel definition)
      (keeper.defined definition) := by
  match definition with
  | .error error => exact ⟨nofun, fun same => congrArg _ (Except.error.inj same)⟩
  | .ok none =>
    refine ⟨fun same => ?_, nofun⟩
    cases same
    rfl
  | .ok (some statement) =>
    have came (schema : Schema) :
        (define keeper.server channel (.ok (some statement))).outcome
            (inSession opened phase schema) =
          (((keeper.run statement schema).mapError .postgres).map fun _ => (),
            inSession opened phase ((keeper.run statement schema).toOption.getD schema)) := by
      show (execute keeper.server channel statement >>= fun _ => pure ()).outcome _ = _
      unfold execute
      rw [Action.outcome_bind, Action.outcome_bind, outcome_send_open keeper open_, Keeper.answer]
      cases keeper.run statement schema <;> rfl
    refine ⟨fun {schema after} changed => ?_, fun {schema error} unchanged => ?_⟩
    · rw [came, Result.mapError_eq_ok.mp changed]
      rfl
    · have unchanged : (keeper.run statement schema).mapError .postgres = .error error := unchanged
      rw [came, unchanged]
      rfl

theorem outcome_tables_open (schema : Schema) :
    (tables keeper.server channel).outcome (inSession opened phase schema) =
      (.ok (schema.tables.map Prod.fst), inSession opened phase schema) := by
  have readable : (schema.tables.map fun table =>
      (⟨[⟨"table_name", "TEXT"⟩], [.text table.1]⟩ : Row)).mapM Row.text =
        .ok (schema.tables.map Prod.fst) := by
    induction schema.tables with
    | nil => rfl
    | cons table rest step =>
      rw [List.map_cons, List.mapM_cons, step]
      rfl
  unfold tables fetchAll
  rw [Action.outcome_bind, Action.outcome_bind, outcome_send_open keeper open_]
  exact congrArg (fun names => (names, inSession opened phase schema)) readable

omit open_ in
theorem contains_names {α : Type} (fields : Fields α) (name : String) :
    (fields.map Prod.fst).contains name = fields.contains name := by
  rw [Bool.eq_iff_iff, List.contains_iff_mem, Fields.contains, Option.isSome_iff_ne_none, Ne,
    Fields.get?_eq_none, not_not]

/-- **Ensuring a table changes the schema.** -/
theorem follows_ensureTable (capabilities : Capabilities) (table : Table) (issued : Nat) :
    Follows (fun schema => (⟨issued, inSession opened phase schema⟩ : World (Session Schema)))
      (Connection.ensureTable ⟨backend keeper.server, channel, capabilities⟩ table)
      (keeper.ensured table) := by
  have listed (schema : Schema) : (World.act (tables keeper.server channel)).outcome
      (⟨issued, inSession opened phase schema⟩ : World (Session Schema)) =
        (.ok (schema.tables.map Prod.fst), ⟨issued, inSession opened phase schema⟩) :=
    congrArg (fun outcome => (outcome.1, (⟨issued, outcome.2⟩ : World (Session Schema))))
      (outcome_tables_open keeper open_ schema)
  have same : keeper.ensured table = fun schema =>
      keeper.brought table ((schema.tables.map Prod.fst).contains table.name) schema := by
    funext schema
    rw [contains_names]
    rfl
  rw [same]
  refine .look (fun names => keeper.brought table (names.contains table.name)) listed
    fun names => ?_
  have define_ (definition : Except StoreError (Option Statement)) :
      Follows (inSession opened phase) (define keeper.server channel definition)
        (keeper.defined definition) := follows_define keeper open_ definition
  cases names.contains table.name with
  | true => exact ((define_ _).act issued).seq (.forM table.indexes fun _ => (define_ _).act issued)
  | false => exact ((define_ _).seq (.forM table.indexes fun _ => define_ _)).act issued

end Channels

/-- The tables are listed through a channel that takes requests only. -/
theorem open_of_tables {channel : Channel} {session after : Session Schema} {names : List String}
    (listed : (tables keeper.server channel).outcome session = (.ok names, after)) :
    ∀ number ∈ channel, session.phase number = .idle := by
  rintro number ⟨⟩
  unfold tables fetchAll at listed
  rw [Action.outcome_bind, Action.outcome_bind] at listed
  have shut (error : StoreError) : (send keeper.server (some number) .listTables).outcome session ≠
      (.error error, session) := by
    intro refused
    rw [refused] at listed
    cases listed
  cases phase : session.phase number with
  | idle => rfl
  | finished => exact absurd (outcome_send_finished _ phase _) (shut .transactionFinished)
  | busy =>
    exact absurd (outcome_exclusively_busy phase _) (shut .transactionBusy)

/-! ### What the change comes to -/

/-- A schema has what a table is described with: the table, its columns, and its indexes. -/
structure Schema.Realizes (schema : Schema) (table : Table) : Prop where
  columns : ∃ stored, schema.tables.get? table.name = some stored ∧
    ∀ column ∈ table.userColumns, stored.contains column.name = true
  indexes : ∀ index ∈ table.indexes, ∃ stored, schema.indexes.get? index.name = some stored ∧
    stored.table = table.name

/-- No other table uses the names of a table's indexes. Where tables and indexes share their names,
there is nothing else of these names either. -/
structure Schema.Apart (schema : Schema) (keeper : Keeper) (table : Table) : Prop where
  own : ∀ index ∈ table.indexes, ∀ stored, schema.indexes.get? index.name = some stored →
    stored.table = table.name
  alone : keeper.sharesNames = true → schema.indexes.contains table.name = false ∧
    ∀ index ∈ table.indexes, index.name ≠ table.name ∧ schema.tables.contains index.name = false

variable {schema after : Schema} {name : String}

theorem run_of_defined {definition : Except StoreError Statement}
    (done : keeper.defined (definition.map some) schema = .ok after) :
    ∃ statement, definition = .ok statement ∧ keeper.run statement schema = .ok after := by
  cases definition with
  | error error => cases done
  | ok statement => exact ⟨statement, rfl, Result.mapError_eq_ok.mp done⟩

/-! #### Indexes -/

/-- What comes of indexes: no table is changed and nothing removed, the indexes are there on their
table, all others were there, and where they are there they need not be created again. -/
structure Indexes (keeper : Keeper) (name : String) (indexes : List TableIndex)
    (schema after : Schema) : Prop where
  tables : after.tables = schema.tables
  keeps : schema.Keeps after
  there : ∀ index ∈ indexes, ∃ stored, after.indexes.get? index.name = some stored ∧
    stored.table = name
  others : ∀ other stored, after.indexes.get? other = some stored →
    schema.indexes.get? other = some stored ∨ stored.table = name
  again : ∀ later : Schema, later.tables = schema.tables →
    (∀ index ∈ indexes, later.indexes.contains index.name = true) →
      indexes.foldlM (keeper.indexed name) later = .ok later

/-- The names of indexes are not used for anything else than indexes of a table. -/
structure Usable (keeper : Keeper) (name : String) (indexes : List TableIndex) (schema : Schema) :
    Prop where
  own : ∀ index ∈ indexes, ∀ stored, schema.indexes.get? index.name = some stored →
    stored.table = name
  alone : keeper.sharesNames = true →
    ∀ index ∈ indexes, schema.tables.contains index.name = false

/-- The name of such an index is taken by an index only. -/
theorem Usable.taken {index : TableIndex} (usable : Usable keeper name [index] schema)
    (taken : keeper.takenForIndex schema index.name = true) :
    schema.indexes.contains index.name = true := by
  obtain there | shared := Bool.or_eq_true_iff.mp taken
  · exact there
  · obtain ⟨shared, there⟩ := Bool.and_eq_true_iff.mp shared
    have free := usable.alone shared index (List.mem_singleton.mpr rfl)
    rw [there] at free
    cases free

/-- **One index.** -/
theorem indexes_singleton {index : TableIndex} (usable : Usable keeper name [index] schema)
    (done : keeper.indexed name schema index = .ok after) :
    Indexes keeper name [index] schema after := by
  obtain ⟨statement, compiled, ran⟩ := run_of_defined done
  have read := read?_createIndex compiled
  obtain ⟨stored, known, columns, outcome⟩ :=
    Keeper.made_createIndex.mp (Keeper.made_of_run read ran)
  have own := usable.own index (List.mem_singleton.mpr rfl)
  refine ⟨?tables, Keeper.keeps_made (Keeper.made_of_run read ran), ?there, ?others, ?again⟩
  case tables => obtain ⟨-, rfl⟩ | ⟨-, rfl⟩ := outcome <;> rfl
  case there =>
    refine List.forall_mem_singleton.mpr ?_
    obtain ⟨taken, rfl⟩ | ⟨-, rfl⟩ := outcome
    · obtain ⟨found, there⟩ := Option.isSome_iff_exists.mp (usable.taken taken)
      exact ⟨found, there, own found there⟩
    · exact ⟨⟨name, _, index.isUnique⟩, by rw [Fields.get?_insert, if_pos rfl], rfl⟩
  case others =>
    intro other found there
    obtain ⟨-, rfl⟩ | ⟨-, rfl⟩ := outcome
    · exact .inl there
    · rw [Fields.get?_insert] at there
      split at there
      · cases there
        exact .inr rfl
      · exact .inl there
  case again =>
    intro later same present
    have taken : keeper.takenForIndex later index.name = true := by
      rw [Keeper.takenForIndex, List.forall_mem_singleton.mp present]
      rfl
    have unchanged := Keeper.run_of_unchanged read (Keeper.made_createIndex.mpr
      ⟨stored, (congrArg (Fields.get? · name) same).trans known, columns, .inl ⟨taken, rfl⟩⟩)
    rw [List.foldlM_cons, Keeper.indexed, compiled]
    show (keeper.run statement later).mapError StoreError.postgres >>= _ = _
    rw [unchanged]
    rfl

/-- One index, and then others. -/
theorem Indexes.cons {indexes : List TableIndex} {index : TableIndex} {middle : Schema}
    (one : Indexes keeper name [index] schema middle)
    (rest : Indexes keeper name indexes middle after) :
    Indexes keeper name (index :: indexes) schema after where
  tables := rest.tables.trans one.tables
  keeps := one.keeps.trans rest.keeps
  there := by
    obtain ⟨stored, there, own⟩ := one.there index (List.mem_singleton.mpr rfl)
    exact List.forall_mem_cons.mpr
      ⟨⟨stored, rest.keeps.indexes index.name stored there, own⟩, rest.there⟩
  others other stored there :=
    (rest.others other stored there).elim (one.others other stored) .inr
  again later same present := by
    obtain ⟨first, others⟩ := List.forall_mem_cons.mp present
    have unchanged : keeper.indexed name later index >>= pure = .ok later :=
      one.again later same (List.forall_mem_singleton.mpr first)
    rw [bind_pure] at unchanged
    rw [List.foldlM_cons, unchanged]
    exact rest.again later (same.trans one.tables.symm) others

/-- **All indexes of a table.** -/
theorem indexes_of_foldlM {indexes : List TableIndex} (usable : Usable keeper name indexes schema)
    (done : indexes.foldlM (keeper.indexed name) schema = .ok after) :
    Indexes keeper name indexes schema after := by
  induction indexes generalizing schema with
  | nil =>
    cases done
    exact ⟨rfl, .refl _, nofun, fun _ _ there => .inl there, fun _ _ _ => rfl⟩
  | cons index rest step =>
    rw [List.foldlM_cons] at done
    obtain ⟨middle, first, later⟩ := Result.bind_eq_ok.mp done
    obtain ⟨own, owns⟩ := List.forall_mem_cons.mp usable.own
    have one := indexes_singleton ⟨List.forall_mem_singleton.mpr own, fun shared =>
      List.forall_mem_singleton.mpr (List.forall_mem_cons.mp (usable.alone shared)).1⟩ first
    refine one.cons (step ⟨fun index member stored there => ?_, fun shared => ?_⟩ later)
    · exact (one.others index.name stored there).elim (owns index member stored) id
    · rw [one.tables]
      exact (List.forall_mem_cons.mp (usable.alone shared)).2

/-! #### Columns -/

/-- What comes of the columns of a table: the table has them, nothing is removed, no other table is
changed, and where they are there they need not be added again. A table that is new has the columns
that every table has. -/
structure Columns (keeper : Keeper) (table : Table) (schema after : Schema) : Prop where
  keeps : schema.Keeps after
  there : ∃ stored, after.tables.get? table.name = some stored ∧
    (∀ column ∈ table.userColumns, stored.contains column.name = true) ∧
    (schema.tables.get? table.name = none →
      ∀ column ∈ systemColumns, stored.get? column.1 = some column.2)
  tables : ∀ other, other ≠ table.name → after.tables.get? other = schema.tables.get? other
  indexes : ∀ other stored, after.indexes.get? other = some stored →
    schema.indexes.get? other = some stored ∨ stored.table = table.name
  again : ∀ (later : Schema) stored, later.tables.get? table.name = some stored →
    (∀ column ∈ table.userColumns, stored.contains column.name = true) →
      keeper.defined (Statement.addColumns table.name table.userColumns) later = .ok later

theorem userColumns_filter (table : Table) :
    (table.userColumns.filter fun column => !isReserved column.name) = table.userColumns := by
  rw [Table.userColumns, List.filter_filter]
  simp only [Bool.and_self]

theorem contains_typedColumns {stored : Fields Keyword} {columns : List Column} :
    (∀ column ∈ typedColumns columns, stored.contains column.1 = true) ↔
      ∀ column ∈ columns, stored.contains column.name = true :=
  List.forall_mem_map

/-- Columns that are there are not added again. -/
theorem defined_addColumns {table : Table} {made : Option Statement}
    (compiled : Statement.addColumns table.name table.userColumns = .ok made)
    {stored : Fields Keyword}
    (known : schema.tables.get? table.name = some stored)
    (whole : ∀ column ∈ table.userColumns, stored.contains column.name = true) :
    keeper.defined (Statement.addColumns table.name table.userColumns) schema = .ok schema := by
  rw [compiled]
  cases made with
  | none => rfl
  | some statement =>
    have read := read?_addColumns compiled
    rw [userColumns_filter] at read
    show (keeper.run statement schema).mapError StoreError.postgres = _
    rw [Keeper.run_of_unchanged read (Keeper.made_addColumns.mpr
      ⟨stored, known, .inl ⟨contains_typedColumns.mpr whole, rfl⟩⟩)]
    rfl

/-- A table can be altered by changes without faults. -/
theorem exists_alterTable {className : String} {table : Identifier} {changes : List Draft}
    (named : tableOf className = .ok table) (sound : ∀ change ∈ changes, change.fault = none) :
    ∃ made, Statement.alterTable className changes = .ok made := by
  cases changes with
  | nil => exact ⟨none, rfl⟩
  | cons change rest =>
    have parts : ∀ part ∈ [.words [.alterTable], .name table, Draft.listed (change :: rest)],
        part.fault = none := by
      simpa [Draft.words, Draft.name, Draft.ofTokens, Draft.listed]
        using Draft.joined_fault.mpr sound
    obtain ⟨statement, made⟩ := Statement.exists_ofParts parts
    refine ⟨some statement, ?_⟩
    show (do
      let name ← tableOf className
      return some (← Statement.ofParts
        [.words [.alterTable], .name name, Draft.listed (change :: rest)])) = _
    rw [named]
    show (Statement.ofParts [.words [.alterTable], .name table, Draft.listed (change :: rest)] >>=
      fun statement => pure (some statement)) = _
    rw [made]
    rfl

/-- The columns of a table that can be created can also be added. -/
theorem exists_addColumns {table : Table} {statement : Statement}
    (compiled : Statement.createTable table = .ok statement) :
    ∃ made, Statement.addColumns table.name table.userColumns = .ok made := by
  obtain ⟨definitions, drafted, more⟩ := Result.bind_eq_ok.mp compiled
  obtain ⟨name, named, -⟩ := Result.bind_eq_ok.mp more
  have pairs := Result.mapM_eq_ok.mp drafted
  have additions : (table.userColumns.mapM fun column => do
      return Draft.words [.addColumn, .space] ++ (← column.definition)) =
        .ok (definitions.map (Draft.words [.addColumn, .space] ++ ·)) := by
    refine Result.mapM_eq_ok.mpr (List.forall₂_map_right_iff.mpr (pairs.imp ?_))
    intro column draft defined
    rw [defined]
    rfl
  have sound : ∀ draft ∈ definitions.map (Draft.words [.addColumn, .space] ++ ·),
      draft.fault = none := by
    refine List.forall_mem_map.mpr fun draft member => ?_
    obtain ⟨column, -, defined⟩ := Result.exists_of_mem_results drafted member
    obtain ⟨part, rfl, -, -⟩ := readAs_definition defined
    rfl
  rw [Statement.addColumns, userColumns_filter, additions]
  exact exists_alterTable named sound

/-- There are no columns to add where no statement is needed. -/
theorem userColumns_of_none {table : Table}
    (compiled : Statement.addColumns table.name table.userColumns = .ok none) :
    table.userColumns = [] := by
  rw [Statement.addColumns, userColumns_filter] at compiled
  obtain ⟨additions, drafted, altered⟩ := Result.bind_eq_ok.mp compiled
  unfold Statement.alterTable at altered
  split at altered
  · exact List.forall₂_nil_right_iff.mp (Result.mapM_eq_ok.mp drafted)
  · obtain ⟨name, -, more⟩ := Result.bind_eq_ok.mp altered
    obtain ⟨statement, -, same⟩ := Result.bind_eq_ok.mp more
    cases same

/-- **Columns of a table that there is.** -/
theorem columns_of_addColumns {table : Table} {stored : Fields Keyword}
    (known : schema.tables.get? table.name = some stored)
    (done : keeper.defined (Statement.addColumns table.name table.userColumns) schema = .ok after) :
    Columns keeper table schema after := by
  have old : schema.tables.get? table.name ≠ none := by
    rw [known]
    nofun
  cases compiled : Statement.addColumns table.name table.userColumns with
  | error error =>
    rw [compiled] at done
    cases done
  | ok made =>
    have again : ∀ (later : Schema) stored, later.tables.get? table.name = some stored →
        (∀ column ∈ table.userColumns, stored.contains column.name = true) →
          keeper.defined (Statement.addColumns table.name table.userColumns) later = .ok later :=
      fun later stored => defined_addColumns compiled
    cases made with
    | none =>
      rw [compiled] at done
      cases done
      refine ⟨.refl _, ⟨stored, known, ?_, fun new => absurd new old⟩, fun _ _ => rfl,
        fun _ _ there => .inl there, again⟩
      rw [userColumns_of_none compiled]
      nofun
    | some statement =>
      have read := read?_addColumns compiled
      rw [userColumns_filter] at read
      rw [compiled] at done
      have made := Keeper.made_of_run read (Result.mapError_eq_ok.mp done)
      have keeps := Keeper.keeps_made made
      obtain ⟨found, same, outcome⟩ := Keeper.made_addColumns.mp made
      cases known.symm.trans same
      obtain ⟨whole, rfl⟩ | ⟨-, rfl⟩ := outcome
      · exact ⟨keeps, ⟨stored, known, contains_typedColumns.mp whole, fun new => absurd new old⟩,
          fun _ _ => rfl, fun _ _ there => .inl there, again⟩
      · refine ⟨keeps, ⟨_, by rw [Fields.get?_insert, if_pos rfl], ?_, fun new => absurd new old⟩,
          fun other different => ?_, fun _ _ there => .inl there, again⟩
        · exact contains_typedColumns.mp fun column member => contains_withColumns member
        · rw [Fields.get?_insert, if_neg different.symm]

/-- **Columns of a new table.** -/
theorem columns_of_createTable {table : Table} (new : schema.tables.get? table.name = none)
    (alone : keeper.sharesNames = true → schema.indexes.contains table.name = false)
    (done : keeper.defined ((Statement.createTable table).map some) schema = .ok after) :
    Columns keeper table schema after := by
  obtain ⟨statement, compiled, ran⟩ := run_of_defined done
  obtain ⟨added, addable⟩ := exists_addColumns compiled
  have made := Keeper.made_of_run (read?_createTable compiled) ran
  have keeps := Keeper.keeps_made made
  have free : keeper.takenForTable schema table.name = false := by
    rw [Keeper.takenForTable, Fields.contains, new]
    cases shared : keeper.sharesNames with
    | true => rw [alone shared]; rfl
    | false => rfl
  obtain ⟨taken, -⟩ | ⟨-, distinct, rfl⟩ := Keeper.made_createTable.mp made
  · cases free.symm.trans taken
  · have stored : ∀ column ∈ systemColumns ++ typedColumns table.userColumns,
        (Fields.ofEntries (systemColumns ++ typedColumns table.userColumns)).get? column.1 =
          some column.2 := fun column member => Fields.get?_overlay_of_mem distinct member
    obtain ⟨system, user⟩ := List.forall_mem_append.mp stored
    refine ⟨keeps, ⟨_, by rw [Fields.get?_insert, if_pos rfl], ?_, fun _ => system⟩,
      fun other different => ?_, fun other found there => ?_,
      fun later stored => defined_addColumns addable⟩
    · refine contains_typedColumns.mp fun column member => ?_
      rw [Fields.contains, user column member]
      rfl
    · rw [Fields.get?_insert, if_neg different.symm]
    · rw [Fields.get?_insert] at there
      split at there
      · cases there
        exact .inr rfl
      · exact .inl there

/-! #### The table -/

/-- **An ensured table is realized**, nothing is removed, and the same change does nothing more. -/
theorem ensured_spec {table : Table} (apart : schema.Apart keeper table)
    (done : keeper.ensured table schema = .ok after) :
    after.Realizes table ∧
    (schema.tables.get? table.name = none → ∃ stored, after.tables.get? table.name = some stored ∧
      ∀ column ∈ systemColumns, stored.get? column.1 = some column.2) ∧
    schema.Keeps after ∧ keeper.ensured table after = .ok after := by
  obtain ⟨prepared, first, last⟩ := Result.bind_eq_ok.mp done
  have columns : Columns keeper table schema prepared := by
    rw [Fields.contains] at first
    cases known : schema.tables.get? table.name with
    | some stored =>
      rw [known] at first
      exact columns_of_addColumns known first
    | none =>
      rw [known] at first
      exact columns_of_createTable known (fun shared => (apart.alone shared).1) first
  have usable : Usable keeper table.name table.indexes prepared := by
    refine ⟨fun index member stored there => ?_, fun shared index member => ?_⟩
    · exact (columns.indexes index.name stored there).elim (apart.own index member stored) id
    · obtain ⟨different, free⟩ := (apart.alone shared).2 index member
      rw [Fields.contains, columns.tables index.name different]
      exact free
  have indexes := indexes_of_foldlM usable last
  obtain ⟨stored, there, whole, system⟩ := columns.there
  have known : after.tables.get? table.name = some stored := by rw [indexes.tables, there]
  have present : ∀ index ∈ table.indexes, after.indexes.contains index.name = true := by
    intro index member
    obtain ⟨found, here, -⟩ := indexes.there index member
    rw [Fields.contains, here]
    rfl
  refine ⟨⟨⟨stored, known, whole⟩, indexes.there⟩, fun new => ⟨stored, known, system new⟩,
    columns.keeps.trans indexes.keeps, ?_⟩
  have exists_ : after.tables.contains table.name = true := by
    rw [Fields.contains, known]
    rfl
  rw [Keeper.ensured, exists_]
  exact Result.bind_eq_ok.mpr ⟨after, columns.again after stored known whole,
    indexes.again after indexes.tables present⟩

/-- **Ensuring a table converges and removes nothing.** Let a server keep a schema, refuse whatever
changes it likes, and let no other table use the names of the table's indexes. If the table can be
ensured, through whatever channel, then it is there with its columns and with its indexes. If it is
new, it has the columns that every table has. Every table, column and index that was there still is,
with its type. And the table can be ensured once more, which changes nothing. -/
theorem ensureTable_converges (keeper : Keeper) (channel : Channel) (capabilities : Capabilities)
    (table : Table) {world after : World (Session Schema)}
    (apart : world.store.server.Apart keeper table)
    (succeeded : (Connection.ensureTable ⟨backend keeper.server, channel, capabilities⟩
      table).outcome world = (.ok (), after)) :
    after.store.server.Realizes table ∧
    (world.store.server.tables.get? table.name = none →
      ∃ stored, after.store.server.tables.get? table.name = some stored ∧
        ∀ column ∈ systemColumns, stored.get? column.1 = some column.2) ∧
    world.store.server.Keeps after.store.server ∧
    (Connection.ensureTable ⟨backend keeper.server, channel, capabilities⟩ table).outcome after =
      (.ok (), after) := by
  obtain ⟨issued, schema, opened, phase⟩ := world
  have open_ : ∀ number ∈ channel, phase number = .idle := by
    rcases listed : (tables keeper.server channel).outcome ⟨schema, opened, phase⟩ with
      ⟨error | names, middle⟩
    · have unlisted : (World.act (tables keeper.server channel)).outcome
          (⟨issued, ⟨schema, opened, phase⟩⟩ : World (Session Schema)) =
            (.error error, ⟨issued, middle⟩) :=
        congrArg (fun outcome => (outcome.1, (⟨issued, outcome.2⟩ : World (Session Schema)))) listed
      change (World.act (tables keeper.server channel) >>= _).outcome _ = _ at succeeded
      rw [Action.outcome_bind, unlisted] at succeeded
      cases succeeded
    · exact open_of_tables listed
  have follows : Follows
      (fun schema => (⟨issued, inSession opened phase schema⟩ : World (Session Schema))) _ _ :=
    follows_ensureTable keeper open_ capabilities table issued
  cases changed : keeper.ensured table schema with
  | error error =>
    cases (congrArg Prod.fst succeeded).symm.trans (follows.failed changed)
  | ok made =>
    cases succeeded.symm.trans (follows.done changed)
    obtain ⟨realizes, system, keeps, again⟩ := ensured_spec apart changed
    exact ⟨realizes, system, keeps, follows.done again⟩

/-- The name of a primary key's index: the table's name, and behind it those of all indexes. -/
def plainKeyName (schema : Schema) (table : String) : String :=
  table ++ "_pkey" ++ String.ofList (schema.indexes.map (·.1.toList)).flatten

theorem plainKeyName_fresh (schema : Schema) (table : String) :
    schema.indexes.contains (plainKeyName schema table) = false := by
  rw [Fields.contains, Option.isSome_eq_false_iff, Option.isNone_iff_eq_none, Fields.get?_eq_none]
  intro member
  obtain ⟨index, there, same⟩ := List.mem_map.mp member
  have listed : index.1.toList ∈ schema.indexes.map (·.1.toList) := List.mem_map.mpr ⟨_, there, rfl⟩
  have bounded := (List.sublist_flatten_of_mem listed).length_le
  have longer := congrArg String.length same
  simp only [plainKeyName, String.length_append, String.length_ofList] at longer
  have suffix : "_pkey".length = 5 := rfl
  rw [String.length_toList] at bounded
  omega

/-- A server that names the index of a primary key after the table, and refuses nothing. -/
def plainKeeper : Keeper where
  sharesNames := true
  keyName := plainKeyName
  fresh := plainKeyName_fresh
  refuses _ _ := none

/-- Players with their names, and an index by name. -/
def rankedTable : Table :=
  ⟨"Player", [⟨"name", .text⟩, ⟨"id", .integer⟩], [⟨"by_name", [("name", .ascending)], false⟩]⟩

/-- A schema where players have no names. -/
def namelessSchema : Schema :=
  ⟨[("Player", [("id", .text), ("score", .bigint)])],
    [("Player_pkey", ⟨"Player", [("id", .ascending)], true⟩)]⟩

/-- Nothing has happened yet at a server with a schema. -/
def quiet (schema : Schema) : World (Session Schema) := ⟨0, .start schema⟩

theorem ensureTable_converges_ranked :
    let ensure := Connection.ensureTable
      ⟨backend plainKeeper.server, none, ⟨fun _ => "a", Instant.clampMilliseconds 0⟩⟩ rankedTable
    namelessSchema.Apart plainKeeper rankedTable ∧
    ∃ after, ensure.outcome (quiet namelessSchema) = (.ok (), after) ∧
      after.store.server.Realizes rankedTable ∧ namelessSchema.Keeps after.store.server ∧
      ensure.outcome after = (.ok (), after) := by
  intro ensure
  have apart : namelessSchema.Apart plainKeeper rankedTable := by
    refine ⟨fun index member stored there => ?_, fun _ => ⟨rfl, fun index member => ?_⟩⟩
    · cases List.mem_singleton.mp member
      cases there
    · cases List.mem_singleton.mp member
      exact ⟨by decide, rfl⟩
  have done : ((ensure.outcome (quiet namelessSchema)).1).toOption = some () := by decide +kernel
  rcases ensured : ensure.outcome (quiet namelessSchema) with ⟨_ | _, after⟩
  · rw [ensured] at done
    cases done
  · obtain ⟨realizes, -, keeps, again⟩ :=
      ensureTable_converges plainKeeper none _ rankedTable apart ensured
    exact ⟨apart, after, rfl, realizes, keeps, again⟩

end TwinStore.Postgres
