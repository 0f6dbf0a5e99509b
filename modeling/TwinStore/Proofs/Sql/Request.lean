/-
**The statements that can be asked for.** All verbs in one type, and all definitions in another, so
that laws of every statement can be said and proved once.

* `Statement.Request.build` and `Statement.Definition.build` are the statements, or the reasons why
  there are none.
* `Statement.Request.arguments` are the operands of a verb, assignments before conditions.
* `Statement.Request.writes`: separators stand between the tokens of every statement, and it binds
  these arguments. `Statement.Definition.apart` is the same for definitions, which bind nothing.
-/

import TwinStore.Proofs.Identifier
import TwinStore.Proofs.Sql.Layout
import TwinStore.Sql.Definition

namespace TwinStore

open Draft

/-- The arguments of a query's filters. -/
def FindQuery.arguments (query : FindQuery) : List Argument :=
  query.predicate?.elim [] Predicate.arguments

theorem liftIdentifier_eq_ok {α : Type} {result : Except IdentifierError α} {value : α} :
    liftIdentifier result = .ok value ↔ result = .ok value :=
  Result.mapError_eq_ok

theorem tableOf_eq_ok {className : String} {table : Identifier} :
    tableOf className = .ok table ↔ table.text = className := by
  rw [tableOf, liftIdentifier_eq_ok, Identifier.ofText_eq_ok]

namespace Statement

/-- The verbs that are a statement each. -/
inductive Request where
  | count (query : FindQuery)
  | select (query : FindQuery)
  | updateOne (query : FindQuery) (update : UpdateSet) (returning : Returning)
  | deleteOne (query : FindQuery)
  | deleteAll (query : FindQuery)
  | insert (className : String) (plan : InsertPlan)

/-- The changes of tables and indexes. -/
inductive Definition where
  | createTable (table : Table)
  | addColumns (className : String) (columns : List Column)
  | dropTable (className : String)
  | dropColumns (className : String) (columns : List String)
  | createIndex (className : String) (index : TableIndex)
  | dropIndex (name : String)

/-- The statement of a verb. -/
def Request.build : Request → Except StoreError Statement
  | .count query => Statement.count query
  | .select query => Statement.select query
  | .updateOne query update returning => Statement.updateOne query update returning
  | .deleteOne query => Statement.deleteOne query
  | .deleteAll query => Statement.deleteAll query
  | .insert className plan => Statement.insert className plan

/-- The arguments of a verb, in the order in which it binds them. -/
def Request.arguments : Request → List Argument
  | .count query | .select query | .deleteOne query | .deleteAll query => query.arguments
  | .updateOne query update _ => update.arguments ++ query.arguments
  | .insert _ plan => (insertEntries plan).map fun entry => .ofColumn entry.2

/-- Counts the level of an item up that stands on a shelf and has not reached its end. -/
def sampleRequest : Request :=
  .updateOne
    { FindQuery.empty with
      className := some "Item"
      filters := [.compare "level" .less (.number (.signed 3)),
        .compare "place.shelf" .equal (.text "A")] }
    [("level", .increment (.signed 1))] .after

/-- The statement of a definition, unless there is nothing to define. -/
def Definition.build : Definition → Except StoreError (Option Statement)
  | .createTable table => (Statement.createTable table).map some
  | .addColumns className columns => Statement.addColumns className columns
  | .dropTable className => (Statement.dropTable className).map some
  | .dropColumns className columns => Statement.dropColumns className columns
  | .createIndex className index => (Statement.createIndex className index).map some
  | .dropIndex name => (Statement.dropIndex name).map some

/-! ### Statements from parts -/

theorem ofParts_eq_ok {parts : List Draft} {statement : Statement} :
    ofParts parts = .ok statement ↔ spaced parts = ofTokens statement.tokens := by
  rw [ofParts, ← finish_eq_ok, liftCompile]
  cases (spaced parts).finish with
  | error error => simp [Except.mapError, Except.map]
  | ok tokens =>
    obtain ⟨written⟩ := statement
    simp [Except.mapError, Except.map]

/-- A statement has no part with a fault. -/
theorem fault_of_built {parts : List Draft} {statement : Statement}
    (built : ofParts parts = .ok statement) : ∀ part ∈ parts, part.fault = none := by
  refine spaced_fault.mp ?_
  rw [ofParts_eq_ok.mp built]
  rfl

/-- Parts without faults form a statement. -/
theorem exists_ofParts {parts : List Draft} (sound : ∀ part ∈ parts, part.fault = none) :
    ∃ statement, ofParts parts = .ok statement := by
  refine ⟨⟨(spaced parts).tokens⟩, ?_⟩
  rw [ofParts, finish, spaced_fault.mpr sound]
  rfl

/-- **The statement of parts is apart and binds their arguments.** -/
theorem writes_of_parts {parts : List Draft} (bounds : List (List Argument))
    (writes : List.Forall₂ Writes parts bounds) {statement : Statement}
    (built : ofParts parts = .ok statement) :
    (ofTokens statement.tokens).Writes bounds.flatten := by
  rw [← ofParts_eq_ok.mp built]
  exact Writes.spaced writes

/-! ### Verbs -/

theorem whereDraft_writes (query : FindQuery) : query.whereDraft.Writes query.arguments :=
  Predicate.whereDraft_writes _

theorem firstMatch_writes (query : FindQuery) (table : Identifier) {columns : Draft}
    (writes : columns.Writes []) : (firstMatch query table columns).Writes query.arguments := by
  have parts : List.Forall₂ Writes
      [words [.select], columns, words [.from], name table, query.whereDraft,
        orderDraft query.sort, words [.limitOneForUpdate]]
      [[], [], [], [], query.arguments, [], []] := by
    simp [writes, whereDraft_writes, orderDraft_writes]
  rw [firstMatch]
  simpa using (Writes.spaced parts).parenthesized

theorem columnName_writes (field : String) :
    (withIdentifier (columnName field) name).Writes [] :=
  withIdentifier_writes writes_name

/-- **A verb's statement is apart and binds the operands of the verb.** -/
theorem Request.build_writes {request : Request} {statement : Statement}
    (built : request.build = .ok statement) :
    (ofTokens statement.tokens).Writes request.arguments := by
  cases request with
  | count query =>
    obtain ⟨table, -, parts⟩ := Result.bind_eq_ok.mp built
    have written := writes_of_parts [[], [], [], [], query.arguments]
      (by simp [whereDraft_writes]) parts
    simpa [Request.arguments] using written
  | select query =>
    obtain ⟨table, -, parts⟩ := Result.bind_eq_ok.mp built
    have written := writes_of_parts [[], [], [], [], query.arguments, [], []]
      (by simp [query.projection.draft_writes, whereDraft_writes, orderDraft_writes,
        query.window.draft_writes]) parts
    simpa [Request.arguments] using written
  | updateOne query update returning =>
    obtain ⟨table, -, parts⟩ := Result.bind_eq_ok.mp built
    have join :
        (columnOf table idColumn ++ words [.equals] ++ columnOf oldRow idColumn).Writes [] :=
      (columnOf_writes _ _).between [.equals] (columnOf_writes _ _) (by decide) (by decide)
    have picked := firstMatch_writes query table (writes_word .star)
    have written := writes_of_parts
      [[], [], [], update.arguments, [], query.arguments, [], [], [], [], [], []]
      (by simp [update.draft_writes table, picked, join, query.projection.draft_writes]) parts
    simpa [Request.arguments] using written
  | deleteOne query =>
    obtain ⟨table, -, parts⟩ := Result.bind_eq_ok.mp built
    have picked := (writes_name idColumn).between [.membership]
      (firstMatch_writes query table (writes_name idColumn)) (by decide) (by decide)
    rw [List.nil_append] at picked
    have written := writes_of_parts [[], [], [], query.arguments, [], []]
      (by simp [picked, query.projection.draft_writes]) parts
    simpa [Request.arguments] using written
  | deleteAll query =>
    obtain ⟨table, -, parts⟩ := Result.bind_eq_ok.mp built
    have written := writes_of_parts [[], [], query.arguments] (by simp [whereDraft_writes]) parts
    simpa [Request.arguments] using written
  | insert className plan =>
    obtain ⟨table, -, parts⟩ := Result.bind_eq_ok.mp built
    have columns : (listed ((insertEntries plan).map fun entry =>
        withIdentifier (columnName entry.1) name)).Writes [] := by
      refine Writes.listed_plain fun draft member => ?_
      obtain ⟨entry, -, rfl⟩ := List.mem_map.mp member
      exact columnName_writes entry.1
    have values : (listed ((insertEntries plan).map fun entry => columnArgument entry.2)).Writes
        (insert className plan).arguments := by
      have each := Writes.listed fun entry (_ : entry ∈ insertEntries plan) =>
        writes_argument (.ofColumn entry.2)
      rw [← List.map_eq_flatMap] at each
      exact each
    have written := writes_of_parts [[], [], [], [], (insert className plan).arguments, []]
      (by simp [columns.parenthesized, values.parenthesized]) parts
    simpa using written

/-! ### Definitions -/

theorem definition_writes {column : Column} {draft : Draft}
    (defined : column.definition = .ok draft) : draft.Writes [] := by
  obtain ⟨name, -, written⟩ := Result.bind_eq_ok.mp defined
  cases written
  exact (writes_name name).append_words _ (mayEnd_space _)

theorem systemDefinitions_write : ∀ draft ∈ systemDefinitions, draft.Writes [] := by
  intro draft member
  simp only [systemDefinitions, List.mem_cons, List.not_mem_nil, or_false] at member
  rcases member with rfl | rfl | rfl
  · exact (writes_name idColumn).append_words _ (by decide)
  · exact (writes_name createdColumn).append_words _ (by decide)
  · exact (writes_name updatedColumn).append_words _ (by decide)

theorem indexColumnDraft_writes {name : String} {order : SortOrder} {draft : Draft}
    (drafted : indexColumnDraft name order = .ok draft) : draft.Writes [] := by
  obtain ⟨column, -, written⟩ := Result.bind_eq_ok.mp drafted
  cases written
  exact (writes_name column).append_words _ (mayEnd_space _)

theorem alterTable_writes {className : String} {changes : List Draft}
    (writes : ∀ change ∈ changes, change.Writes []) {statement : Statement}
    (built : alterTable className changes = .ok (some statement)) :
    (ofTokens statement.tokens).Writes [] := by
  unfold alterTable at built
  split at built
  · cases built
  · obtain ⟨table, -, more⟩ := Result.bind_eq_ok.mp built
    obtain ⟨made, parts, same⟩ := Result.bind_eq_ok.mp more
    cases same
    exact writes_of_parts [[], [], []] (by simp [Writes.listed_plain writes]) parts

/-- **A definition's statement is apart and binds nothing.** -/
theorem Definition.build_writes {definition : Definition} {statement : Statement}
    (built : definition.build = .ok (some statement)) :
    (ofTokens statement.tokens).Writes [] := by
  cases definition with
  | createTable table =>
    obtain ⟨made, written, same⟩ := Result.map_eq_ok.mp built
    cases same
    obtain ⟨definitions, drafted, more⟩ := Result.bind_eq_ok.mp written
    obtain ⟨name, -, parts⟩ := Result.bind_eq_ok.mp more
    have columns : ∀ draft ∈ systemDefinitions ++ definitions, draft.Writes [] := by
      intro draft member
      rcases List.mem_append.mp member with system | user
      · exact systemDefinitions_write draft system
      · obtain ⟨column, -, defined⟩ := Result.exists_of_mem_results drafted user
        exact definition_writes defined
    have listed := (Writes.listed_plain columns).parenthesized
    exact writes_of_parts [[], [], []] (by simp [listed]) parts
  | addColumns className columns =>
    obtain ⟨additions, drafted, altered⟩ := Result.bind_eq_ok.mp built
    refine alterTable_writes (fun addition member => ?_) altered
    obtain ⟨column, -, added⟩ := Result.exists_of_mem_results drafted member
    obtain ⟨draft, defined, written⟩ := Result.bind_eq_ok.mp added
    cases written
    exact (definition_writes defined).words_append _ (by decide)
  | dropTable className =>
    obtain ⟨made, written, same⟩ := Result.map_eq_ok.mp built
    cases same
    obtain ⟨table, -, parts⟩ := Result.bind_eq_ok.mp written
    exact writes_of_parts [[], []] (by simp) parts
  | dropColumns className columns =>
    obtain ⟨drops, drafted, altered⟩ := Result.bind_eq_ok.mp built
    refine alterTable_writes (fun drop member => ?_) altered
    obtain ⟨column, -, dropped⟩ := Result.exists_of_mem_results drafted member
    obtain ⟨name, -, written⟩ := Result.bind_eq_ok.mp dropped
    cases written
    exact (writes_name name).words_append _ (by decide)
  | createIndex className index =>
    obtain ⟨made, written, same⟩ := Result.map_eq_ok.mp built
    cases same
    unfold Statement.createIndex at written
    by_cases none : index.columns = []
    · rw [if_pos none] at written
      cases written
    · rw [if_neg none] at written
      obtain ⟨columns, drafted, more⟩ := Result.bind_eq_ok.mp written
      obtain ⟨name, -, more⟩ := Result.bind_eq_ok.mp more
      obtain ⟨table, -, parts⟩ := Result.bind_eq_ok.mp more
      have plain : ∀ draft ∈ columns, draft.Writes [] := by
        intro draft member
        obtain ⟨column, -, one⟩ := Result.exists_of_mem_results drafted member
        exact indexColumnDraft_writes one
      have listed := (Writes.listed_plain plain).parenthesized
      exact writes_of_parts [[], [], [], [], []] (by simp [listed]) parts
  | dropIndex name =>
    obtain ⟨made, written, same⟩ := Result.map_eq_ok.mp built
    cases same
    obtain ⟨identifier, -, parts⟩ := Result.bind_eq_ok.mp written
    exact writes_of_parts [[], []] (by simp) parts

end Statement

end TwinStore
