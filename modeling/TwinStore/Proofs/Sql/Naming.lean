/-
**The names behind a statement.** There is no statement for a name that is no identifier.

* `MatchesPath`: identifiers that are joined by dots.
* `Request.WellNamed` and `Definition.WellNamed`: the names that a statement has to write are
  identifiers, and the fields of conditions and orders are paths.
* `Request.wellNamed_of_built` and `Definition.wellNamed_of_built`: so are they behind a statement.
-/

import TwinStore.Proofs.Predicate
import TwinStore.Proofs.Sql.Request

namespace TwinStore

open Draft

/-! ### Paths -/

/-- Identifiers, at least one, that are joined by dots. -/
def MatchesPath (text : List Char) : Prop :=
  ∃ segments, segments ≠ [] ∧ (∀ segment ∈ segments, MatchesIdentifier segment) ∧
    text = List.intercalate ['.'] segments

theorem matches_of_columnName {field : String} {column : Identifier}
    (named : columnName field = .ok column) : MatchesIdentifier field.toList := by
  rw [columnName_eq_ok] at named
  rw [← isIdentifier_iff_matches]
  split at named
  · next same =>
    rw [same]
    decide
  · exact named ▸ column.valid

theorem matches_of_table {className : String} {table : Identifier}
    (named : tableOf className = .ok table) : MatchesIdentifier className.toList :=
  isIdentifier_iff_matches.mp (tableOf_eq_ok.mp named ▸ table.valid)

/-- **A field that is read is a path.** -/
theorem matchesPath_of_ofText {field : String} {reference : FieldReference}
    (read : FieldReference.ofText field = .ok reference) : MatchesPath field.toList := by
  obtain ⟨column, head, more⟩ := Result.bind_eq_ok.mp read
  obtain ⟨path, tail, -⟩ := Result.bind_eq_ok.mp more
  obtain ⟨first, rest, split⟩ := List.exists_cons_of_ne_nil (splitDots_ne_nil field.toList)
  refine ⟨splitDots field.toList, splitDots_ne_nil _, ?_, (intercalate_splitDots _).symm⟩
  rw [fieldHead, fieldSegments, split] at head
  rw [fieldSegments, split] at tail
  rw [split]
  intro segment member
  rcases List.mem_cons.mp member with rfl | later
  · have matched := matches_of_columnName head
    rwa [List.map_cons, List.headD_cons, String.toList_ofList] at matched
  · obtain ⟨identifier, checked⟩ := Result.exists_of_mem_items tail (List.mem_map_of_mem later)
    rw [Identifier.ofText_eq_ok] at checked
    have matched := isIdentifier_iff_matches.mp identifier.valid
    rwa [checked, String.toList_ofList] at matched

/-! ### Filters, orders and updates -/

theorem Condition.matchesPath_of_fault {condition : Condition}
    (sound : condition.draft.fault = none) : MatchesPath condition.field.toList := by
  unfold Condition.draft at sound
  split at sound
  · next reference read => exact matchesPath_of_ofText read
  · cases sound

namespace Predicate

mutual

/-- Every condition of a predicate without a fault is on a path. -/
theorem matchesPath_of_fault : ∀ predicate : Predicate, predicate.draft.fault = none →
    ∀ condition ∈ predicate.conditions, MatchesPath condition.field.toList
  | .condition test, sound => by
    rw [draft] at sound
    rw [conditions, List.forall_mem_singleton]
    exact test.matchesPath_of_fault sound
  | .group _ [], _ => nofun
  | .group _ [member], sound => by
    rw [draft] at sound
    rw [conditions, conditionsOfAll, conditionsOfAll, List.append_nil]
    exact matchesPath_of_fault member sound
  | .group connective (first :: second :: rest), sound => by
    rw [draft_group] at sound
    rw [conditions]
    exact matchesPath_of_faults _ (joined_fault.mp (parenthesized_fault.mp sound))
  | .negation inner, sound => by
    rw [draft, append_fault, append_fault] at sound
    rw [conditions]
    exact matchesPath_of_fault inner sound.1.2

theorem matchesPath_of_faults : ∀ members : List Predicate,
    (∀ draft ∈ drafts members, draft.fault = none) →
    ∀ condition ∈ conditionsOfAll members, MatchesPath condition.field.toList
  | [], _ => nofun
  | member :: rest, sound => by
    rw [drafts, List.forall_mem_cons] at sound
    rw [conditionsOfAll, List.forall_mem_append]
    exact ⟨matchesPath_of_fault member sound.1, matchesPath_of_faults rest sound.2⟩

end

end Predicate

/-- The fields that a query's conditions are on. -/
def FindQuery.conditionFields (query : FindQuery) : List String :=
  query.filters.flatMap fun filter => filter.conditions.map Condition.field

theorem FindQuery.matchesPath_of_fault {query : FindQuery} (sound : query.whereDraft.fault = none) :
    ∀ field ∈ query.conditionFields, MatchesPath field.toList := by
  have all : ∀ condition ∈ Predicate.conditionsOfAll query.filters,
      MatchesPath condition.field.toList := by
    rw [FindQuery.whereDraft, FindQuery.predicate?] at sound
    generalize query.filters = filters at sound
    cases filters with
    | nil =>
      intro condition none
      cases none
    | cons filter others =>
      cases others with
      | nil =>
        rw [Predicate.conditionsOfAll, Predicate.conditionsOfAll, List.append_nil]
        exact filter.matchesPath_of_fault (append_fault.mp sound).2
      | cons second rest => exact Predicate.matchesPath_of_fault _ (append_fault.mp sound).2
  intro field member
  obtain ⟨filter, known, inside⟩ := List.mem_flatMap.mp member
  obtain ⟨condition, one, rfl⟩ := List.mem_map.mp inside
  exact all condition (Predicate.mem_conditionsOfAll.mpr ⟨filter, known, one⟩)

theorem matchesPath_of_orderDraft {sort : SortList} (sound : (orderDraft sort).fault = none) :
    ∀ field ∈ sort.map Prod.fst, MatchesPath field.toList := by
  cases sort with
  | nil => nofun
  | cons first rest =>
    have keys := joined_fault.mp (append_fault.mp sound).2
    intro field member
    obtain ⟨⟨name, order⟩, known, rfl⟩ := List.mem_map.mp member
    have key := keys (sortKeyDraft name order) (List.mem_map.mpr ⟨_, known, rfl⟩)
    unfold sortKeyDraft at key
    split at key
    · next reference read => exact matchesPath_of_ofText read
    · cases key

theorem UpdateSet.matches_of_fault {update : UpdateSet} {table : Identifier}
    (sound : (update.draft table).fault = none) :
    ∀ field ∈ update.map Prod.fst, MatchesIdentifier field.toList := by
  intro field member
  obtain ⟨⟨name, operation⟩, known, rfl⟩ := List.mem_map.mp member
  have assignment :=
    joined_fault.mp sound (assignmentDraft table name operation) (List.mem_map.mpr ⟨_, known, rfl⟩)
  unfold assignmentDraft at assignment
  split at assignment
  · cases assignment
  · obtain ⟨column, named, -⟩ := withIdentifier_fault.mp assignment
    exact matches_of_columnName named

/-! ### Verbs -/

namespace Statement

namespace Request

/-- The names that have to be identifiers: the class, and the fields that are written. -/
def names : Request → List String
  | .count query | .select query | .deleteOne query | .deleteAll query => query.className.toList
  | .updateOne query update _ => query.className.toList ++ update.map Prod.fst
  | .insert className plan =>
    className :: (plan.fields.filter fun entry => !entry.2.isNull).map Prod.fst

/-- The fields that have to be paths: those of conditions, and those of an order if it is
written. -/
def paths : Request → List String
  | .count query | .deleteAll query => query.conditionFields
  | .select query | .updateOne query _ _ | .deleteOne query =>
    query.conditionFields ++ query.sort.map Prod.fst
  | .insert _ _ => []

def WellNamed (request : Request) : Prop :=
  (∀ name ∈ request.names, MatchesIdentifier name.toList) ∧
    ∀ path ∈ request.paths, MatchesPath path.toList

end Request

theorem matches_of_queryTable {query : FindQuery} {table : Identifier}
    (named : query.table = .ok table) :
    ∀ name ∈ query.className.toList, MatchesIdentifier name.toList := by
  obtain ⟨className, required, checked⟩ := Result.bind_eq_ok.mp named
  unfold FindQuery.requireClass at required
  split at required
  · next name same =>
    cases required
    rw [same]
    exact fun other member => List.mem_singleton.mp member ▸ matches_of_table checked
  · cases required

theorem matchesPath_of_firstMatch {query : FindQuery} {table : Identifier} {columns : Draft}
    (sound : (firstMatch query table columns).fault = none) :
    ∀ path ∈ query.conditionFields ++ query.sort.map Prod.fst, MatchesPath path.toList := by
  have parts := spaced_fault.mp (parenthesized_fault.mp sound)
  rw [List.forall_mem_append]
  exact ⟨query.matchesPath_of_fault (parts _ (by simp)),
    matchesPath_of_orderDraft (parts _ (by simp))⟩

/-- Every entry of an insertion has a column. -/
theorem column_of_insert {className : String} {plan : InsertPlan} {statement : Statement}
    (built : Statement.insert className plan = .ok statement) :
    ∀ entry ∈ insertEntries plan, ∃ column, columnName entry.1 = .ok column := by
  obtain ⟨table, -, parts⟩ := Result.bind_eq_ok.mp built
  have columns := parenthesized_fault.mp (fault_of_built parts _
    (List.mem_cons_of_mem _ (List.mem_cons_of_mem _ List.mem_cons_self)))
  intro entry member
  obtain ⟨column, called, -⟩ := withIdentifier_fault.mp
    (joined_fault.mp columns _ (List.mem_map_of_mem member))
  exact ⟨column, called⟩

/-- **Behind the statement of a verb all names are in order.** -/
theorem Request.wellNamed_of_built {request : Request} {statement : Statement}
    (built : request.build = .ok statement) : request.WellNamed := by
  cases request with
  | count query =>
    obtain ⟨table, named, parts⟩ := Result.bind_eq_ok.mp built
    have sound := fault_of_built parts
    exact ⟨matches_of_queryTable named, query.matchesPath_of_fault (sound _ (by simp))⟩
  | select query =>
    obtain ⟨table, named, parts⟩ := Result.bind_eq_ok.mp built
    have sound := fault_of_built parts
    refine ⟨matches_of_queryTable named, List.forall_mem_append.mpr ⟨?_, ?_⟩⟩
    · exact query.matchesPath_of_fault (sound _ (by simp))
    · exact matchesPath_of_orderDraft (sound _ (by simp))
  | updateOne query update returning =>
    obtain ⟨table, named, parts⟩ := Result.bind_eq_ok.mp built
    have sound := fault_of_built parts
    refine ⟨List.forall_mem_append.mpr ⟨matches_of_queryTable named, ?_⟩, ?_⟩
    · exact UpdateSet.matches_of_fault (sound (update.draft table) (by simp))
    · exact matchesPath_of_firstMatch (sound (firstMatch query table (words [.star])) (by simp))
  | deleteOne query =>
    obtain ⟨table, named, parts⟩ := Result.bind_eq_ok.mp built
    have picked := fault_of_built parts
      (name idColumn ++ words [.membership] ++ firstMatch query table (name idColumn)) (by simp)
    exact ⟨matches_of_queryTable named, matchesPath_of_firstMatch (append_fault.mp picked).2⟩
  | deleteAll query =>
    obtain ⟨table, named, parts⟩ := Result.bind_eq_ok.mp built
    have sound := fault_of_built parts
    exact ⟨matches_of_queryTable named, query.matchesPath_of_fault (sound _ (by simp))⟩
  | insert className plan =>
    obtain ⟨table, named, -⟩ := Result.bind_eq_ok.mp built
    refine ⟨List.forall_mem_cons.mpr ⟨matches_of_table named, ?_⟩, nofun⟩
    intro name member
    obtain ⟨entry, inside, rfl⟩ := List.mem_map.mp member
    obtain ⟨column, called⟩ := column_of_insert built entry (List.mem_append_right _ inside)
    exact matches_of_columnName called

/-! ### Definitions -/

/-- The names that a change of columns writes. Where nothing changes, no table is written. -/
def alteredNames (className : String) : List String → List String
  | [] => []
  | columns => className :: columns

namespace Definition

/-- The names that have to be identifiers. -/
def names : Definition → List String
  | .createTable table => table.name :: table.userColumns.map Column.name
  | .addColumns className columns =>
    alteredNames className ((columns.filter fun column => !isReserved column.name).map Column.name)
  | .dropTable className => [className]
  | .dropColumns className columns => alteredNames className columns
  | .createIndex className index => className :: index.name :: index.columns.map Prod.fst
  | .dropIndex name => [name]

def WellNamed (definition : Definition) : Prop :=
  ∀ name ∈ definition.names, MatchesIdentifier name.toList

end Definition

theorem matches_of_definedColumn {name : String} {column : Identifier}
    (defined : definedColumn name = .ok column) : MatchesIdentifier name.toList :=
  matches_of_columnName (liftIdentifier_eq_ok.mp defined)

theorem matches_of_definition {column : Column} {draft : Draft}
    (defined : column.definition = .ok draft) : MatchesIdentifier column.name.toList := by
  obtain ⟨name, called, -⟩ := Result.bind_eq_ok.mp defined
  exact matches_of_definedColumn called

theorem matches_of_alterTable {className : String} {columns : List String} {changes : List Draft}
    {result : Option Statement} (same : columns.length = changes.length)
    (matched : ∀ column ∈ columns, MatchesIdentifier column.toList)
    (built : alterTable className changes = .ok result) :
    ∀ name ∈ alteredNames className columns, MatchesIdentifier name.toList := by
  cases columns with
  | nil => nofun
  | cons first rest =>
    unfold alterTable at built
    split at built
    · cases same
    · obtain ⟨table, named, -⟩ := Result.bind_eq_ok.mp built
      exact List.forall_mem_cons.mpr ⟨matches_of_table named, matched⟩

/-- **Behind the statement of a definition all names are in order.** -/
theorem Definition.wellNamed_of_built {definition : Definition} {result : Option Statement}
    (built : definition.build = .ok result) : definition.WellNamed := by
  cases definition with
  | createTable table =>
    obtain ⟨made, written, -⟩ := Result.map_eq_ok.mp built
    obtain ⟨definitions, drafted, more⟩ := Result.bind_eq_ok.mp written
    obtain ⟨name, named, -⟩ := Result.bind_eq_ok.mp more
    refine List.forall_mem_cons.mpr ⟨matches_of_table named, ?_⟩
    intro name member
    obtain ⟨column, known, rfl⟩ := List.mem_map.mp member
    obtain ⟨draft, defined⟩ := Result.exists_of_mem_items drafted known
    exact matches_of_definition defined
  | addColumns className columns =>
    obtain ⟨additions, drafted, altered⟩ := Result.bind_eq_ok.mp built
    refine matches_of_alterTable ?_ ?_ altered
    · rw [List.length_map, (Result.mapM_eq_ok.mp drafted).length_eq]
    · intro name member
      obtain ⟨column, known, rfl⟩ := List.mem_map.mp member
      obtain ⟨addition, added⟩ := Result.exists_of_mem_items drafted known
      obtain ⟨draft, defined, -⟩ := Result.bind_eq_ok.mp added
      exact matches_of_definition defined
  | dropTable className =>
    obtain ⟨made, written, -⟩ := Result.map_eq_ok.mp built
    obtain ⟨table, named, -⟩ := Result.bind_eq_ok.mp written
    exact List.forall_mem_singleton.mpr (matches_of_table named)
  | dropColumns className columns =>
    obtain ⟨drops, drafted, altered⟩ := Result.bind_eq_ok.mp built
    refine matches_of_alterTable (Result.mapM_eq_ok.mp drafted).length_eq ?_ altered
    intro column known
    obtain ⟨drop, dropped⟩ := Result.exists_of_mem_items drafted known
    obtain ⟨name, called, -⟩ := Result.bind_eq_ok.mp dropped
    exact matches_of_definedColumn called
  | createIndex className index =>
    obtain ⟨made, written, -⟩ := Result.map_eq_ok.mp built
    unfold Statement.createIndex at written
    by_cases none : index.columns = []
    · rw [if_pos none] at written
      cases written
    · rw [if_neg none] at written
      obtain ⟨columns, drafted, more⟩ := Result.bind_eq_ok.mp written
      obtain ⟨name, named, more⟩ := Result.bind_eq_ok.mp more
      obtain ⟨table, classNamed, -⟩ := Result.bind_eq_ok.mp more
      refine List.forall_mem_cons.mpr ⟨matches_of_table classNamed,
        List.forall_mem_cons.mpr ⟨matches_of_table named, ?_⟩⟩
      intro name member
      obtain ⟨⟨column, order⟩, known, rfl⟩ := List.mem_map.mp member
      obtain ⟨draft, one⟩ := Result.exists_of_mem_items drafted known
      obtain ⟨identifier, called, -⟩ := Result.bind_eq_ok.mp one
      exact matches_of_definedColumn called
  | dropIndex name =>
    obtain ⟨made, written, -⟩ := Result.map_eq_ok.mp built
    obtain ⟨identifier, named, -⟩ := Result.bind_eq_ok.mp written
    exact List.forall_mem_singleton.mpr (matches_of_table named)

end Statement

end TwinStore
