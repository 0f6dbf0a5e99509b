/-
**Before and after.** An update gives back the record as it was or as it is now. Its statements
differ in the name in front of the returned columns only: that of the locked copy, or that of the
table.

* `UpdateParts`: what the text of an update is made of. `UpdateParts.sql` is the text that gives
  back columns of the named relation. `UpdateParts.assigned?`, `UpdateParts.idOf` and
  `UpdateParts.returned` are its qualified columns.
* `Statement.exists_updateParts`: both statements have the same parts.
* `UpdateParts.Separates`: every qualified column means one relation, and a returned one the locked
  copy before and the updated record after the update.
* `snapshots_separate_iff`: so it is unless the class is called as the locked copy. Then both
  statements have one text, and the names in it stand for two relations.
-/

import TwinStore.Proofs.Sql.Projection
import TwinStore.Proofs.Sql.Reference
import TwinStore.Proofs.Text.Mark
import TwinStore.Proofs.Update

namespace TwinStore

open Sql Draft

/-! ### Parts of an update -/

/-- What an update is written with. A star among the columns stands for all of them. -/
structure UpdateParts where
  table : String
  assignments : String
  filter : String
  order : String
  columns : List (Option String)

namespace UpdateParts

/-- The columns of a relation. -/
def returnedText (parts : UpdateParts) (row : String) : String :=
  ", ".intercalate
    (parts.columns.map fun column => quoteName row ++ "." ++ column.elim "*" quoteName)

/-- The update that gives back columns of a relation. -/
def sql (parts : UpdateParts) (row : String) : String :=
  updateOneText (quoteName parts.table) parts.assignments parts.filter parts.order
    (parts.returnedText row)

/-- The parts are those of an update of the first match of a query. The filter stands behind the
arguments of the assignments. -/
structure Writes (parts : UpdateParts) (query : FindQuery) (update : UpdateSet)
    (table : Identifier) : Prop where
  named : query.table = .ok table
  called : parts.table = table.text
  assignments : (update.draft table).text 0 = .ok parts.assignments
  filter : query.whereDraft.text update.arguments.length = .ok parts.filter
  order : query.orderText = .ok parts.order
  columns : query.projection.listed = .ok parts.columns

/-- The scopes around the clauses of the update. -/
def scopes (parts : UpdateParts) : List Relations := [updateScope parts.table]

/-- The qualified columns of the assignments, as they are read off their text. -/
def assigned? (parts : UpdateParts) : Option (List Reference) := do
  let assigned ← assignments? parts.assignments.toList
  let formulas ← assigned.mapM fun entry => formula? entry.2
  return formulas.flatMap (Formula.references parts.scopes)

/-- The id of a row, by which the record is joined with the locked copy. -/
def idOf (parts : UpdateParts) (row : String) : Reference := ⟨row, some idName, parts.scopes⟩

/-- The returned columns. -/
def returned (parts : UpdateParts) (row : String) : List Reference :=
  parts.columns.map fun column => ⟨row, column, parts.scopes⟩

/-- Every qualified column of the two updates means one relation, and it is the right one. -/
structure Separates (parts : UpdateParts) : Prop where
  assigned : ∃ references, parts.assigned? = some references ∧
    ∀ reference ∈ references, reference.Means .updated ∨ reference.Means .items
  filter : Unqualified parts.filter
  order : Unqualified parts.order
  joined : (parts.idOf parts.table).Means .updated ∧ (parts.idOf oldRow.text).Means .locked
  before : ∀ reference ∈ parts.returned oldRow.text, reference.Means .locked
  after : ∀ reference ∈ parts.returned parts.table, reference.Means .updated

end UpdateParts

/-! ### Texts -/

/-- A name ends at the first quote behind it. -/
theorem quoteName_dot_inj {left right : Identifier} {text other : String}
    (same : quoteName left.text ++ "." ++ text = quoteName right.text ++ "." ++ other) :
    left = right := by
  have unquoted : ∀ identifier : Identifier, '"' ∉ identifier.text.toList :=
    fun identifier member => by cases Identifier.isIdentifierChar_of_mem member
  have chars := congrArg String.toList same
  simp only [String.toList_append, Token.toList_quoteName, List.cons_append, List.append_assoc,
    List.nil_append] at chars
  obtain ⟨names, -⟩ := first_unique (unquoted left) (unquoted right) (List.cons.inj chars).2
  cases left
  cases right
  cases String.toList_inj.mp names
  rfl

/-- A clause behind others. -/
theorem clauses_concat {parts : List String} {last : String}
    (some_ : parts.filter (fun part => part ≠ "") ≠ []) (written : last ≠ "") :
    clauses (parts ++ [last]) = clauses parts ++ " " ++ last := by
  have kept : [last].filter (fun part => part ≠ "") = [last] := by simp [written]
  rw [clauses, List.filter_append, kept,
    String.intercalate_append_of_ne_nil some_ (List.cons_ne_nil _ _), String.intercalate_singleton]
  rfl

/-- Updates of a table are told apart by what they give back. -/
theorem updateOneText_inj {table assignments filter order columns others : String}
    (written : columns ≠ "") (otherWritten : others ≠ "") :
    updateOneText table assignments filter order columns =
      updateOneText table assignments filter order others ↔ columns = others := by
  obtain ⟨front, some_, shape⟩ : ∃ front : List String,
      front.filter (fun part => part ≠ "") ≠ [] ∧ ∀ last,
        updateOneText table assignments filter order last = clauses (front ++ [last]) :=
    ⟨["UPDATE", table, "SET", assignments, "FROM", firstMatchText "*" table filter order, "AS",
      "\"__old__\"", "WHERE", table ++ ".\"id\" = \"__old__\".\"id\"", "RETURNING"], by simp,
      fun _ => rfl⟩
  rw [shape, shape, clauses_concat some_ written, clauses_concat some_ otherWritten,
    String.append_right_inj]

namespace UpdateParts

variable {parts : UpdateParts}

/-- The name of the relation comes first. -/
theorem exists_returnedText (some_ : parts.columns ≠ []) (row : String) :
    ∃ rest, parts.returnedText row = quoteName row ++ "." ++ rest := by
  obtain ⟨first, others, listed⟩ := List.exists_cons_of_ne_nil some_
  rw [returnedText, listed, List.map_cons]
  cases others with
  | nil => exact ⟨_, String.intercalate_singleton⟩
  | cons second rest =>
    rw [List.map_cons, String.intercalate_cons_cons, String.append_assoc, String.append_assoc]
    exact ⟨_, rfl⟩

/-- **The two updates have one text only if the relations are called alike.** -/
theorem sql_inj (some_ : parts.columns ≠ []) {left right : Identifier} :
    parts.sql left.text = parts.sql right.text ↔ left = right := by
  constructor
  · intro same
    obtain ⟨text, one⟩ := exists_returnedText some_ left.text
    obtain ⟨other, two⟩ := exists_returnedText some_ right.text
    have written : ∀ name text, quoteName name ++ "." ++ text ≠ "" := by
      intro name text empty
      have chars := congrArg String.toList empty
      rw [String.toList_append, String.toList_append, Token.toList_quoteName] at chars
      cases chars
    rw [sql, sql, one, two, updateOneText_inj (written _ _) (written _ _)] at same
    exact quoteName_dot_inj same
  · rintro rfl
    rfl

end UpdateParts

/-- The texts of parts that bind nothing. -/
theorem Token.textsFrom_plains {parts : List (List Token)}
    (plain : ∀ part ∈ parts, arguments part = []) (bound : Nat) :
    textsFrom bound parts = parts.map (render 0) := by
  induction parts with
  | nil => rfl
  | cons part rest step =>
    obtain ⟨first, later⟩ := List.forall_mem_cons.mp plain
    rw [textsFrom_plain rest first, step later, List.map_cons]

theorem render_qualified (row : Identifier) (token : Token) :
    Token.render 0 (qualified (some row) token) =
      quoteName row.text ++ "." ++ Token.render 0 [token] := by
  show Token.render 0 ([.name row] ++ ([.keyword .dot] ++ [token])) = _
  rw [Token.render_append, Token.render_append, Token.render_name, Token.render_word,
    String.append_assoc]
  rfl

/-- **The columns of a projection**, each of them behind the name of the relation. -/
theorem Projection.render_draft {projection : Projection} {columns : List (Option String)}
    (asked : projection.listed = .ok columns) (row : Identifier) :
    Token.render 0 (projection.draft (some row)).tokens =
      ", ".intercalate
        (columns.map fun column => quoteName row.text ++ "." ++ column.elim "*" quoteName) := by
  unfold Projection.listed at asked
  unfold Projection.draft
  cases fields : projection.columns? with
  | none =>
    rw [fields] at asked
    cases asked
    exact (render_qualified row (.keyword .star)).trans String.intercalate_singleton.symm
  | some names =>
    rw [fields] at asked
    obtain ⟨identifiers, requested, rfl⟩ := Result.map_eq_ok.mp asked
    have parts : identifiers.map (fun column => qualifierDraft (some row) ++ name column) =
        (identifiers.map fun column => qualified (some row) (.name column)).map ofTokens := by
      rw [List.map_map]
      exact List.map_congr_left fun column _ => draft_qualified (some row) (.name column)
    have plain : ∀ part ∈ identifiers.map fun column => qualified (some row) (.name column),
        Token.arguments part = [] := by
      intro part member
      obtain ⟨column, -, rfl⟩ := List.mem_map.mp member
      rfl
    simp only [requested]
    rw [parts, Draft.listed, joined_ofTokens]
    show Token.render 0 (List.intercalate [.keyword .comma] _) = _
    rw [Token.render_intercalate, Token.textsFrom_plains plain, List.map_map, List.map_map]
    refine congrArg (String.intercalate ", ") (List.map_congr_left fun column _ => ?_)
    rw [Function.comp_apply, render_qualified, Token.render_name]
    rfl

/-- A projection lists a column. -/
theorem Projection.listed_ne_nil {projection : Projection} {columns : List (Option String)}
    (asked : projection.listed = .ok columns) : columns ≠ [] := by
  unfold Projection.listed at asked
  cases fields : projection.columns? with
  | none =>
    rw [fields] at asked
    cases asked
    exact List.cons_ne_nil _ _
  | some names =>
    rw [fields] at asked
    obtain ⟨identifiers, requested, rfl⟩ := Result.map_eq_ok.mp asked
    obtain ⟨userFields, -, rfl⟩ := Option.map_eq_some_iff.mp fields
    exact mt List.map_eq_nil_iff.mp (requestedColumns_ne_nil requested (List.cons_ne_nil _ _))

/-! ### Statements -/

namespace Statement

variable {query : FindQuery} {update : UpdateSet} {statement : Statement}

/-- Only the columns at the end of an update depend on what is given back. -/
theorem exists_updateFront {table : Identifier} (named : query.table = .ok table)
    (update : UpdateSet) :
    ∃ front : List Draft, ∀ returning, updateOne query update returning =
      ofParts (front ++ [query.projection.draft (some (snapshot table returning))]) := by
  refine ⟨[words [.update], name table, words [.set], update.draft table, words [.from],
    firstMatch query table (words [.star]), words [.as], name oldRow, words [.where],
    columnOf table idColumn ++ words [.equals] ++ columnOf oldRow idColumn, words [.returning]],
    fun returning => ?_⟩
  rw [updateOne, named]
  rfl

/-- **An update that can be written can be written with either row**, and with the same parts. -/
theorem exists_updateParts {returning : Returning}
    (built : updateOne query update returning = .ok statement) :
    ∃ (table : Identifier) (parts : UpdateParts), parts.Writes query update table ∧
      ∀ row, ∃ other, updateOne query update row = .ok other ∧
        other.arguments = update.arguments ++ query.arguments ∧
        other.sql = parts.sql (snapshot table row).text := by
  obtain ⟨table, named, assigned, chosen, ordered, listed, -⟩ := render_updateOne built
  obtain ⟨columns, asked, -⟩ := Projection.reads (eq_ofTokens listed) 0
  obtain ⟨front, shape⟩ := exists_updateFront named update
  have sound := fault_of_built ((shape returning).symm.trans built)
  refine ⟨table, ⟨table.text, _, _, _, columns⟩,
    ⟨named, rfl, text_eq_ok.mpr ⟨assigned, rfl⟩, text_eq_ok.mpr ⟨chosen, rfl⟩,
      text_eq_ok.mpr ⟨ordered, rfl⟩, asked⟩, fun row => ?_⟩
  have rowSound : ∀ part ∈ front ++ [query.projection.draft (some (snapshot table row))],
      part.fault = none := by
    intro part member
    rcases List.mem_append.mp member with inFront | last
    · exact sound part (List.mem_append_left _ inFront)
    · rw [List.mem_singleton.mp last]
      exact Projection.fault_of_listed asked _
  obtain ⟨other, made⟩ := exists_ofParts rowSound
  have otherBuilt := (shape row).trans made
  obtain ⟨same, sameNamed, -, -, -, -, written⟩ := render_updateOne otherBuilt
  obtain rfl := Except.ok.inj (named.symm.trans sameNamed)
  rw [Projection.render_draft asked] at written
  exact ⟨other, otherBuilt, arguments_of_updateOne otherBuilt, written⟩

end Statement

/-! ### What the columns mean -/

/-- The expressions of assignments are read as those of operations. -/
theorem UpdateSet.Assigns.exists_formulas {table : Identifier} {bound : Nat}
    {update : List (String × UpdateOperation)} {assigned : List (String × List Piece)}
    (assigns : Assigns table bound update assigned) :
    ∃ formulas, (assigned.mapM fun entry => formula? entry.2) = some formulas ∧
      ∀ formula ∈ formulas, ∃ (operation : UpdateOperation) (column : Identifier) (place : Nat),
        formula = operation.formula (.column table.text column.text) (.argument place) := by
  induction assigns with
  | nil bound => exact ⟨[], rfl, nofun⟩
  | @cons bound field operation column expression rest others named drafted numbered later step =>
    obtain ⟨formulas, read, each⟩ := step
    have one := UpdateOperation.formula?_draft drafted bound
    refine ⟨_ :: formulas, ?_,
      List.forall_mem_cons.mpr ⟨⟨operation, column, bound + 1, rfl⟩, each⟩⟩
    rw [List.mapM_cons, one, read]
    rfl

namespace UpdateParts

variable {parts : UpdateParts} {query : FindQuery} {update : UpdateSet} {table : Identifier}

/-- The assignments of a table that is called otherwise mean its record, or items. -/
theorem Writes.assigned (writes : parts.Writes query update table) (some_ : update ≠ [])
    (apart : parts.table ≠ oldRow.text) :
    ∃ references, parts.assigned? = some references ∧
      ∀ reference ∈ references, reference.Means .updated ∨ reference.Means .items := by
  obtain ⟨sound, written⟩ := text_eq_ok.mp writes.assignments
  obtain ⟨assigned, read, assigns⟩ :=
    UpdateSet.assignments?_render (eq_ofTokens sound) some_ 0
  obtain ⟨formulas, each, meant⟩ := assigns.exists_formulas
  refine ⟨formulas.flatMap (Formula.references parts.scopes), ?_, fun reference member => ?_⟩
  · rw [assigned?, ← written, read]
    simp only [Option.bind_eq_bind, Option.bind_some, each]
    rfl
  · obtain ⟨formula, known, inside⟩ := List.mem_flatMap.mp member
    obtain ⟨operation, column, place, rfl⟩ := meant formula known
    rw [← writes.called] at inside
    exact UpdateOperation.means_of_references apart inside

/-- **A table that is not called as the locked copy is told apart from it.** -/
theorem Writes.separates (writes : parts.Writes query update table) (some_ : update ≠ [])
    (apart : parts.table ≠ oldRow.text) : parts.Separates where
  assigned := writes.assigned some_ apart
  filter := by
    obtain ⟨sound, written⟩ := text_eq_ok.mp writes.filter
    exact written ▸ query.unqualified_filter sound _
  order := by
    obtain ⟨-, written⟩ := text_eq_ok.mp writes.order
    exact written ▸ unqualified_order _
  joined := ⟨candidates_table apart, candidates_oldRow apart⟩
  before reference member := by
    obtain ⟨column, -, rfl⟩ := List.mem_map.mp member
    exact candidates_oldRow apart
  after reference member := by
    obtain ⟨column, -, rfl⟩ := List.mem_map.mp member
    exact candidates_table apart

/-- A name that the table shares with the locked copy stands for both. -/
theorem candidates_of_same (same : parts.table = oldRow.text) :
    ∀ reference ∈ parts.idOf parts.table :: parts.returned oldRow.text,
      candidates reference.relation reference.scopes = [.updated, .locked] := by
  refine List.forall_mem_cons.mpr ⟨?_, fun reference member => ?_⟩
  · rw [idOf, scopes, same]
    exact candidates_oldRow_self
  · obtain ⟨column, -, rfl⟩ := List.mem_map.mp member
    rw [scopes, same]
    exact candidates_oldRow_self

theorem Writes.separates_iff (writes : parts.Writes query update table) (some_ : update ≠ []) :
    parts.Separates ↔ table ≠ oldRow := by
  constructor
  · rintro separates rfl
    have both := candidates_of_same writes.called _ List.mem_cons_self
    cases both.symm.trans separates.joined.1
  · intro different
    refine writes.separates some_ fun same => different ?_
    obtain ⟨text, valid⟩ := table
    cases writes.called.symm.trans same
    rfl

end UpdateParts

/-- **Before and after.** A stamped update that can be written can be written with either row. The
two statements bind the same arguments, and their texts have the same parts and differ in nothing
but the name in front of the returned columns: that of the locked copy before, that of the table
after the update. Every qualified column means one relation, and a returned one that of its row,
exactly if the class is not called as the locked copy. If it is, both statements are one text, whose
names stand for the table and for the locked copy alike. -/
theorem snapshots_separate_iff {query : FindQuery} {update : UpdateSet} {now : Instant}
    {returning : Returning} {statement : Statement}
    (built : Statement.updateOne query (update.stamped now) returning = .ok statement) :
    ∃ (table : Identifier) (parts : UpdateParts) (before after : Statement),
      parts.Writes query (update.stamped now) table ∧
      Statement.updateOne query (update.stamped now) .before = .ok before ∧
      Statement.updateOne query (update.stamped now) .after = .ok after ∧
      before.arguments = after.arguments ∧
      before.sql = parts.sql oldRow.text ∧ after.sql = parts.sql table.text ∧
      (parts.Separates ↔ table ≠ oldRow) ∧
      (before.sql = after.sql ↔ table = oldRow) ∧
      (table = oldRow → ∀ reference ∈ parts.idOf parts.table :: parts.returned oldRow.text,
        candidates reference.relation reference.scopes = [.updated, .locked]) := by
  obtain ⟨table, parts, writes, either⟩ := Statement.exists_updateParts built
  obtain ⟨before, beforeBuilt, beforeBinds, beforeText⟩ := either .before
  obtain ⟨after, afterBuilt, afterBinds, afterText⟩ := either .after
  refine ⟨table, parts, before, after, writes, beforeBuilt, afterBuilt,
    beforeBinds.trans afterBinds.symm, beforeText, afterText,
    writes.separates_iff (update.stamped_ne_nil now), ?_, ?_⟩
  · have some_ := Projection.listed_ne_nil writes.columns
    rw [beforeText, afterText, UpdateParts.sql_inj some_]
    exact eq_comm
  · rintro rfl
    exact UpdateParts.candidates_of_same writes.called

/-- Those called John in a class. -/
def FindQuery.johnsOf (className : String) : FindQuery :=
  { FindQuery.empty with
    className := some className
    filters := [.compare "name" .equal (.text "John")] }

/-- A class that is called as the items of an array are: neither hides the other one. -/
theorem snapshots_separate_iff_items :
    ∃ (update : UpdateSet) (parts : UpdateParts) (statement before after : Statement),
      update = UpdateSet.stamped [("tags", .removeAll (.array [.text "new"]))]
        (Instant.clampMilliseconds 1700000000000) ∧
      Statement.updateOne (.johnsOf "e") update .before = .ok statement ∧
      before.sql = parts.sql "__old__" ∧ after.sql = parts.sql "e" ∧ parts.Separates ∧
      before.sql ≠ after.sql := by
  obtain ⟨table, parts, before, after, writes, -, -, -, old, new, separates, same, -⟩ :=
    @snapshots_separate_iff (.johnsOf "e") [("tags", .removeAll (.array [.text "new"]))]
      (Instant.clampMilliseconds 1700000000000) .before _ rfl
  obtain rfl : table = ⟨"e", by decide⟩ := Except.ok.inj (writes.named.symm.trans rfl)
  have different : (⟨"e", by decide⟩ : Identifier) ≠ oldRow := by decide
  exact ⟨_, parts, _, before, after, rfl, rfl, old, new, separates.mpr different,
    mt same.mp different⟩

/-- The class that is called as the locked copy: before and after are one statement, and its names
stand for no relation alone. -/
theorem not_snapshots_separate :
    ∃ (update : UpdateSet) (statement : Statement),
      update = UpdateSet.stamped [("age", .increment (.signed 5))]
        (Instant.clampMilliseconds 1700000000000) ∧
      (FindQuery.johnsOf "__old__").table = .ok oldRow ∧
      Statement.updateOne (.johnsOf "__old__") update .before = .ok statement ∧
      Statement.updateOne (.johnsOf "__old__") update .after = .ok statement ∧
      statement.sql =
        "UPDATE \"__old__\" SET \"age\" = COALESCE(\"__old__\".\"age\", 0) + $1, " ++
          "\"updated_at\" = $2 FROM (SELECT * FROM \"__old__\" WHERE \"name\" = $3 " ++
          "LIMIT 1 FOR UPDATE) AS \"__old__\" WHERE \"__old__\".\"id\" = \"__old__\".\"id\" " ++
          "RETURNING \"__old__\".*" ∧
      ¬∃ relation, Reference.Means ⟨"__old__", none, [updateScope "__old__"]⟩ relation := by
  refine ⟨_, _, rfl, rfl, rfl, rfl, by decide +kernel, ?_⟩
  rintro ⟨relation, means⟩
  cases relation <;> revert means <;> decide

end TwinStore
