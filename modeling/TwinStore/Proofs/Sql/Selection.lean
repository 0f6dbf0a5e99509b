/-
**All verbs choose the same records.** The texts of the statements for one query, clause by clause.

* `clauses` joins the clauses that are there, and `Token.render_spaced` says that the parts of a
  statement are joined so.
* `countText`, `selectText`, `deleteAllText`, `deleteOneText` and `updateOneText` are the texts of
  the verbs, made of the clauses of a query; `firstMatchText` is the subquery in two of them.
* `verbs_choose_alike`: they hold one and the same filter and order. Only the filter of an update
  stands behind other arguments, those of its assignments.
-/

import TwinStore.Proofs.Sql.Renumbering
import TwinStore.Proofs.Sql.Request

namespace TwinStore

open Sql Draft

/-! ### Clauses -/

/-- The clauses that are there, with blanks between them. -/
def clauses (parts : List String) : String := " ".intercalate (parts.filter fun part => part ≠ "")

/-- A draft without a fault is its tokens. -/
theorem Draft.eq_ofTokens {draft : Draft} (sound : draft.fault = none) :
    draft = ofTokens draft.tokens := by
  obtain ⟨tokens, fault⟩ := draft
  cases sound
  rfl

theorem Draft.tokens_append {left right : Draft} (sound : left.fault = none) :
    (left ++ right).tokens = left.tokens ++ right.tokens := by
  obtain ⟨tokens, fault⟩ := left
  cases sound
  rfl

/-- The tokens of parts that are joined with blanks. -/
theorem Draft.tokens_of_spaced {drafts : List Draft} {tokens : List Token}
    (written : spaced drafts = ofTokens tokens) :
    tokens = List.intercalate [.keyword .space]
      ((drafts.map Draft.tokens).filter fun part => !part.isEmpty) := by
  have sound : ∀ draft ∈ drafts, draft.fault = none := by
    refine spaced_fault.mp ?_
    rw [written]
    rfl
  have plain : drafts = (drafts.map Draft.tokens).map ofTokens := by
    have each := List.map_congr_left fun draft member => eq_ofTokens (sound draft member)
    rw [List.map_map]
    exact (List.map_id' drafts).symm.trans each
  rw [plain, spaced_ofTokens, ofTokens_inj] at written
  exact written.symm

namespace Token

/-- The texts of tokens that stand one after the other, behind arguments that are bound already. -/
def textsFrom (bound : Nat) : List (List Token) → List String
  | [] => []
  | part :: rest => render bound part :: textsFrom (bound + (arguments part).length) rest

theorem spelling_ne_empty (word : Keyword) : word.spelling ≠ "" := by
  cases word <;> decide +kernel

theorem chars_ne_nil (token : Token) (number : Nat) : token.chars number ≠ [] := by
  cases token with
  | keyword word =>
    intro none
    exact spelling_ne_empty word (String.toList_eq_nil_iff.mp none)
  | name identifier =>
    rw [chars, toList_quoteName]
    exact List.cons_ne_nil _ _
  | path segments =>
    rw [chars_path]
    exact List.cons_ne_nil _ _
  | number value => exact Digits.ofNat_ne_nil _
  | argument bound => exact List.cons_ne_nil _ _

/-- Only no tokens at all have an empty text. -/
theorem render_eq_empty {bound : Nat} {tokens : List Token} :
    render bound tokens = "" ↔ tokens = [] := by
  constructor
  · intro empty
    cases tokens with
    | nil => rfl
    | cons token rest =>
      have none_ : charsFrom bound (token :: rest) = [] := String.ofList_eq_empty_iff.mp empty
      exact absurd (List.append_eq_nil_iff.mp none_).1 (token.chars_ne_nil _)
  · rintro rfl
    rfl

theorem render_append (bound : Nat) (left right : List Token) :
    render bound (left ++ right) =
      render bound left ++ render (bound + (arguments left).length) right := by
  rw [render, charsFrom_append, String.ofList_append]
  rfl

theorem render_word (bound : Nat) (word : Keyword) :
    render bound [.keyword word] = word.spelling := by
  rw [render, charsFrom, charsFrom, List.append_nil, chars, String.ofList_toList]

theorem render_name (bound : Nat) (identifier : Identifier) :
    render bound [.name identifier] = quoteName identifier.text := by
  rw [render, charsFrom, charsFrom, List.append_nil, chars, String.ofList_toList]

theorem render_intercalate (word : Keyword) (bound : Nat) (parts : List (List Token)) :
    render bound (List.intercalate [.keyword word] parts) =
      word.spelling.intercalate (textsFrom bound parts) := by
  induction parts generalizing bound with
  | nil => rfl
  | cons part rest step =>
    cases rest with
    | nil => rw [List.intercalate_singleton, textsFrom, textsFrom, String.intercalate_singleton]
    | cons second others =>
      have next := step (bound + (arguments part).length)
      have plain : arguments [.keyword word] = [] := rfl
      rw [List.intercalate_cons_cons, render_append, render_append, render_word, arguments_append,
        plain, List.append_nil]
      rw [textsFrom] at next ⊢
      rw [textsFrom, String.intercalate_cons_cons, ← next]

/-- Parts without a token are those without a text. -/
theorem textsFrom_filter (bound : Nat) (parts : List (List Token)) :
    textsFrom bound (parts.filter fun part => !part.isEmpty) =
      (textsFrom bound parts).filter fun text => text ≠ "" := by
  induction parts generalizing bound with
  | nil => rfl
  | cons part rest step =>
    cases part with
    | nil => exact step bound
    | cons token others =>
      have written : render bound (token :: others) ≠ "" :=
        fun empty => List.cons_ne_nil _ _ (render_eq_empty.mp empty)
      have kept : decide (render bound (token :: others) ≠ "") = true := decide_eq_true written
      rw [List.filter_cons_of_pos rfl, textsFrom, textsFrom, step, List.filter_cons, if_pos kept]

/-- **The parts of a statement are clauses.** -/
theorem render_spaced {drafts : List Draft} {tokens : List Token}
    (written : spaced drafts = ofTokens tokens) (bound : Nat) :
    render bound tokens = clauses (textsFrom bound (drafts.map Draft.tokens)) := by
  rw [tokens_of_spaced written, render_intercalate, textsFrom_filter]
  rfl

theorem render_parenthesized {draft : Draft} (sound : draft.fault = none) (bound : Nat) :
    render bound (parenthesized draft).tokens = "(" ++ render bound draft.tokens ++ ")" := by
  have opened : (words [.leftParenthesis] ++ draft).fault = none := append_fault.mpr ⟨rfl, sound⟩
  rw [parenthesized, tokens_append opened, tokens_append rfl, render_append, render_append]
  show render bound [.keyword .leftParenthesis] ++ _ ++ render _ [.keyword .rightParenthesis] = _
  rw [render_word, render_word]
  rfl

variable {bound : Nat} {part : List Token} (rest : List (List Token))

theorem textsFrom_word (word : Keyword) :
    textsFrom bound ((words [word]).tokens :: rest) = word.spelling :: textsFrom bound rest := by
  show render bound [.keyword word] :: _ = _
  rw [render_word]
  rfl

theorem textsFrom_name (identifier : Identifier) :
    textsFrom bound ((Draft.name identifier).tokens :: rest) =
      quoteName identifier.text :: textsFrom bound rest := by
  show render bound [.name identifier] :: _ = _
  rw [render_name]
  rfl

/-- A part that binds nothing is written alike everywhere. -/
theorem textsFrom_plain (plain : arguments part = []) :
    textsFrom bound (part :: rest) = render 0 part :: textsFrom bound rest := by
  rw [textsFrom, plain, render_of_plain plain]
  rfl

end Token

/-! ### The texts of verbs -/

def countText (table filter : String) : String :=
  clauses ["SELECT", "COUNT(*)", "FROM", table, filter]

def selectText (columns table filter order window : String) : String :=
  clauses ["SELECT", columns, "FROM", table, filter, order, window]

/-- The subquery that picks and locks the first match. -/
def firstMatchText (columns table filter order : String) : String :=
  "(" ++ clauses ["SELECT", columns, "FROM", table, filter, order, "LIMIT 1 FOR UPDATE"] ++ ")"

def updateOneText (table assignments filter order columns : String) : String :=
  clauses
    ["UPDATE", table, "SET", assignments, "FROM", firstMatchText "*" table filter order, "AS",
      "\"__old__\"", "WHERE", table ++ ".\"id\" = \"__old__\".\"id\"", "RETURNING", columns]

def deleteOneText (table filter order columns : String) : String :=
  clauses
    ["DELETE FROM", table, "WHERE", "\"id\" IN " ++ firstMatchText "\"id\"" table filter order,
      "RETURNING", columns]

def deleteAllText (table filter : String) : String := clauses ["DELETE FROM", table, filter]

/-- The filter of a query with its arguments, as a generator writes it first. -/
def FindQuery.selection (query : FindQuery) : Generator × Except CompileError String :=
  Generator.empty.run (.whereClause query.predicate?)

/-- The order of a query. -/
def FindQuery.orderText (query : FindQuery) : Except CompileError String :=
  (orderDraft query.sort).text 0

/-- **A generator that writes a text** binds the operands of its call. -/
theorem Generator.run_of_text {generator : Generator} {call : GeneratorCall} {text : String}
    (written : call.draft.text generator.arguments.length = .ok text) :
    generator.run call = (⟨generator.arguments ++ call.arguments⟩, .ok text) := by
  obtain ⟨sound, rfl⟩ := text_eq_ok.mp written
  rw [run, call.draft_writes.binds sound]
  exact congrArg (Prod.mk _) written

namespace Statement

variable {query : FindQuery} {statement : Statement} {table : Identifier} {columns : Draft}

theorem fault_of_firstMatch (sound : (firstMatch query table columns).fault = none) :
    columns.fault = none ∧ query.whereDraft.fault = none ∧
      (orderDraft query.sort).fault = none := by
  have faultless := spaced_fault.mp (parenthesized_fault.mp sound)
  simp only [List.forall_mem_cons] at faultless
  obtain ⟨-, listed, -, -, chosen, ordered, -⟩ := faultless
  exact ⟨listed, chosen, ordered⟩

/-- **The first match** is picked by the filter and the order of its query. -/
theorem render_firstMatch (sound : (firstMatch query table columns).fault = none)
    (writes : columns.Writes []) (bound : Nat) :
    Token.render bound (firstMatch query table columns).tokens =
      firstMatchText (Token.render 0 columns.tokens) (quoteName table.text)
        (Token.render bound query.whereDraft.tokens)
        (Token.render 0 (orderDraft query.sort).tokens) := by
  have parts := parenthesized_fault.mp sound
  obtain ⟨listed, -, ordered⟩ := fault_of_firstMatch sound
  have plain := writes.binds listed
  have order := (orderDraft_writes query.sort).binds ordered
  rw [firstMatch, Token.render_parenthesized parts, Token.render_spaced (eq_ofTokens parts)]
  simp only [List.map_cons, Token.textsFrom_word, Token.textsFrom_name,
    Token.textsFrom_plain _ plain]
  rw [Token.textsFrom, Token.textsFrom_plain _ order, Token.textsFrom_word]
  rfl

/-- The clauses of a statement that was built. -/
theorem sql_of_parts {parts : List Draft} (built : ofParts parts = .ok statement) :
    statement.sql = clauses (Token.textsFrom 0 (parts.map Draft.tokens)) :=
  Token.render_spaced (ofParts_eq_ok.mp built) 0

/-- A query whose filter has no fault is written by a generator with its arguments. -/
theorem selection_of_sound (sound : query.whereDraft.fault = none) :
    query.selection =
      (⟨query.arguments⟩, .ok (Token.render 0 query.whereDraft.tokens)) :=
  @Generator.run_of_text .empty (.whereClause query.predicate?) _ (text_eq_ok.mpr ⟨sound, rfl⟩)

theorem sql_of_count (built : count query = .ok statement) :
    ∃ table filter, query.table = .ok table ∧
      query.selection = (⟨statement.arguments⟩, .ok filter) ∧
      statement.sql = countText (quoteName table.text) filter := by
  obtain ⟨table, named, parts⟩ := Result.bind_eq_ok.mp built
  have binds : statement.arguments = query.arguments :=
    (@Request.build_writes (.count query) _ built).binds rfl
  have faultless := fault_of_built parts
  simp only [List.forall_mem_cons] at faultless
  obtain ⟨-, -, -, -, sound, -⟩ := faultless
  refine ⟨table, _, named, binds ▸ selection_of_sound sound, ?_⟩
  rw [sql_of_parts parts]
  simp only [List.map_cons, Token.textsFrom_word, Token.textsFrom_name]
  rfl

theorem sql_of_deleteAll (built : deleteAll query = .ok statement) :
    ∃ table filter, query.table = .ok table ∧
      query.selection = (⟨statement.arguments⟩, .ok filter) ∧
      statement.sql = deleteAllText (quoteName table.text) filter := by
  obtain ⟨table, named, parts⟩ := Result.bind_eq_ok.mp built
  have binds : statement.arguments = query.arguments :=
    (@Request.build_writes (.deleteAll query) _ built).binds rfl
  have faultless := fault_of_built parts
  simp only [List.forall_mem_cons] at faultless
  obtain ⟨-, -, sound, -⟩ := faultless
  refine ⟨table, _, named, binds ▸ selection_of_sound sound, ?_⟩
  rw [sql_of_parts parts]
  simp only [List.map_cons, Token.textsFrom_word, Token.textsFrom_name]
  rfl

theorem sql_of_select (built : select query = .ok statement) :
    ∃ table filter order columns window, query.table = .ok table ∧
      query.selection = (⟨statement.arguments⟩, .ok filter) ∧ query.orderText = .ok order ∧
      (query.projection.draft none).text 0 = .ok columns ∧ query.window.draft.text 0 = .ok window ∧
      statement.sql = selectText columns (quoteName table.text) filter order window := by
  obtain ⟨table, named, parts⟩ := Result.bind_eq_ok.mp built
  have binds : statement.arguments = query.arguments :=
    (@Request.build_writes (.select query) _ built).binds rfl
  have faultless := fault_of_built parts
  simp only [List.forall_mem_cons] at faultless
  obtain ⟨-, listed, -, -, sound, ordered, cut, -⟩ := faultless
  refine ⟨table, _, _, _, _, named, binds ▸ selection_of_sound sound,
    text_eq_ok.mpr ⟨ordered, rfl⟩, text_eq_ok.mpr ⟨listed, rfl⟩, text_eq_ok.mpr ⟨cut, rfl⟩, ?_⟩
  have columns := (query.projection.draft_writes none).binds listed
  have order := (orderDraft_writes query.sort).binds ordered
  have window := query.window.draft_writes.binds cut
  rw [sql_of_parts parts]
  simp only [List.map_cons, Token.textsFrom_word, Token.textsFrom_name,
    Token.textsFrom_plain _ columns]
  rw [Token.textsFrom, Token.textsFrom_plain _ order, Token.textsFrom_plain _ window]
  rfl

theorem sql_of_deleteOne (built : deleteOne query = .ok statement) :
    ∃ table filter order columns, query.table = .ok table ∧
      query.selection = (⟨statement.arguments⟩, .ok filter) ∧ query.orderText = .ok order ∧
      (query.projection.draft none).text 0 = .ok columns ∧
      statement.sql = deleteOneText (quoteName table.text) filter order columns := by
  obtain ⟨table, named, parts⟩ := Result.bind_eq_ok.mp built
  have binds : statement.arguments = query.arguments :=
    (@Request.build_writes (.deleteOne query) _ built).binds rfl
  have faultless := fault_of_built parts
  simp only [List.forall_mem_cons, append_fault] at faultless
  obtain ⟨-, -, -, ⟨named_, picked⟩, -, listed, -⟩ := faultless
  obtain ⟨-, sound, ordered⟩ := fault_of_firstMatch picked
  refine ⟨table, _, _, _, named, binds ▸ selection_of_sound sound,
    text_eq_ok.mpr ⟨ordered, rfl⟩, text_eq_ok.mpr ⟨listed, rfl⟩, ?_⟩
  have columns := (query.projection.draft_writes none).binds listed
  have chosen : ∀ bound, Token.render bound
      (name idColumn ++ words [.membership] ++ firstMatch query table (name idColumn)).tokens =
        "\"id\" IN " ++ firstMatchText "\"id\"" (quoteName table.text)
          (Token.render bound query.whereDraft.tokens)
          (Token.render 0 (orderDraft query.sort).tokens) := by
    intro bound
    rw [tokens_append (append_fault.mpr named_), Token.render_append,
      render_firstMatch picked (writes_name idColumn)]
    rfl
  rw [sql_of_parts parts]
  simp only [List.map_cons, Token.textsFrom_word, Token.textsFrom_name]
  rw [Token.textsFrom, Token.textsFrom_word, Token.textsFrom_plain _ columns, chosen]
  rfl

/-- The row that an update gives back: the locked copy, or the record itself. -/
def snapshot (table : Identifier) : Returning → Identifier
  | .before => oldRow
  | .after => table

/-- An update is joined with the locked copy by the identity of the record. -/
theorem render_identity (table : Identifier) :
    Token.render 0
        (columnOf table idColumn ++ words [.equals] ++ columnOf oldRow idColumn).tokens =
      quoteName table.text ++ ".\"id\" = \"__old__\".\"id\"" := by
  show Token.render 0 ([.name table] ++ [.keyword .dot, .name idColumn, .keyword .equals,
    .name oldRow, .keyword .dot, .name idColumn]) = _
  rw [Token.render_append, Token.render_name]
  rfl

/-- **The text of an update**, whose parts have no faults. -/
theorem render_updateOne {update : UpdateSet} {returning : Returning}
    (built : updateOne query update returning = .ok statement) :
    ∃ table, query.table = .ok table ∧ (update.draft table).fault = none ∧
      query.whereDraft.fault = none ∧ (orderDraft query.sort).fault = none ∧
      (query.projection.draft (some (snapshot table returning))).fault = none ∧
      statement.sql = updateOneText (quoteName table.text)
        (Token.render 0 (update.draft table).tokens)
        (Token.render update.arguments.length query.whereDraft.tokens)
        (Token.render 0 (orderDraft query.sort).tokens)
        (Token.render 0 (query.projection.draft (some (snapshot table returning))).tokens) := by
  obtain ⟨table, named, parts⟩ := Result.bind_eq_ok.mp built
  have faultless := fault_of_built parts
  simp only [List.forall_mem_cons] at faultless
  obtain ⟨-, -, -, assigned, -, picked, -, -, -, -, -, listed, -⟩ := faultless
  obtain ⟨-, sound, ordered⟩ := fault_of_firstMatch picked
  refine ⟨table, named, assigned, sound, ordered, listed, ?_⟩
  have bound := (update.draft_writes table).binds assigned
  have columns := (query.projection.draft_writes _).binds listed
  have chosen := render_firstMatch picked (writes_word .star)
  have joined : Token.arguments
      (columnOf table idColumn ++ words [.equals] ++ columnOf oldRow idColumn).tokens = [] := rfl
  rw [sql_of_parts parts]
  simp only [List.map_cons, Token.textsFrom_word, Token.textsFrom_name]
  rw [Token.textsFrom, bound, Nat.zero_add, Token.textsFrom_word, Token.textsFrom, chosen]
  simp only [Token.textsFrom_word, Token.textsFrom_name, Token.textsFrom_plain _ columns,
    Token.textsFrom_plain _ joined, render_identity]
  rfl

/-- An update binds what its operations need, and what its query does. -/
theorem arguments_of_updateOne {update : UpdateSet} {returning : Returning}
    (built : updateOne query update returning = .ok statement) :
    statement.arguments = update.arguments ++ query.arguments :=
  (@Request.build_writes (.updateOne query update returning) _ built).binds rfl

theorem sql_of_updateOne {update : UpdateSet} {returning : Returning}
    (built : updateOne query update returning = .ok statement) :
    ∃ table row bound assignments selected filter own order columns, query.table = .ok table ∧
      Generator.empty.run (.setClause update table) = (⟨bound⟩, .ok assignments) ∧
      (Generator.mk bound).run (.whereClause query.predicate?) =
        (⟨statement.arguments⟩, .ok own) ∧
      query.selection = (⟨selected⟩, .ok filter) ∧ query.orderText = .ok order ∧
      (query.projection.draft (some row)).text 0 = .ok columns ∧
      renumbered? (· - bound.length) own = some filter ∧
      statement.arguments = bound ++ selected ∧
      statement.sql = updateOneText (quoteName table.text) assignments own order columns := by
  obtain ⟨table, named, assigned, sound, ordered, listed, written⟩ := render_updateOne built
  have binds := arguments_of_updateOne built
  have counts : ∀ index, update.arguments.length + 1 + index - update.arguments.length =
      0 + 1 + index := by
    omega
  have apart := (whereDraft_writes query).apart
  have own := @Generator.run_of_text ⟨update.arguments⟩ (.whereClause query.predicate?) _
    (text_eq_ok.mpr ⟨sound, rfl⟩)
  exact ⟨table, _, update.arguments, _, query.arguments, _, _, _, _, named,
    @Generator.run_of_text .empty (.setClause update table) _ (text_eq_ok.mpr ⟨assigned, rfl⟩),
    binds ▸ own, selection_of_sound sound, text_eq_ok.mpr ⟨ordered, rfl⟩,
    text_eq_ok.mpr ⟨listed, rfl⟩, Token.renumbered?_render apart counts, binds, written⟩

end Statement

/-! ### The choice of records -/

/-- **All verbs choose the same records.** Every statement for a query holds the filter that a
generator writes first, with its arguments in their order, and one and the same order. The filter of
an update stands behind the assignments: it becomes the same text once the numbers of its
placeholders are lowered by as many arguments as the assignments bind. A generator that holds
arguments writes every text as an empty one does, with numbers that are raised by as many, adds the
same arguments, and fails for the same reason. -/
theorem verbs_choose_alike :
    (∀ (query : FindQuery) (statement : Statement),
      (Statement.count query = .ok statement →
        ∃ table filter, query.table = .ok table ∧
          query.selection = (⟨statement.arguments⟩, .ok filter) ∧
          statement.sql = countText (quoteName table.text) filter) ∧
      (Statement.select query = .ok statement →
        ∃ table filter order columns window, query.table = .ok table ∧
          query.selection = (⟨statement.arguments⟩, .ok filter) ∧ query.orderText = .ok order ∧
          (query.projection.draft none).text 0 = .ok columns ∧
          query.window.draft.text 0 = .ok window ∧
          statement.sql = selectText columns (quoteName table.text) filter order window) ∧
      (Statement.deleteAll query = .ok statement →
        ∃ table filter, query.table = .ok table ∧
          query.selection = (⟨statement.arguments⟩, .ok filter) ∧
          statement.sql = deleteAllText (quoteName table.text) filter) ∧
      (Statement.deleteOne query = .ok statement →
        ∃ table filter order columns, query.table = .ok table ∧
          query.selection = (⟨statement.arguments⟩, .ok filter) ∧ query.orderText = .ok order ∧
          (query.projection.draft none).text 0 = .ok columns ∧
          statement.sql = deleteOneText (quoteName table.text) filter order columns) ∧
      ∀ (update : UpdateSet) (returning : Returning),
        Statement.updateOne query update returning = .ok statement →
          ∃ table row bound assignments selected filter own order columns,
            query.table = .ok table ∧
            Generator.empty.run (.setClause update table) = (⟨bound⟩, .ok assignments) ∧
            (Generator.mk bound).run (.whereClause query.predicate?) =
              (⟨statement.arguments⟩, .ok own) ∧
            query.selection = (⟨selected⟩, .ok filter) ∧ query.orderText = .ok order ∧
            (query.projection.draft (some row)).text 0 = .ok columns ∧
            renumbered? (· - bound.length) own = some filter ∧
            statement.arguments = bound ++ selected ∧
            statement.sql = updateOneText (quoteName table.text) assignments own order columns) ∧
    ∀ (generator : Generator) (call : GeneratorCall),
      (generator.run call).1.arguments =
          generator.arguments ++ (Generator.empty.run call).1.arguments ∧
        (∀ cause, (generator.run call).2 = .error cause ↔
          (Generator.empty.run call).2 = .error cause) ∧
        ∀ text, (Generator.empty.run call).2 = .ok text →
          ∃ behind, (generator.run call).2 = .ok behind ∧
            renumbered? (· + generator.arguments.length) text = some behind :=
  ⟨fun _ _ => ⟨Statement.sql_of_count, Statement.sql_of_select, Statement.sql_of_deleteAll,
    Statement.sql_of_deleteOne, fun _ _ => Statement.sql_of_updateOne⟩, Generator.run_behind⟩

/-- Low items with a name, the fullest first. -/
def FindQuery.sampleItems : FindQuery :=
  { FindQuery.empty with
    className := some "Item"
    filters := [.compare "level" .less (.number (.signed 3)), .compare "name" .equal (.text "A")]
    sort := [("level", .descending)] }

theorem verbs_choose_alike_sampleItems :
    (∃ statement table filter, Statement.count .sampleItems = .ok statement ∧
      statement.sql = countText table filter) ∧
    (∃ statement columns table filter order window,
      Statement.select .sampleItems = .ok statement ∧
        statement.sql = selectText columns table filter order window) ∧
    (∃ statement table filter, Statement.deleteAll .sampleItems = .ok statement ∧
      statement.sql = deleteAllText table filter) ∧
    (∃ statement table filter order columns, Statement.deleteOne .sampleItems = .ok statement ∧
      statement.sql = deleteOneText table filter order columns) ∧
    (∃ statement own, Statement.updateOne .sampleItems [("level", .increment (.signed 1))] .after =
        .ok statement ∧
      renumbered? (· - 1) own = some "WHERE (\"level\" < $1 AND \"name\" = $2)") ∧
    ∃ behind, renumbered? (· + 1) "WHERE (\"level\" < $1 AND \"name\" = $2)" = some behind := by
  obtain ⟨verbs, generators⟩ := verbs_choose_alike
  have filter : FindQuery.sampleItems.selection =
      (⟨FindQuery.sampleItems.arguments⟩, .ok "WHERE (\"level\" < $1 AND \"name\" = $2)") := rfl
  refine ⟨?_, ?_, ?_, ?_, ?_, ?_⟩
  · obtain ⟨_, _, -, -, written⟩ := (verbs .sampleItems _).1 rfl
    exact ⟨_, _, _, rfl, written⟩
  · obtain ⟨_, _, _, _, _, -, -, -, -, -, written⟩ := (verbs .sampleItems _).2.1 rfl
    exact ⟨_, _, _, _, _, _, rfl, written⟩
  · obtain ⟨_, _, -, -, written⟩ := (verbs .sampleItems _).2.2.1 rfl
    exact ⟨_, _, _, rfl, written⟩
  · obtain ⟨_, _, _, _, -, -, -, -, written⟩ := (verbs .sampleItems _).2.2.2.1 rfl
    exact ⟨_, _, _, _, _, rfl, written⟩
  · obtain ⟨table, row, bound, assignments, selected, text, own, _, _, named, assigned, -, chosen,
      -, -, lowered, -⟩ :=
      (verbs .sampleItems _).2.2.2.2 [("level", .increment (.signed 1))] .after rfl
    cases named
    have single : bound.length = 1 :=
      (congrArg (fun written => written.1.arguments.length) assigned).symm
    obtain rfl := Except.ok.inj (congrArg Prod.snd (chosen.symm.trans filter))
    exact ⟨_, own, rfl, single ▸ lowered⟩
  · obtain ⟨-, -, raised⟩ :=
      generators ⟨[.ofColumn .null]⟩ (.whereClause FindQuery.sampleItems.predicate?)
    obtain ⟨behind, -, same⟩ := raised _ (congrArg Prod.snd filter)
    exact ⟨behind, same⟩

end TwinStore
