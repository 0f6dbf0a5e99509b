/-
**The columns that a statement gives back.** Read off its text, behind the word that announces them.

* `returnedColumns?` reads a statement, and `listedColumns?` a list of columns that stands alone.
  The table in front of a column does not count.
* `Projection.listed`: what a projection asks for, said without looking at texts.
* `Projection.reads`: that is what is read of the list which the projection is written as.
* `Statement.returned_of_parts`: a statement that ends with this list gives it back.
-/

import TwinStore.Proofs.Sql.Assignment
import TwinStore.Proofs.Sql.Harmless
import TwinStore.Proofs.Sql.Selection

namespace TwinStore.Sql

/-! ### Reading columns -/

/-- The word that announces the columns of a statement. -/
def returningWord : Piece := .word "RETURNING".toList

/-- What stands behind the last of these words. -/
def behindReturning? : List Piece → Option (List Piece)
  | [] => none
  | piece :: rest => (behindReturning? rest).or (if piece = returningWord then some rest else none)

/-- A column, whatever table it is of; a star stands for all of them. -/
def listedColumn? : List Piece → Option (Option String)
  | [.mark '*'] => some none
  | [.name _, .mark '.', .mark '*'] => some none
  | [.name column] => some (some (String.ofList column))
  | [.name _, .mark '.', .name column] => some (some (String.ofList column))
  | _ => none

/-- The columns that a text lists. -/
def listedColumns? (text : String) : Option (List (Option String)) :=
  (pieces? text.toList).bind (readParts? listedColumn?)

/-- The columns that a statement gives back. -/
def returnedColumns? (text : String) : Option (List (Option String)) :=
  ((pieces? text.toList).bind behindReturning?).bind (readParts? listedColumn?)

theorem behindReturning?_of_absent {list : List Piece} (absent : returningWord ∉ list) :
    behindReturning? list = none := by
  induction list with
  | nil => rfl
  | cons piece rest step =>
    rw [List.mem_cons, not_or] at absent
    obtain ⟨different, later⟩ := absent
    rw [behindReturning?, step later, if_neg (Ne.symm different)]
    rfl

/-- **A list is found behind the word**, unless it holds the word itself. -/
theorem behindReturning?_append (front : List Piece) {list : List Piece}
    (absent : returningWord ∉ list) :
    behindReturning? (front ++ returningWord :: list) = some list := by
  induction front with
  | nil =>
    rw [List.nil_append, behindReturning?, behindReturning?_of_absent absent, if_pos rfl]
    rfl
  | cons piece rest step =>
    rw [List.cons_append, behindReturning?, step]
    rfl

/-- A blank in front of a list is not read. -/
theorem readParts?_blank {α : Type} {read : List Piece → Option α} (pieces : List Piece) :
    readParts? read (.mark ' ' :: pieces) = readParts? read pieces := by
  have front := @listParts_append 0 0 [.mark ' '] rfl pieces
  rw [List.singleton_append] at front
  rw [readParts?, front, List.mapM_cons, List.singleton_append, readPart?_blank, readParts?,
    List.mapM_cons]

/-- **Parts between commas are read one by one.** -/
theorem readParts?_intercalate {α : Type} {read : List Piece → Option α} {parts : List (List Piece)}
    {values : List α}
    (each : List.Forall₂ (fun part value => nesting? 0 part = some 0 ∧
      readPart? read part = some value) parts values) (some_ : parts ≠ []) :
    readParts? read (List.intercalate Keyword.comma.pieces parts) = some values := by
  induction each with
  | nil => exact absurd rfl some_
  | @cons part value _ _ one later step =>
    cases later with
    | nil =>
      rw [List.intercalate_singleton]
      exact readParts?_single one.1 one.2
    | cons second others =>
      rw [List.intercalate_cons_cons, List.append_assoc]
      exact readParts?_comma one.1 one.2 (step (List.cons_ne_nil _ _))

end TwinStore.Sql

namespace TwinStore

open Sql Draft

/-! ### Projections -/

/-- The columns that a projection asks for; a star stands for all of them. -/
def Projection.listed (projection : Projection) : Except IdentifierError (List (Option String)) :=
  match projection.columns? with
  | none => .ok [none]
  | some fields =>
    (requestedColumns fields).map fun columns => columns.map fun column => some column.text

/-- A token behind the table that it is of, if there is one. -/
def qualified (table : Option Identifier) (token : Token) : List Token :=
  match table with
  | some table => [.name table, .keyword .dot, token]
  | none => [token]

/-- The pieces of such a token. -/
def qualifiedPieces (table : Option Identifier) (piece : Piece) : List Piece :=
  match table with
  | some table => [.name table.text.toList, .mark '.', piece]
  | none => [piece]

theorem piecesFrom_qualified {token : Token} {piece : Piece}
    (single : ∀ number, token.pieces number = [piece]) (table : Option Identifier) (bound : Nat) :
    Token.piecesFrom bound (qualified table token) = qualifiedPieces table piece := by
  have dot : Keyword.dot.pieces = [.mark '.'] := by decide +kernel
  cases table with
  | none => rw [qualified, Token.piecesFrom, single, Token.piecesFrom, qualifiedPieces]; rfl
  | some table =>
    simp only [qualified, qualifiedPieces, Token.piecesFrom, single]
    rw [Token.pieces, Token.pieces, dot]
    rfl

theorem pieces_star (number : Nat) : Token.pieces number (.keyword .star) = [.mark '*'] := by
  show Keyword.star.pieces = [.mark '*']
  decide +kernel

/-- The pieces are a column of a list, and hold no word that announces one. -/
structure ReadsColumn (part : List Piece) (column : Option String) : Prop where
  nests : nesting? 0 part = some 0
  reads : readPart? listedColumn? part = some column
  absent : returningWord ∉ part

theorem readsColumn_star (table : Option Identifier) :
    ReadsColumn (qualifiedPieces table (.mark '*')) none := by
  cases table with
  | none => exact ⟨rfl, rfl, by simp [qualifiedPieces, returningWord]⟩
  | some table => exact ⟨rfl, rfl, by simp [qualifiedPieces, returningWord]⟩

theorem readsColumn_name (table : Option Identifier) (column : Identifier) :
    ReadsColumn (qualifiedPieces table (.name column.text.toList)) (some column.text) := by
  have named : some (some (String.ofList column.text.toList)) = some (some column.text) := by
    rw [String.ofList_toList]
  cases table with
  | none => exact ⟨rfl, named, by simp [qualifiedPieces, returningWord]⟩
  | some table => exact ⟨rfl, named, by simp [qualifiedPieces, returningWord]⟩

/-- The pieces of columns between commas. -/
theorem piecesFrom_columns (table : Option Identifier) (columns : List Identifier) (bound : Nat) :
    Token.piecesFrom bound (List.intercalate [.keyword .comma]
        (columns.map fun column => qualified table (.name column))) =
      List.intercalate Keyword.comma.pieces
        (columns.map fun column => qualifiedPieces table (.name column.text.toList)) := by
  have one : ∀ (column : Identifier) bound,
      Token.piecesFrom bound (qualified table (.name column)) =
        qualifiedPieces table (.name column.text.toList) :=
    fun column => piecesFrom_qualified (fun _ => rfl) table
  induction columns generalizing bound with
  | nil => rfl
  | cons column rest step =>
    cases rest with
    | nil => rw [List.map_singleton, List.map_singleton, List.intercalate_singleton,
        List.intercalate_singleton, one]
    | cons second others =>
      simp only [List.map_cons, List.intercalate_cons_cons, List.append_assoc,
        List.singleton_append] at step ⊢
      rw [Token.piecesFrom_keyword, one, step]

theorem draft_qualified (table : Option Identifier) (token : Token) :
    qualifierDraft table ++ ofTokens [token] = ofTokens (qualified table token) := by
  cases table <;> rfl

/-- There are columns to list if there are fields. -/
theorem requestedColumns_ne_nil {fields : List String} {columns : List Identifier}
    (requested : requestedColumns fields = .ok columns) (some_ : fields ≠ []) : columns ≠ [] := by
  obtain ⟨names, each, made⟩ := Result.bind_eq_ok.mp requested
  cases made
  cases Result.mapM_eq_ok.mp each with
  | nil => exact absurd rfl some_
  | cons one later =>
    rw [List.eraseDups_cons]
    exact List.cons_ne_nil _ _

/-- **The list of a projection is read as what it asks for.** -/
theorem Projection.reads {projection : Projection} {table : Option Identifier}
    {tokens : List Token} (drafted : projection.draft table = ofTokens tokens) (bound : Nat) :
    ∃ list, projection.listed = .ok list ∧
      readParts? listedColumn? (Token.piecesFrom bound tokens) = some list ∧
      returningWord ∉ Token.piecesFrom bound tokens := by
  unfold Projection.draft at drafted
  unfold Projection.listed
  cases asked : projection.columns? with
  | none =>
    rw [asked] at drafted
    obtain rfl := ofTokens_inj.mp ((draft_qualified table (.keyword .star)).symm.trans drafted)
    have column := readsColumn_star table
    rw [piecesFrom_qualified pieces_star]
    exact ⟨_, rfl, readParts?_single column.nests column.reads, column.absent⟩
  | some fields =>
    rw [asked] at drafted
    cases requested : requestedColumns fields with
    | error error =>
      simp only [requested] at drafted
      cases drafted
    | ok columns =>
      simp only [requested] at drafted
      have parts : columns.map (fun column => qualifierDraft table ++ name column) =
          (columns.map fun column => qualified table (.name column)).map ofTokens := by
        rw [List.map_map]
        exact List.map_congr_left fun column _ => draft_qualified table (.name column)
      rw [parts, Draft.listed, joined_ofTokens, ofTokens_inj] at drafted
      subst drafted
      rw [piecesFrom_columns]
      have some_ : columns ≠ [] := by
        refine requestedColumns_ne_nil requested ?_
        obtain ⟨names, -, rfl⟩ := Option.map_eq_some_iff.mp asked
        exact List.cons_ne_nil _ _
      refine ⟨_, congrArg (Except.map _) requested,
        readParts?_intercalate ?_ (mt List.map_eq_nil_iff.mp some_), ?_⟩
      · rw [List.forall₂_map_left_iff, List.forall₂_map_right_iff, List.forall₂_same]
        intro column _
        have reads := readsColumn_name table column
        exact ⟨reads.nests, reads.reads⟩
      · intro member
        rcases mem_of_mem_intercalate member with comma | ⟨part, known, inside⟩
        · exact absurd comma (by decide +kernel)
        · obtain ⟨column, -, rfl⟩ := List.mem_map.mp known
          exact (readsColumn_name table column).absent inside

/-- What can be listed has no fault. -/
theorem Projection.fault_of_listed {projection : Projection} {list : List (Option String)}
    (asked : projection.listed = .ok list) (table : Option Identifier) :
    (projection.draft table).fault = none := by
  have sound : ∀ token, (qualifierDraft table ++ ofTokens [token]).fault = none := by
    intro token
    rw [draft_qualified]
    rfl
  unfold Projection.listed at asked
  unfold Projection.draft
  cases fields : projection.columns? with
  | none => exact sound _
  | some names =>
    rw [fields] at asked
    obtain ⟨columns, requested, -⟩ := Result.map_eq_ok.mp asked
    simp only [requested]
    refine joined_fault.mpr fun draft member => ?_
    obtain ⟨column, -, rfl⟩ := List.mem_map.mp member
    exact sound _

/-! ### Statements -/

/-- The last part of a list stands behind a separator. -/
theorem intercalate_concat {α : Type} {separator : List α} {parts : List (List α)}
    (some_ : parts ≠ []) (last : List α) :
    List.intercalate separator (parts ++ [last]) =
      List.intercalate separator parts ++ separator ++ last := by
  induction parts with
  | nil => exact absurd rfl some_
  | cons part rest step =>
    cases rest with
    | nil =>
      rw [List.singleton_append, List.intercalate_cons_cons, List.intercalate_singleton,
        List.intercalate_singleton]
    | cons second others =>
      have later := step (List.cons_ne_nil _ _)
      rw [List.cons_append] at later
      rw [List.cons_append, List.cons_append, List.intercalate_cons_cons, later,
        List.intercalate_cons_cons]
      simp only [List.append_assoc]

/-- The part of a list behind the others. -/
theorem exists_intercalate_concat {α : Type} (separator : List α) (parts : List (List α))
    (last : List α) :
    ∃ front, List.intercalate separator (parts ++ [last]) = front ++ last := by
  by_cases none_ : parts = []
  · subst none_
    exact ⟨[], by rw [List.nil_append, List.intercalate_singleton, List.nil_append]⟩
  · exact ⟨_, intercalate_concat none_ last⟩

namespace Statement

variable {statement : Statement}

/-- A statement ends with its last part. -/
theorem tokens_of_last {parts : List Draft} {last : Draft}
    (built : ofParts (parts ++ [last]) = .ok statement) (some_ : last.tokens ≠ []) :
    ∃ front, statement.tokens = front ++ last.tokens := by
  have there : (!last.tokens.isEmpty) = true := by simpa using some_
  have tokens := tokens_of_spaced (ofParts_eq_ok.mp built)
  rw [List.map_append, List.filter_append, List.map_singleton, List.filter_cons, if_pos there]
    at tokens
  obtain ⟨front, whole⟩ := exists_intercalate_concat [.keyword .space] _ last.tokens
  exact ⟨front, tokens.trans whole⟩

/-- In front of it stands the part before, and a blank. -/
theorem tokens_of_ending {parts : List Draft} {word : Keyword} {last : Draft}
    (built : ofParts (parts ++ [words [word], last]) = .ok statement) (some_ : last.tokens ≠ []) :
    ∃ front, statement.tokens =
      front ++ ([.keyword word] ++ ([.keyword .space] ++ last.tokens)) := by
  have there : (!last.tokens.isEmpty) = true := by simpa using some_
  have tokens := tokens_of_spaced (ofParts_eq_ok.mp built)
  have ending : ([words [word], last].map Draft.tokens).filter (fun part => !part.isEmpty) =
      [[.keyword word]] ++ [last.tokens] := by
    show List.filter _ [[.keyword word], last.tokens] = _
    rw [List.filter_cons_of_pos rfl, List.filter_cons, if_pos there]
    rfl
  rw [List.map_append, List.filter_append, ending, ← List.append_assoc,
    intercalate_concat (by simp)] at tokens
  obtain ⟨front, announced⟩ := exists_intercalate_concat [Token.keyword .space]
    ((parts.map Draft.tokens).filter fun part => !part.isEmpty) [.keyword word]
  rw [announced, List.append_assoc, List.append_assoc] at tokens
  exact ⟨front, tokens⟩

/-- **A statement that ends with the list of a projection** gives back what it asks for. -/
theorem returned_of_parts {parts : List Draft} {projection : Projection}
    {table : Option Identifier}
    (built : ofParts (parts ++ [words [.returning], projection.draft table]) = .ok statement)
    (apart : statement.tokens.IsChain Token.Apart) :
    ∃ list, projection.listed = .ok list ∧ returnedColumns? statement.sql = some list := by
  have drafted : projection.draft table = ofTokens (projection.draft table).tokens :=
    eq_ofTokens (fault_of_built built _ (by simp))
  have word : Keyword.returning.pieces = [returningWord] := by decide +kernel
  have blank : Keyword.space.pieces = [.mark ' '] := by decide +kernel
  have some_ : (projection.draft table).tokens ≠ [] := by
    intro none_
    obtain ⟨list, -, read, -⟩ := Projection.reads drafted 0
    rw [none_] at read
    cases read
  obtain ⟨front, tokens⟩ := tokens_of_ending built some_
  obtain ⟨list, asked, read, absent⟩ := Projection.reads drafted
    (0 + (Token.arguments front).length + (Token.arguments [.keyword .returning]).length +
      (Token.arguments [.keyword .space]).length)
  have found : returningWord ∉ .mark ' ' :: Token.piecesFrom _ (projection.draft table).tokens :=
    List.not_mem_cons_of_ne_of_not_mem nofun absent
  refine ⟨list, asked, ?_⟩
  rw [returnedColumns?, sql, Token.render, String.toList_ofList, Token.pieces?_charsFrom apart,
    tokens, Token.piecesFrom_append, Token.piecesFrom_append, Token.piecesFrom_append,
    Token.piecesFrom_word, Token.piecesFrom_word, word, blank, Option.bind_some,
    List.singleton_append, List.singleton_append, behindReturning?_append _ found,
    Option.bind_some, readParts?_blank, read]

/-- **An insertion gives all columns back.** -/
theorem returned_of_insert {className : String} {plan : InsertPlan}
    (built : insert className plan = .ok statement) :
    returnedColumns? statement.sql = some [none] := by
  have apart : statement.tokens.IsChain Token.Apart :=
    (@Request.build_writes (.insert className plan) statement built).apart
  have last : Keyword.returningAll.pieces = [returningWord, .mark ' ', .mark '*'] := by
    decide +kernel
  obtain ⟨table, -, parts⟩ := Result.bind_eq_ok.mp built
  obtain ⟨front, tokens⟩ :=
    @tokens_of_last statement [_, _, _, _, _] (words [.returningAll]) parts (List.cons_ne_nil _ _)
  rw [returnedColumns?, sql, Token.render, String.toList_ofList, Token.pieces?_charsFrom apart,
    tokens, Token.piecesFrom_append, show (words [.returningAll]).tokens = [.keyword .returningAll]
      from rfl, Token.piecesFrom_word, last, Option.bind_some,
    behindReturning?_append _ (by simp [returningWord])]
  rfl

/-- The statement gives back the columns of a query's projection: those that are read where the
list of the projection stands alone. -/
def Obeys (query : FindQuery) (statement : Statement) : Prop :=
  ∃ list clause, query.projection.listed = .ok list ∧
    (query.projection.draft none).text 0 = .ok clause ∧ listedColumns? clause = some list ∧
    returnedColumns? statement.sql = some list

variable {query : FindQuery}

theorem obeys_of_returned {list : List (Option String)} (asked : query.projection.listed = .ok list)
    (returned : returnedColumns? statement.sql = some list) : Obeys query statement := by
  have sound := Projection.fault_of_listed asked none
  have apart := (query.projection.draft_writes none).apart
  obtain ⟨same, again, read, -⟩ := Projection.reads (eq_ofTokens sound) 0
  obtain rfl := Except.ok.inj (again.symm.trans asked)
  refine ⟨same, _, asked, text_eq_ok.mpr ⟨sound, rfl⟩, ?_, returned⟩
  rw [listedColumns?, Token.render, String.toList_ofList, Token.pieces?_charsFrom apart,
    Option.bind_some, read]

/-- **An update gives back the columns of the projection**, of the row as it is or as it was. -/
theorem obeys_of_updateOne {update : UpdateSet} {returning : Returning}
    (built : updateOne query update returning = .ok statement) : Obeys query statement := by
  have apart := (@Request.build_writes (.updateOne query update returning) statement built).apart
  obtain ⟨table, -, parts⟩ := Result.bind_eq_ok.mp built
  obtain ⟨list, asked, returned⟩ :=
    @returned_of_parts statement [_, _, _, _, _, _, _, _, _, _] _ _ parts apart
  exact obeys_of_returned asked returned

/-- **So does a deletion.** -/
theorem obeys_of_deleteOne (built : deleteOne query = .ok statement) : Obeys query statement := by
  have apart := (@Request.build_writes (.deleteOne query) statement built).apart
  obtain ⟨table, -, parts⟩ := Result.bind_eq_ok.mp built
  obtain ⟨list, asked, returned⟩ := @returned_of_parts statement [_, _, _, _] _ _ parts apart
  exact obeys_of_returned asked returned

/-- **An insertion knows of no projection**: it obeys one only where that leaves nothing out. -/
theorem obeys_insert_iff {className : String} {plan : InsertPlan}
    (built : insert className plan = .ok statement) :
    Obeys query statement ↔ query.includes = none := by
  have all := returned_of_insert built
  constructor
  · rintro ⟨list, clause, asked, -, -, returned⟩
    obtain rfl := Option.some.inj (all.symm.trans returned)
    by_contra some_
    obtain ⟨names, included⟩ := Option.ne_none_iff_exists'.mp some_
    rw [FindQuery.projection, included] at asked
    obtain ⟨columns, -, made⟩ := Result.map_eq_ok.mp asked
    obtain ⟨column, -, impossible⟩ := List.map_eq_singleton_iff.mp made
    cases impossible
  · intro none_
    have asked : query.projection.listed = .ok [none] := by rw [FindQuery.projection, none_]; rfl
    exact obeys_of_returned asked all

end Statement

end TwinStore
