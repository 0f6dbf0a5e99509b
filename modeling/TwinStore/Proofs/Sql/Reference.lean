/-
**What a qualified column means.** A statement calls relations by names, and a column behind such a
name is looked for where the name stands: in the innermost scope that has it.

* `Reference` is a qualified column with the scopes around it, and `Reference.Means` says that its
  name stands for one relation there, and for no other one.
* `Formula.references`: the qualified columns of an expression. A query opens a scope for the items
  of its source, and the source is outside of it.
* `UpdateOperation.means_of_references`: the expression of an operation means the updated record, or
  items, provided that no other relation is called as the table is.
* `Unqualified`: a text without qualified columns, such as the filter and the order of a query.
-/

import TwinStore.Proofs.Sql.Condition
import TwinStore.Proofs.Sql.Formula
import TwinStore.Proofs.Sql.Selection

namespace TwinStore.Sql

/-! ### Relations and their names -/

/-- What an update reads rows of. -/
inductive Relation where
  /-- The table, with the record as it is updated. -/
  | updated
  /-- The locked copy. -/
  | locked
  /-- The items of an array. -/
  | items
  deriving DecidableEq

/-- The relations of a scope with their names. -/
abbrev Relations := List (Relation × String)

/-- The relations that a name stands for: those of the innermost scope that has the name. -/
def candidates (name : String) : List Relations → List Relation
  | [] => []
  | scope :: outer =>
    match scope.filter fun entry => entry.2 = name with
    | [] => candidates name outer
    | found => found.map Prod.fst

/-- A column behind the name of a relation, and the scopes around it from the innermost one on. A
star stands for all columns. -/
structure Reference where
  relation : String
  column : Option String
  scopes : List Relations

/-- The name stands for the relation alone. -/
def Reference.Means (reference : Reference) (relation : Relation) : Prop :=
  candidates reference.relation reference.scopes = [relation]

instance (reference : Reference) (relation : Relation) : Decidable (reference.Means relation) :=
  inferInstanceAs (Decidable (_ = _))

/-- The qualified columns of an expression. -/
def Formula.references (scopes : List Relations) : Formula → List Reference
  | null | argument _ | literal _ | number _ => []
  | column table name => [⟨table, some name, scopes⟩]
  | negative inner | cast inner | buildArray inner | isNull inner => inner.references scopes
  | coalesce left right | greatest left right | least left right | combine _ left right
  | notIn left right | collect left right => left.references scopes ++ right.references scopes
  | choose condition yes no =>
    condition.references scopes ++ yes.references scopes ++ no.references scopes
  | select output source table _ _ condition =>
    source.references scopes ++ output.references ([(.items, table)] :: scopes) ++
      condition.references ([(.items, table)] :: scopes)

end TwinStore.Sql

namespace TwinStore

open Sql Draft

/-! ### Updates -/

/-- The relations of an update of a table. -/
def updateScope (table : String) : Relations := [(.updated, table), (.locked, oldRow.text)]

section UpdateScope

variable {table : String}

theorem candidates_table (apart : table ≠ oldRow.text) :
    candidates table [updateScope table] = [.updated] := by
  simp [candidates, updateScope, Ne.symm apart]

theorem candidates_oldRow (apart : table ≠ oldRow.text) :
    candidates oldRow.text [updateScope table] = [.locked] := by
  simp [candidates, updateScope, apart]

/-- A table that is called as the locked copy cannot be told from it. -/
theorem candidates_oldRow_self :
    candidates oldRow.text [updateScope oldRow.text] = [.updated, .locked] := by
  simp [candidates, updateScope]

end UpdateScope

/-- **The expression of an operation** means the updated record, or the items of an array. -/
theorem UpdateOperation.means_of_references {operation : UpdateOperation} {table column : String}
    {place : Nat} (apart : table ≠ oldRow.text) {reference : Reference}
    (member : reference ∈ (operation.formula (.column table column)
      (.argument place)).references [updateScope table]) :
    reference.Means .updated ∨ reference.Means .items := by
  have current : ∀ {other : Reference},
      other ∈ (Formula.column table column).references [updateScope table] →
        other.Means .updated := by
    intro other known
    obtain rfl := List.mem_singleton.mp known
    exact candidates_table apart
  -- Behind the name of the items stands nothing but columns of theirs.
  have item : ∀ (name : Option String) (scopes : List Relations),
      Reference.Means ⟨"e", name, [(.items, "e")] :: scopes⟩ .items := fun _ _ => rfl
  cases operation with
  | set value =>
    cases value <;> cases member
  | removeAll removed =>
    simp only [formula, removalFormula, Formula.references, List.append_nil, List.mem_append,
      List.mem_singleton] at member
    rcases member with rfl | (rfl | rfl | rfl) | rfl
    · exact .inl (current (List.mem_singleton_self _))
    · exact .inl (current (List.mem_singleton_self _))
    · exact .inr (item _ _)
    · exact .inr (item _ _)
    · exact .inr (item _ _)
  | _ => exact .inl (current (by simpa [formula, Formula.references] using member))

/-! ### Texts without qualified columns -/

/-- No column of the text is qualified. -/
def Unqualified (text : String) : Prop :=
  ∃ pieces, pieces? text.toList = some pieces ∧ .mark '.' ∉ pieces

/-- The token qualifies nothing. -/
def Token.Undotted (token : Token) : Prop := ∀ number, .mark '.' ∉ token.pieces number

theorem unqualified_render {tokens : List Token} (apart : tokens.IsChain Token.Apart)
    (undotted : ∀ token ∈ tokens, token.Undotted) (bound : Nat) :
    Unqualified (Token.render bound tokens) := by
  refine ⟨Token.piecesFrom bound tokens, ?_, ?_⟩
  · rw [Token.render, String.toList_ofList, Token.pieces?_charsFrom apart]
  · clear apart
    induction tokens generalizing bound with
    | nil => exact List.not_mem_nil
    | cons token rest step =>
      obtain ⟨first, later⟩ := List.forall_mem_cons.mp undotted
      rw [Token.piecesFrom, List.mem_append, not_or]
      exact ⟨first _, step later _⟩

/-- The keywords of filters and orders. -/
def clauseKeywords : List Keyword :=
  conditionKeywords ++ [.where, .orderBy, .space, .ascending, .descending]

theorem undotted_clauseKeywords : ∀ word ∈ clauseKeywords, .mark '.' ∉ word.pieces := by
  decide +kernel

theorem Token.undotted_word {word : Keyword} (known : word ∈ clauseKeywords) :
    (Token.keyword word).Undotted :=
  fun _ => undotted_clauseKeywords word known

theorem Token.undotted_name (identifier : Identifier) : (Token.name identifier).Undotted :=
  fun _ => by simp [Token.pieces]

theorem Token.undotted_path (segments : List Identifier) : (Token.path segments).Undotted :=
  fun _ => by simp [Token.pieces]

theorem Token.undotted_of_inCondition {token : Token} (known : token.InCondition) :
    token.Undotted := by
  cases token with
  | keyword word => exact undotted_word (List.mem_append_left _ known)
  | name identifier => exact undotted_name identifier
  | path segments => exact undotted_path segments
  | number value => cases known
  | argument bound => exact fun _ => by simp [Token.pieces]

namespace Draft

theorem mem_tokens_append {left right : Draft} {token : Token}
    (member : token ∈ (left ++ right).tokens) : token ∈ left.tokens ∨ token ∈ right.tokens := by
  obtain ⟨tokens, fault⟩ := left
  cases fault with
  | some error => exact .inl member
  | none => exact List.mem_append.mp member

theorem mem_tokens_joined {separator : Keyword} {drafts : List Draft} {token : Token}
    (member : token ∈ (joined separator drafts).tokens) :
    token = .keyword separator ∨ ∃ draft ∈ drafts, token ∈ draft.tokens := by
  induction drafts with
  | nil => cases member
  | cons draft rest step =>
    cases rest with
    | nil => exact .inr ⟨draft, List.mem_cons_self, member⟩
    | cons second others =>
      rcases mem_tokens_append member with front | later
      · rcases mem_tokens_append front with here | between
        · exact .inr ⟨draft, List.mem_cons_self, here⟩
        · exact .inl (List.mem_singleton.mp between)
      · refine (step later).imp_right fun ⟨other, known, inside⟩ => ?_
        exact ⟨other, List.mem_cons_of_mem draft known, inside⟩

end Draft

/-- **A condition qualifies no column.** It is read as one on every server, so it is written with
the tokens of conditions only. -/
theorem Predicate.undotted_of_draft {predicate : Predicate} {tokens : List Token}
    (drafted : predicate.draft = ofTokens tokens) : ∀ token ∈ tokens, token.Undotted := by
  obtain ⟨truth, ⟨written, _, same, readable, -⟩, -⟩ :=
    @clause_of_draft _ sampleServer (fun _ => none) predicate tokens drafted
  obtain rfl := ofTokens_inj.mp (drafted.symm.trans same)
  exact fun token member => Token.undotted_of_inCondition (readable.known token member)

theorem FindQuery.unqualified_filter {query : FindQuery} (sound : query.whereDraft.fault = none)
    (bound : Nat) : Unqualified (Token.render bound query.whereDraft.tokens) := by
  refine unqualified_render (Statement.whereDraft_writes query).apart ?_ bound
  unfold FindQuery.whereDraft at sound ⊢
  cases asked : query.predicate? with
  | none => exact fun _ member => by cases member
  | some predicate =>
    rw [asked, Predicate.whereDraft] at sound
    have drafted : predicate.draft = ofTokens predicate.draft.tokens :=
      eq_ofTokens (append_fault.mp sound).2
    intro token member
    rcases mem_tokens_append member with opening | inside
    · simp only [words, ofTokens, List.map_cons, List.map_nil, List.mem_cons, List.not_mem_nil,
        or_false] at opening
      rcases opening with rfl | rfl <;> exact Token.undotted_word (by decide)
    · exact Predicate.undotted_of_draft drafted token inside

/-- A key of an order qualifies no column. -/
theorem undotted_sortKeyDraft (field : String) (order : SortOrder) :
    ∀ token ∈ (sortKeyDraft field order).tokens, token.Undotted := by
  have direction : (Token.keyword order.keyword).Undotted := by
    cases order <;> exact Token.undotted_word (by decide)
  have space : (Token.keyword .space).Undotted := Token.undotted_word (by decide)
  have left : (Token.keyword .leftParenthesis).Undotted := Token.undotted_word (by decide)
  have right : (Token.keyword .rightParenthesis).Undotted := Token.undotted_word (by decide)
  have extract : (Token.keyword .extract).Undotted := Token.undotted_word (by decide)
  unfold sortKeyDraft
  cases FieldReference.ofText field with
  | error error => exact fun _ member => by cases member
  | ok reference =>
    obtain ⟨column, path⟩ := reference
    have name := Token.undotted_name column
    cases path with
    | nil =>
      show ∀ token ∈ [Token.name column, .keyword .space, .keyword order.keyword], token.Undotted
      simp only [List.forall_mem_cons]
      exact ⟨name, space, direction, nofun⟩
    | cons segment rest =>
      show ∀ token ∈ [Token.keyword .leftParenthesis, .name column, .keyword .extract,
        .path (segment :: rest), .keyword .rightParenthesis, .keyword .space,
        .keyword order.keyword], token.Undotted
      simp only [List.forall_mem_cons]
      exact ⟨left, name, extract, Token.undotted_path _, right, space, direction, nofun⟩

theorem unqualified_order {sort : SortList} (bound : Nat) :
    Unqualified (Token.render bound (orderDraft sort).tokens) := by
  refine unqualified_render (orderDraft_writes sort).apart ?_ bound
  cases sort with
  | nil => exact fun _ member => by cases member
  | cons first rest =>
    intro token member
    rcases mem_tokens_append member with opening | keys
    · simp only [words, ofTokens, List.map_cons, List.map_nil, List.mem_cons, List.not_mem_nil,
        or_false] at opening
      rcases opening with rfl | rfl <;> exact Token.undotted_word (by decide)
    · rcases mem_tokens_joined keys with rfl | ⟨draft, known, inside⟩
      · exact Token.undotted_word (by decide)
      · obtain ⟨entry, -, rfl⟩ := List.mem_map.mp known
        exact undotted_sortKeyDraft entry.1 entry.2 token inside

end TwinStore
