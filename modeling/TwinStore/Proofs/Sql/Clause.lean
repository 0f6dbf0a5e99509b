/-
**What drafts of conditions denote.** A draft denotes an outcome if a server reads its tokens as an
expression, wherever they stand in a condition, and the expression has that outcome.

* `Readable`: the tokens are read one after the other (`reads_charsFrom`).
* `IsTerm` and `IsClause`: the draft denotes a datum, or a truth value. The lemmas on them follow
  the ways in which conditions are written.
* `IsClause.textTruth?`: the text of such a draft has the truth value, whatever stands before it.
-/

import TwinStore.Proofs.Sql.Draft
import TwinStore.Proofs.Sql.Meaning

namespace TwinStore

open Sql

/-! ### Readable tokens -/

/-- Tokens of conditions, none of which goes on in the next one. -/
structure Token.Readable (tokens : List Token) : Prop where
  known : ∀ token ∈ tokens, token.InCondition
  apart : tokens.IsChain Token.MayFollow

namespace Token.Readable

theorem single {token : Token} (known : token.InCondition) : Readable [token] := by
  refine ⟨?_, List.isChain_singleton token⟩
  intro other member
  rw [List.mem_singleton.mp member]
  exact known

/-- Readable tokens stand behind others if they begin with a sign. -/
theorem append {left right : List Token} (first : Readable left) (second : Readable right)
    (breaks : ∀ token ∈ right.head?, token.startsOpen = false) : Readable (left ++ right) := by
  refine ⟨List.forall_mem_append.mpr ⟨first.known, second.known⟩, ?_⟩
  refine List.isChain_append.mpr ⟨first.apart, second.apart, ?_⟩
  intro last _ token begins _
  exact breaks token begins

/-- They stand behind a keyword that ends with a sign or a blank. -/
theorem cons {word : Keyword} {tokens : List Token} (known : word ∈ conditionKeywords)
    (ends : word.endsOpen = false) (rest : Readable tokens) :
    Readable (.keyword word :: tokens) := by
  refine ⟨List.forall_mem_cons.mpr ⟨known, rest.known⟩, ?_⟩
  refine List.IsChain.cons rest.apart ?_
  intro token _ isOpen
  have closed : word.endsOpen = true := isOpen
  rw [ends] at closed
  cases closed

end Token.Readable

open Token (Readable)

/-- A keyword that is one lexeme and leaves what stands before and behind it complete. -/
structure Separates (word : Keyword) (lexeme : Lexeme) : Prop where
  known : word ∈ conditionKeywords
  lexemes : word.lexemes = [lexeme]
  starts : word.startsOpen = false
  ends : word.endsOpen = false

theorem Separates.readable {word : Keyword} {lexeme : Lexeme} {left right : List Token}
    (separates : Separates word lexeme) (first : Readable left) (second : Readable right) :
    Readable (left ++ .keyword word :: right) := by
  refine first.append (.cons separates.known separates.ends second) ?_
  intro token begins
  cases begins
  exact separates.starts

theorem Separates.flatMap_lexemes {word : Keyword} {lexeme : Lexeme}
    (separates : Separates word lexeme) (left right : List Token) :
    (left ++ .keyword word :: right).flatMap Token.lexemes =
      left.flatMap Token.lexemes ++ lexeme :: right.flatMap Token.lexemes := by
  rw [List.flatMap_append, List.flatMap_cons, Token.lexemes, separates.lexemes,
    List.singleton_append]

/-! ### Drafts that denote -/

namespace Draft

section Denotes

variable {δ : Type} (server : Server δ) (row : Row δ)

/-- The draft is read as an expression with the outcome. -/
def Denotes (reads : List Lexeme → Expr → Prop) (draft : Draft) (outcome : Outcome δ) : Prop :=
  ∃ tokens read, draft = ofTokens tokens ∧ Readable tokens ∧
    reads (tokens.flatMap Token.lexemes) read ∧ read.outcome server row = some outcome

/-- The draft is an operand with the content. -/
abbrev IsTerm (draft : Draft) (content : Option δ) : Prop :=
  Denotes server row IsOperand draft (.datum content)

/-- The draft is a member of conditions with the truth value. -/
abbrev IsClause (draft : Draft) (truth : Truth) : Prop :=
  Denotes server row IsMember draft (.truth truth)

end Denotes

variable {δ : Type} {server : Server δ} {row : Row δ}

/-- **The text of a clause has its truth value**, whatever is bound before and behind it. -/
theorem IsClause.textTruth? {tokens : List Token} {truth : Truth}
    (clause : IsClause server row (ofTokens tokens) truth) (before after : List Argument) :
    textTruth? server row (before ++ Token.arguments tokens ++ after)
      (Token.render before.length tokens) = some truth := by
  obtain ⟨written, read, same, readable, member, outcome⟩ := clause
  rw [ofTokens_inj] at same
  subst same
  have lexemes := (reads_charsFrom readable.known readable.apart before after).lexemes?
  rw [Sql.textTruth?, Token.render, String.toList_ofList, lexemes]
  simp only [Option.bind_eq_bind, Option.bind_some, member.isCondition.expression?, outcome]
  rfl

/-- An operand that a keyword test is made of. -/
theorem IsTerm.test {draft : Draft} {content : Option δ} {word : Keyword} {truth : Truth}
    {test : Expr → Expr} (term : IsTerm server row draft content)
    (known : word ∈ conditionKeywords) (starts : word.startsOpen = false)
    (member : ∀ {lexemes read}, IsOperand lexemes read → IsMember (lexemes ++ word.lexemes)
      (test read))
    (outcome : ∀ {read : Expr}, read.outcome server row = some (.datum content) →
      (test read).outcome server row = some (.truth truth)) :
    IsClause server row (draft ++ words [word]) truth := by
  obtain ⟨tokens, read, rfl, readable, operand, evaluated⟩ := term
  refine ⟨tokens ++ [.keyword word], test read, rfl, ?_, ?_, outcome evaluated⟩
  · refine readable.append (.single known) ?_
    intro token begins
    cases begins
    exact starts
  · rw [List.flatMap_append, List.flatMap_singleton]
    exact member operand

theorem IsTerm.isNull {draft : Draft} {content : Option δ}
    (term : IsTerm server row draft content) :
    IsClause server row (draft ++ words [.isNull]) (some content.isNone) := by
  refine term.test (by decide) rfl (fun operand => operand.isNull) ?_
  intro read evaluated
  rw [Expr.outcome, evaluated]
  rfl

theorem IsTerm.isNotNull {draft : Draft} {content : Option δ}
    (term : IsTerm server row draft content) :
    IsClause server row (draft ++ words [.isNotNull]) (some content.isSome) := by
  refine @IsTerm.test _ _ _ _ _ _ _ (fun read => .not (.isNull read)) term (by decide) rfl
    (fun operand => operand.isNotNull) ?_
  intro read evaluated
  rw [Expr.outcome, Expr.outcome, evaluated]
  cases content <;> rfl

theorem IsTerm.compare {left right : Draft} {content other : Option δ} {word : Keyword}
    {mark : Mark} {sign : Sign} (term : IsTerm server row left content)
    (separates : Separates word (.mark mark)) (isSign : mark.sign? = some sign)
    (against : IsTerm server row right other) :
    IsClause server row (left ++ words [word] ++ right) (server.test sign content other) := by
  obtain ⟨tokens, read, rfl, readable, operand, evaluated⟩ := term
  obtain ⟨others, second, rfl, readableRight, operandRight, evaluatedRight⟩ := against
  refine ⟨tokens ++ .keyword word :: others, .compare sign read second,
    ofTokens_between tokens word others, separates.readable readable readableRight, ?_, ?_⟩
  · rw [separates.flatMap_lexemes]
    exact operand.compare isSign operandRight
  · rw [Expr.outcome, evaluated, evaluatedRight]
    rfl

theorem IsTerm.distinct {left right : Draft} {content other : Option δ}
    (term : IsTerm server row left content) (against : IsTerm server row right other) :
    IsClause server row (left ++ words [.isDistinctFrom] ++ right)
      (some (server.distinct content other)) := by
  obtain ⟨tokens, read, rfl, readable, operand, evaluated⟩ := term
  obtain ⟨others, second, rfl, readableRight, operandRight, evaluatedRight⟩ := against
  refine ⟨tokens ++ .keyword .isDistinctFrom :: others, .distinct read second,
    ofTokens_between tokens .isDistinctFrom others, ?_, ?_, ?_⟩
  · refine readable.append (.cons (by decide) rfl readableRight) ?_
    intro token begins
    cases begins
    rfl
  · rw [List.flatMap_append]
    exact operand.distinct operandRight
  · rw [Expr.outcome, evaluated, evaluatedRight]
    rfl

/-! ### Joined drafts -/

/-- Drafts with a keyword between them are read one by one. -/
theorem denotes_joined {word : Keyword} {lexeme : Lexeme} (separates : Separates word lexeme)
    {reads : List Lexeme → Expr → Prop} {drafts : List Draft} {outcomes : List (Outcome δ)}
    (others : List.Forall₂ (Denotes server row reads) drafts outcomes) :
    ∀ {draft : Draft} {outcome : Outcome δ}, Denotes server row reads draft outcome →
      ∃ tokens first read items exprs, joined word (draft :: drafts) = ofTokens tokens ∧
        Readable tokens ∧
        tokens.flatMap Token.lexemes =
          first ++ items.flatMap (fun lexemes => lexeme :: lexemes) ∧
        reads first read ∧ List.Forall₂ reads items exprs ∧
        read.outcome server row = some outcome ∧
        List.Forall₂ (fun expr outcome => expr.outcome server row = some outcome) exprs
          outcomes := by
  induction others with
  | nil =>
    rintro _ outcome ⟨tokens, read, rfl, readable, isRead, evaluated⟩
    refine ⟨tokens, _, read, [], [], rfl, readable, ?_, isRead, .nil, evaluated, .nil⟩
    rw [List.flatMap_nil, List.append_nil]
  | @cons second following drafts outcomes one _ step =>
    rintro _ outcome ⟨tokens, read, rfl, readable, isRead, evaluated⟩
    obtain ⟨rest, first, next, items, exprs, same, readableRest, lexemes, isNext, areRead,
      evaluatedNext, evaluatedRest⟩ := step one
    refine ⟨tokens ++ .keyword word :: rest, _, read, first :: items, next :: exprs, ?_,
      separates.readable readable readableRest, ?_, isRead, .cons isNext areRead, evaluated,
      .cons evaluatedNext evaluatedRest⟩
    · show ofTokens tokens ++ words [word] ++ joined word (second :: drafts) = _
      rw [same, ofTokens_between]
    · rw [separates.flatMap_lexemes, lexemes, List.flatMap_cons, List.cons_append]

theorem readable_parenthesized {tokens : List Token} (readable : Readable tokens) :
    Readable (.keyword .leftParenthesis :: tokens ++ [.keyword .rightParenthesis]) := by
  have close : Readable [.keyword .rightParenthesis] := .single (by decide : _ ∈ conditionKeywords)
  refine (Token.Readable.cons (by decide) rfl readable).append close ?_
  intro token begins
  cases begins
  rfl

theorem separates_connective (connective : Connective) :
    Separates connective.keyword (groupWord connective) := by
  cases connective
  · exact ⟨by decide, rfl, rfl, rfl⟩
  · exact ⟨by decide, rfl, rfl, rfl⟩

end Draft

/-- The truth value of two members of a group. -/
def Connective.truth : Connective → Truth → Truth → Truth
  | .all => Truth.and
  | .any => Truth.or

namespace Draft

variable {δ : Type} {server : Server δ} {row : Row δ}

/-- Members are joined from the left, and so are their truth values. -/
theorem outcome_group (connective : Connective) {exprs : List Expr} {truths : List Truth}
    (evaluated : List.Forall₂
      (fun expr outcome => expr.outcome server row = some outcome) exprs (truths.map .truth)) :
    ∀ {read : Expr} {truth : Truth}, read.outcome server row = some (.truth truth) →
      (exprs.foldl (groupJoin connective) read).outcome server row =
        some (.truth (truths.foldl connective.truth truth)) := by
  induction truths generalizing exprs with
  | nil =>
    intro read truth first
    cases evaluated
    exact first
  | cons second truths step =>
    intro read truth first
    obtain ⟨next, exprs, one, others, rfl⟩ := List.forall₂_cons_right_iff.mp evaluated
    refine step others ?_
    cases connective
    · rw [groupJoin, Expr.outcome, first, one]
      rfl
    · rw [groupJoin, Expr.outcome, first, one]
      rfl

/-- **A group of clauses** is a clause, with the truth values joined from the left. -/
theorem IsClause.group (connective : Connective) {draft : Draft} {drafts : List Draft}
    {truth : Truth} {truths : List Truth} (first : IsClause server row draft truth)
    (others : List.Forall₂ (IsClause server row) drafts truths) :
    IsClause server row (parenthesized (joined connective.keyword (draft :: drafts)))
      (truths.foldl connective.truth truth) := by
  have denoted : List.Forall₂ (Denotes server row IsMember) drafts (truths.map .truth) :=
    List.forall₂_map_right_iff.mpr others
  obtain ⟨tokens, lexemes, read, items, exprs, same, readable, joinedLexemes, isFirst, areRead,
    evaluated, evaluatedRest⟩ := denotes_joined (separates_connective connective) denoted first
  refine ⟨_, exprs.foldl (groupJoin connective) read,
    parenthesized_eq_ofTokens.mpr ⟨tokens, same, rfl⟩, readable_parenthesized readable, ?_,
    outcome_group connective evaluatedRest evaluated⟩
  have group := (isCondition_group connective isFirst areRead).parenthesized
  rw [← joinedLexemes] at group
  rw [List.flatMap_append]
  exact group

theorem outcomes_items {exprs : List Expr} {contents : List (Option δ)}
    (evaluated : List.Forall₂ (fun expr outcome => expr.outcome server row = some outcome) exprs
      (contents.map .datum)) : Expr.outcomes server row exprs = some contents := by
  induction contents generalizing exprs with
  | nil =>
    cases evaluated
    rfl
  | cons content contents step =>
    obtain ⟨next, exprs, one, others, rfl⟩ := List.forall₂_cons_right_iff.mp evaluated
    rw [Expr.outcomes, one, step others]
    rfl

/-- **A membership in a list of terms** is a clause. -/
theorem IsTerm.membership {left draft : Draft} {drafts : List Draft} {content item : Option δ}
    {items : List (Option δ)} (term : IsTerm server row left content)
    (first : IsTerm server row draft item)
    (others : List.Forall₂ (IsTerm server row) drafts items) :
    IsClause server row
      (left ++ words [.membership] ++ parenthesized (listed (draft :: drafts)))
      (server.member content (item :: items)) := by
  obtain ⟨tokens, read, rfl, readable, operand, evaluated⟩ := term
  have comma : Separates .comma (.mark .comma) := ⟨by decide, rfl, rfl, rfl⟩
  have isIn : Separates .membership (.word "IN") := ⟨by decide, rfl, rfl, rfl⟩
  have denoted : List.Forall₂ (Denotes server row IsOperand) drafts (items.map .datum) :=
    List.forall₂_map_right_iff.mpr others
  obtain ⟨list, lexemes, one, more, exprs, same, readableList, joinedLexemes, isFirst, areRead,
    evaluatedFirst, evaluatedRest⟩ := denotes_joined comma denoted first
  refine ⟨tokens ++ .keyword .membership ::
    (.keyword .leftParenthesis :: list ++ [.keyword .rightParenthesis]),
    .membership read (one :: exprs), ?_,
    isIn.readable readable (readable_parenthesized readableList), ?_, ?_⟩
  · rw [listed, parenthesized_eq_ofTokens.mpr ⟨list, same, rfl⟩, ofTokens_between]
  · have member := operand.membership isFirst areRead
    rw [← List.append_assoc lexemes, ← joinedLexemes] at member
    rw [isIn.flatMap_lexemes, List.flatMap_append]
    exact member
  · rw [Expr.outcome, evaluated, Expr.outcomes, evaluatedFirst, outcomes_items evaluatedRest]
    rfl

/-! ### Negations and constants -/

theorem IsClause.not {draft : Draft} {truth : Truth} (clause : IsClause server row draft truth) :
    IsClause server row (words [.not] ++ draft) truth.not := by
  obtain ⟨tokens, read, rfl, readable, member, evaluated⟩ := clause
  refine ⟨.keyword .not :: tokens, .not read, rfl, .cons (by decide) rfl readable, member.not, ?_⟩
  rw [Expr.outcome, evaluated]
  rfl

/-- **A negation takes what is unknown for false.** -/
theorem IsClause.negation {draft : Draft} {truth : Truth}
    (clause : IsClause server row draft truth) :
    IsClause server row (words [.not, .coalesceGroup] ++ draft ++ words [.orFalse])
      (Truth.not (some (truth.getD false))) := by
  obtain ⟨tokens, read, rfl, readable, member, evaluated⟩ := clause
  refine ⟨.keyword .not :: .keyword .coalesceGroup :: (tokens ++ [.keyword .orFalse]),
    .not (.coalesce read (.truth false)), rfl, ?_, ?_, ?_⟩
  · refine .cons (by decide) rfl (.cons (by decide) rfl (readable.append ?_ ?_))
    · exact .single (by decide : _ ∈ conditionKeywords)
    · intro token begins
      cases begins
      rfl
  · have coalesced := member.isCondition.coalesce.not
    rw [List.flatMap_cons, List.flatMap_cons, List.flatMap_append]
    exact coalesced
  · rw [Expr.outcome, Expr.outcome, evaluated, Expr.outcome]
    cases truth <;> rfl

/-- The constant conditions are equations of numerals. -/
theorem isClause_constant (value : Bool) :
    IsClause server row (words [if value then .true else .false]) (some value) := by
  have one : IsOperand [.number 1] (.number 1) := .primary nofun (fun _ _ => rfl)
  have zero : IsOperand [.number 0] (.number 0) := .primary nofun (fun _ _ => rfl)
  cases value
  · refine ⟨_, .compare .equal (.number 1) (.number 0), rfl,
      .single (by decide : _ ∈ conditionKeywords), one.compare rfl zero, ?_⟩
    simp only [Expr.outcome]
    show some (Outcome.truth (some (server.compare .equal _ _))) = _
    rw [server.compare_numerals]
    rfl
  · refine ⟨_, .compare .equal (.number 1) (.number 1), rfl,
      .single (by decide : _ ∈ conditionKeywords), one.compare rfl one, ?_⟩
    simp only [Expr.outcome]
    show some (Outcome.truth (some (server.compare .equal _ _))) = _
    rw [server.compare_numerals]
    rfl

/-! ### Terms -/

theorem isTerm_column (column : Identifier) :
    IsTerm server row (name column) (row column.text) :=
  ⟨_, .column column.text, rfl, .single trivial, .primary nofun (fun _ _ => rfl), rfl⟩

theorem isTerm_argument (bound : Argument) :
    IsTerm server row (argument bound) (server.argument bound) :=
  ⟨_, .argument bound, rfl, .single trivial, .primary nofun (fun _ _ => rfl), rfl⟩

theorem isTerm_argument_cast (bound : Argument) :
    IsTerm server row (argument bound ++ words [.jsonCast])
      ((server.argument bound).map server.asDocument) := by
  refine ⟨[.argument bound, .keyword .jsonCast], .cast (.argument bound), rfl, ?_,
    .cast nofun (fun _ _ => rfl), rfl⟩
  have cast : Readable [.keyword .jsonCast] := .single (by decide : _ ∈ conditionKeywords)
  refine (@Token.Readable.single (.argument bound) trivial).append cast ?_
  intro token begins
  cases begins
  rfl

/-- The null of JSON is a datum like any other. -/
theorem isTerm_jsonNull :
    IsTerm server row (words [.jsonNull]) (some (server.asDocument (server.literal "null"))) :=
  ⟨_, .cast (.literal "null"), rfl, .single (by decide : _ ∈ conditionKeywords),
    .cast nofun (fun _ _ => rfl), rfl⟩

end Draft

end TwinStore
