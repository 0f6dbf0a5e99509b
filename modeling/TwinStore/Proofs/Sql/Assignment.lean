/-
**The assignments of an update.** The text of an update's assignments, taken apart at the commas
outside of parentheses, has one assignment for each operation.

* `readParts?` reads a list part by part, and `assignments?` reads a text. The commas between the
  operands of a function are inside parentheses and end no assignment.
* `Draft.Nests`: from what depth of parentheses to what depth a draft leads. Drafts nest one after
  the other, and every expression ends at the depth where it begins.
* `UpdateSet.Assigns`: each operation's column, and its expression with the placeholders of its own
  operands.
* `UpdateSet.assignments?_render`: what is read are the assignments of the operations.
-/

import TwinStore.Proofs.Identifier
import TwinStore.Proofs.Sql.Layout

namespace TwinStore.Sql

/-! ### Reading a list -/

/-- The depth of parentheses behind a piece. -/
def Piece.depthAfter (depth : Nat) (piece : Piece) : Nat :=
  if piece = .mark '(' then depth + 1
  else if piece = .mark ')' then depth - 1
  else depth

/-- The parts between the commas outside of parentheses: the first one, and the others. -/
def listParts (depth : Nat) : List Piece → List Piece × List (List Piece)
  | [] => ([], [])
  | piece :: rest =>
    if depth = 0 ∧ piece = .mark ',' then
      let (first, others) := listParts 0 rest
      ([], first :: others)
    else
      let (first, others) := listParts (piece.depthAfter depth) rest
      (piece :: first, others)

/-- Reads a part behind the blanks in front of it. -/
def readPart? {α : Type} (read : List Piece → Option α) (part : List Piece) : Option α :=
  read (part.dropWhile fun piece => piece = .mark ' ')

/-- Reads the parts of a list. -/
def readParts? {α : Type} (read : List Piece → Option α) (pieces : List Piece) :
    Option (List α) :=
  ((listParts 0 pieces).1 :: (listParts 0 pieces).2).mapM (readPart? read)

/-- The column and the expression of an assignment. -/
def assignment? : List Piece → Option (String × List Piece)
  | .name column :: .mark ' ' :: .mark '=' :: .mark ' ' :: expression =>
    some (String.ofList column, expression)
  | _ => none

/-- The assignment of a part, behind the blanks in front of it. -/
def partAssignment? (part : List Piece) : Option (String × List Piece) :=
  assignment? (part.dropWhile fun piece => piece = .mark ' ')

/-- The assignments of pieces. -/
def readAssignments? (pieces : List Piece) : Option (List (String × List Piece)) :=
  ((listParts 0 pieces).1 :: (listParts 0 pieces).2).mapM partAssignment?

/-- The assignments of a text. -/
def assignments? (text : List Char) : Option (List (String × List Piece)) :=
  (pieces? text).bind readAssignments?

/-! ### Nesting -/

/-- The depth of parentheses behind pieces, unless one of them is a comma outside of parentheses or
closes what is not open. -/
def nesting? (depth : Nat) : List Piece → Option Nat
  | [] => some depth
  | piece :: rest =>
    if depth = 0 ∧ (piece = .mark ',' ∨ piece = .mark ')') then none
    else nesting? (piece.depthAfter depth) rest

theorem nesting?_append {depth middle : Nat} {left : List Piece}
    (inner : nesting? depth left = some middle) (right : List Piece) :
    nesting? depth (left ++ right) = nesting? middle right := by
  induction left generalizing depth with
  | nil =>
    cases inner
    rfl
  | cons piece rest step =>
    rw [nesting?] at inner
    rw [List.cons_append, nesting?]
    by_cases ends : depth = 0 ∧ (piece = .mark ',' ∨ piece = .mark ')')
    · rw [if_pos ends] at inner
      cases inner
    · rw [if_neg ends] at inner ⊢
      exact step inner

/-- **Pieces that nest are in one part.** -/
theorem listParts_append {depth middle : Nat} {left : List Piece}
    (inner : nesting? depth left = some middle) (right : List Piece) :
    listParts depth (left ++ right) =
      (left ++ (listParts middle right).1, (listParts middle right).2) := by
  induction left generalizing depth with
  | nil =>
    cases inner
    rfl
  | cons piece rest step =>
    rw [nesting?] at inner
    have within : ¬(depth = 0 ∧ (piece = .mark ',' ∨ piece = .mark ')')) := by
      intro ends
      rw [if_pos ends] at inner
      cases inner
    have noComma : ¬(depth = 0 ∧ piece = .mark ',') :=
      fun comma => within ⟨comma.1, .inl comma.2⟩
    rw [if_neg within] at inner
    rw [List.cons_append, listParts, if_neg noComma, step inner]
    rfl

/-- Whatever pieces do at one depth, they do further inside. -/
theorem nesting?_raise {depth after : Nat} {pieces : List Piece}
    (inner : nesting? depth pieces = some after) (more : Nat) :
    nesting? (depth + more) pieces = some (after + more) := by
  induction pieces generalizing depth with
  | nil =>
    cases inner
    rfl
  | cons piece rest step =>
    rw [nesting?] at inner ⊢
    by_cases ends : depth = 0 ∧ (piece = .mark ',' ∨ piece = .mark ')')
    · rw [if_pos ends] at inner
      cases inner
    · rw [if_neg ends] at inner
      rw [if_neg fun outside => ends ⟨by omega, outside.2⟩]
      have deeper : piece.depthAfter (depth + more) = piece.depthAfter depth + more := by
        unfold Piece.depthAfter
        split_ifs with opens closes
        · omega
        · have inside : depth ≠ 0 := fun none_ => ends ⟨none_, .inr closes⟩
          omega
        · rfl
      rw [deeper]
      exact step inner

/-- A comma ends a part, and a blank begins the next one. -/
theorem listParts_comma {left right : List Piece} (inner : nesting? 0 left = some 0) :
    listParts 0 (left ++ (Keyword.comma.pieces ++ right)) =
      (left, (.mark ' ' :: (listParts 0 right).1) :: (listParts 0 right).2) := by
  have comma : Keyword.comma.pieces = [.mark ',', .mark ' '] := by decide +kernel
  rw [listParts_append inner, comma]
  simp [listParts, Piece.depthAfter]

section Parts

variable {α : Type} {read : List Piece → Option α} {left right : List Piece} {value : α}
  {others : List α}

theorem readPart?_blank (part : List Piece) :
    readPart? read (.mark ' ' :: part) = readPart? read part := by
  simp [readPart?]

/-- One part is read as such. -/
theorem readParts?_single (inner : nesting? 0 left = some 0)
    (one : readPart? read left = some value) : readParts? read left = some [value] := by
  have whole := listParts_append inner []
  rw [List.append_nil] at whole
  rw [readParts?, whole]
  simp [listParts, one]

/-- A comma ends a part. -/
theorem readParts?_comma (inner : nesting? 0 left = some 0)
    (one : readPart? read left = some value) (later : readParts? read right = some others) :
    readParts? read (left ++ (Keyword.comma.pieces ++ right)) = some (value :: others) := by
  rw [readParts?, List.mapM_cons] at later
  rw [readParts?, listParts_comma inner, List.mapM_cons, List.mapM_cons, readPart?_blank, one,
    later]
  rfl

end Parts

end TwinStore.Sql

namespace TwinStore

open Sql Draft

theorem Token.piecesFrom_append (bound : Nat) (left right : List Token) :
    piecesFrom bound (left ++ right) =
      piecesFrom bound left ++ piecesFrom (bound + (arguments left).length) right := by
  induction left generalizing bound with
  | nil => rfl
  | cons token rest step =>
    have split : (arguments (token :: rest)).length =
        (arguments [token]).length + (arguments rest).length := by
      rw [← List.singleton_append, arguments_append, List.length_append]
    rw [List.cons_append, piecesFrom, piecesFrom, step, split, List.append_assoc, Nat.add_assoc]

theorem Token.piecesFrom_keyword (bound : Nat) (left : List Token) (word : Keyword)
    (right : List Token) :
    piecesFrom bound (left ++ .keyword word :: right) =
      piecesFrom bound left ++
        (word.pieces ++ piecesFrom (bound + (arguments left).length) right) := by
  rw [piecesFrom_append]
  rfl

theorem Token.piecesFrom_word (bound : Nat) (word : Keyword) :
    piecesFrom bound [.keyword word] = word.pieces :=
  List.append_nil _

namespace Draft

/-- From one depth of parentheses to another the tokens lead, unless there is a fault. -/
def Nests (draft : Draft) (before after : Nat) : Prop :=
  ∀ tokens, draft = ofTokens tokens →
    ∀ bound, nesting? before (Token.piecesFrom bound tokens) = some after

namespace Nests

variable {left right : Draft} {before middle after : Nat}

theorem append (one : left.Nests before middle) (two : right.Nests middle after) :
    (left ++ right).Nests before after := by
  intro tokens joined bound
  obtain ⟨first, last, rfl, rfl, rfl⟩ := append_eq_ofTokens.mp joined
  rw [Token.piecesFrom_append, nesting?_append (one first rfl bound)]
  exact two last rfl _

theorem fail (error : CompileError) : (fail error).Nests before after :=
  fun _ finished => by cases finished

theorem raise (inner : left.Nests before after) (more : Nat) :
    left.Nests (before + more) (after + more) :=
  fun tokens finished bound => nesting?_raise (inner tokens finished bound) more

theorem name (identifier : Identifier) : (name identifier).Nests before before := by
  rintro tokens finished bound
  cases finished
  simp [Token.piecesFrom, Token.pieces, nesting?, Piece.depthAfter]

theorem argument (bound : Argument) : (argument bound).Nests before before := by
  rintro tokens finished number
  cases finished
  simp [Token.piecesFrom, Token.pieces, nesting?, Piece.depthAfter]

end Nests

end Draft

/-! ### Expressions -/

/-- The keywords of assignments, with the depths that they lead from and to. -/
def assignmentDepths : List (Keyword × Nat × Nat) :=
  [(.equals, 0, 0), (.dot, 0, 0), (.null, 0, 0), (.coalesce, 0, 1), (.orZero, 1, 0), (.plus, 0, 0),
    (.space, 0, 0),
    (.star, 0, 0), (.greatest, 0, 1), (.least, 0, 1), (.comma, 1, 1), (.rightParenthesis, 1, 0),
    (.orEmptyArray, 1, 0), (.concatenate, 0, 0), (.buildArray, 0, 1), (.jsonCast, 0, 0),
    (.removalWhen, 0, 0), (.removalItems, 0, 2), (.removalWithout, 2, 3), (.removalEnd, 3, 0),
    (.dropFirst, 0, 0), (.dropLast, 0, 0)]

theorem nesting?_assignmentDepths :
    ∀ entry ∈ assignmentDepths, nesting? entry.2.1 entry.1.pieces = some entry.2.2 := by
  -- Literal texts are replaced by their characters, which are cheaper to compute with.
  delta assignmentDepths Keyword.pieces Keyword.spelling
  repeat' refine List.forall_mem_cons.mpr ⟨?_, ?_⟩
  all_goals try dsimp only
  all_goals repeat rw [String.toList_append]
  all_goals repeat rw [String.toList_ofList]
  all_goals decide +kernel

theorem Draft.Nests.word (word : Keyword) (before after : Nat)
    (known : (word, before, after) ∈ assignmentDepths := by decide) :
    (words [word]).Nests before after := by
  rintro tokens finished bound
  cases finished
  rw [List.map_singleton, Token.piecesFrom_word]
  exact nesting?_assignmentDepths _ known

theorem columnOf_nests (table column : Identifier) : (columnOf table column).Nests 0 0 :=
  ((Nests.name table).append (.word .dot 0 0)).append (Nests.name column)

theorem nestedArgument_nests (value : Value) : (nestedArgument value).Nests 0 0 :=
  (Nests.argument _).append (.word .jsonCast 0 0)

/-- **An expression ends at the depth where it begins.** -/
theorem UpdateOperation.draft_nests {field : String} {current : Draft} (read : current.Nests 0 0)
    (operation : UpdateOperation) : (operation.draft field current).Nests 0 0 := by
  have extremum : ∀ {function : Keyword} (value : Value),
      (words [function]).Nests 0 1 → (extremumDraft function current value).Nests 0 0 := by
    intro function value opens
    exact (((opens.append (read.raise 1)).append (.word .comma 1 1)).append
      (Nests.argument _)).append (.word .rightParenthesis 1 0)
  have arithmetic : ∀ {sign : List Keyword} (amount : Number),
      (words (.orZero :: sign)).Nests 1 0 → (arithmeticDraft current sign amount).Nests 0 0 := by
    intro sign amount closes
    exact (((Nests.word .coalesce 0 1).append (read.raise 1)).append closes).append
      (Nests.argument _)
  cases operation with
  | set value =>
    cases value with
    | null => exact .word .null 0 0
    | _ => exact Nests.argument _
  | increment amount =>
    exact arithmetic amount ((Nests.word .orZero 1 0).append (.word .plus 0 0))
  | multiply factor =>
    have star : (words [.space, .star, .space]).Nests 0 0 :=
      (Nests.word .space 0 0).append ((Nests.word .star 0 0).append (.word .space 0 0))
    exact arithmetic factor ((Nests.word .orZero 1 0).append star)
  | max value => exact extremum value (.word .greatest 0 1)
  | min value => exact extremum value (.word .least 0 1)
  | push value =>
    have between : (words [.orEmptyArray, .concatenate, .buildArray]).Nests 1 1 :=
      (Nests.word .orEmptyArray 1 0).append
        ((Nests.word .concatenate 0 0).append (.word .buildArray 0 1))
    exact ((((Nests.word .coalesce 0 1).append (read.raise 1)).append between).append
      ((nestedArgument_nests value).raise 1)).append (.word .rightParenthesis 1 0)
  | removeAll removed =>
    cases listed : removed.items? with
    | none =>
      simp only [UpdateOperation.draft, listed]
      exact .fail _
    | some items =>
      simp only [UpdateOperation.draft, listed]
      have tested := ((Nests.word .removalWhen 0 0).append read).append (.word .removalItems 0 2)
      exact (((tested.append (read.raise 2)).append (.word .removalWithout 2 3)).append
        ((nestedArgument_nests removed).raise 3)).append (.word .removalEnd 3 0)
  | popFirst => exact read.append (.word .dropFirst 0 0)
  | popLast => exact read.append (.word .dropLast 0 0)

/-! ### Assignments -/

theorem assignmentDraft_nests (table : Identifier) (field : String)
    (operation : UpdateOperation) : (assignmentDraft table field operation).Nests 0 0 := by
  unfold assignmentDraft
  split
  · exact .fail _
  · cases columnName field with
    | error error => exact .fail _
    | ok column =>
      exact ((Nests.name column).append (.word .equals 0 0)).append
        (operation.draft_nests (columnOf_nests table column))

namespace UpdateSet

/-- Assignments are those of operations one by one, behind a number of arguments that are bound: to
the column of the field the expression of the operation, with one placeholder for each of its
operands. -/
inductive Assigns (table : Identifier) :
    Nat → List (String × UpdateOperation) → List (String × List Piece) → Prop
  | nil (bound : Nat) : Assigns table bound [] []
  | cons {bound : Nat} {field : String} {operation : UpdateOperation} {column : Identifier}
      {expression : List Token} {rest : List (String × UpdateOperation)}
      {others : List (String × List Piece)}
      (named : columnName field = .ok column)
      (drafted : operation.draft field (columnOf table column) = ofTokens expression)
      (numbered : (Token.piecesFrom bound expression).filterMap Piece.placeholder? =
        numbersFrom bound operation.arguments.length)
      (later : Assigns table (bound + operation.arguments.length) rest others) :
      Assigns table bound ((field, operation) :: rest)
        ((column.text, Token.piecesFrom bound expression) :: others)

/-- The tokens of an assignment. -/
theorem assignmentDraft_eq_ofTokens {table : Identifier} {field : String}
    {operation : UpdateOperation} {tokens : List Token}
    (drafted : assignmentDraft table field operation = ofTokens tokens) :
    ∃ column expression, columnName field = .ok column ∧
      operation.draft field (columnOf table column) = ofTokens expression ∧
      tokens = .name column :: .keyword .equals :: expression := by
  unfold assignmentDraft at drafted
  split at drafted
  · cases drafted
  · cases named : columnName field with
    | error error =>
      rw [named] at drafted
      cases drafted
    | ok column =>
      rw [named] at drafted
      obtain ⟨front, expression, opening, written, rfl⟩ := append_eq_ofTokens.mp drafted
      cases opening
      exact ⟨column, expression, rfl, written, rfl⟩

/-- The pieces of an assignment. -/
theorem piecesFrom_assignment (bound : Nat) (column : Identifier) (expression : List Token) :
    Token.piecesFrom bound (.name column :: .keyword .equals :: expression) =
      .name column.text.toList :: .mark ' ' :: .mark '=' :: .mark ' ' ::
        Token.piecesFrom bound expression := by
  have equals : Keyword.equals.pieces = [.mark ' ', .mark '=', .mark ' '] := by decide +kernel
  simp only [Token.piecesFrom, Token.pieces, equals, Token.arguments, Token.argument?,
    List.filterMap_cons, List.filterMap_nil, List.length_nil, Nat.add_zero, List.cons_append,
    List.nil_append]

theorem partAssignment?_pieces (column : Identifier) (expression : List Piece) :
    partAssignment? (.name column.text.toList :: .mark ' ' :: .mark '=' :: .mark ' ' ::
      expression) = some (column.text, expression) := by
  simp [partAssignment?, assignment?]

/-- **What is read are the assignments of the operations**, one by one. -/
theorem exists_assigns {table : Identifier} {update : UpdateSet} {parts : List (List Token)}
    (drafted : List.Forall₂
      (fun entry part => assignmentDraft table entry.1 entry.2 = ofTokens part) update parts)
    (some_ : update ≠ []) (bound : Nat) :
    ∃ assigned,
      readAssignments? (Token.piecesFrom bound (List.intercalate [.keyword .comma] parts)) =
        some assigned ∧
      Assigns table bound update assigned := by
  induction drafted generalizing bound with
  | nil => exact absurd rfl some_
  | @cons entry part _ _ one later step =>
    obtain ⟨field, operation⟩ := entry
    obtain ⟨column, expression, named, written, rfl⟩ := assignmentDraft_eq_ofTokens one
    have inner := assignmentDraft_nests table field operation _ one bound
    have binds : Token.arguments expression = operation.arguments := by
      have writes : (operation.draft field (columnOf table column)).Writes operation.arguments :=
        operation.draft_writes (columnOf_writes table column)
      rw [written] at writes
      exact writes.binds rfl
    have read := partAssignment?_pieces column (Token.piecesFrom bound expression)
    rw [← piecesFrom_assignment] at read
    have numbered := Token.placeholders_piecesFrom bound expression
    rw [binds] at numbered
    cases later with
    | nil =>
      rw [List.intercalate_singleton]
      exact ⟨_, readParts?_single inner read, .cons named written numbered (.nil _)⟩
    | cons two rest =>
      obtain ⟨assigned, readLater, assigns⟩ :=
        step (List.cons_ne_nil _ _) (bound + operation.arguments.length)
      have counted : (Token.arguments (.name column :: .keyword .equals :: expression)).length =
          operation.arguments.length := congrArg List.length binds
      rw [List.intercalate_cons_cons, List.append_assoc, List.singleton_append,
        Token.piecesFrom_keyword, counted]
      exact ⟨_, readParts?_comma inner read readLater, .cons named written numbered assigns⟩

/-- **The text of an update's assignments** is read as those of its operations. -/
theorem assignments?_render {update : UpdateSet} {table : Identifier} {tokens : List Token}
    (drafted : update.draft table = ofTokens tokens) (some_ : update ≠ []) (bound : Nat) :
    ∃ assigned, assignments? (Token.render bound tokens).toList = some assigned ∧
      Assigns table bound update assigned := by
  have writes := update.draft_writes table
  rw [drafted] at writes
  have apart : tokens.IsChain Token.Apart := writes.apart
  obtain ⟨parts, drafts, rfl⟩ := joined_eq_ofTokens.mp drafted
  have one_by_one : List.Forall₂
      (fun entry part => assignmentDraft table entry.1 entry.2 = ofTokens part) update parts := by
    have same := congrFun (congrFun List.forall₂_eq_eq_eq _) _ ▸ drafts
    rwa [List.forall₂_map_left_iff, List.forall₂_map_right_iff] at same
  obtain ⟨assigned, read, assigns⟩ := exists_assigns one_by_one some_ bound
  refine ⟨assigned, ?_, assigns⟩
  rw [Token.render, String.toList_ofList, assignments?, Token.pieces?_charsFrom apart,
    Option.bind_some, read]

/-- The columns that are assigned are those of the fields, which are called alike but for the id. -/
theorem Assigns.columns {table : Identifier} {bound : Nat}
    {update : List (String × UpdateOperation)} {assigned : List (String × List Piece)}
    (assigns : Assigns table bound update assigned)
    (plain : documentIdName ∉ update.map Prod.fst) :
    assigned.map Prod.fst = update.map Prod.fst := by
  induction assigns with
  | nil => rfl
  | cons named _ _ _ step =>
    rw [List.map_cons, List.mem_cons, not_or] at plain
    rw [columnName_eq_ok, if_neg (Ne.symm plain.1)] at named
    rw [List.map_cons, List.map_cons, step plain.2, named]

end UpdateSet

end TwinStore
