/-
**Expressions of an assignment.** How a server groups the pieces of what a column is assigned: casts
first, then the sign of an operand, products, sums, what is joined by other operators, and tests
last.

* `symbols?` reads names, constants, placeholders and signs behind each other. Two strokes or two
  colons are one sign, and two dashes would begin a comment.
* `Formula` is an expression, and `formula?` reads one by recursive descent, one reader for each
  level; what stands between parentheses is an expression again.
* `Draft.Spells`: what symbols a draft is read as. Drafts are read one after the other, because none
  ends in a dash.
* `UpdateOperation.formula?_draft`: the draft of an operation is read as its formula.
-/

import TwinStore.Proofs.Sql.Assignment

namespace TwinStore.Sql

/-! ### Symbols -/

/-- The words that mean something by themselves. Any other word is a name. -/
inductive Reserved where
  | null
  | coalesce
  | greatest
  | least
  | buildArray
  | aggregate
  | elements
  | json
  | case
  | when
  | then
  | else
  | end
  | is
  | not
  | in
  | select
  | from
  | with
  | ordinality
  | as
  | where
  | order
  | by
  deriving DecidableEq

namespace Reserved

def spelling : Reserved → String
  | .null => "null"
  | .coalesce => "coalesce"
  | .greatest => "greatest"
  | .least => "least"
  | .buildArray => "jsonb_build_array"
  | .aggregate => "jsonb_agg"
  | .elements => "jsonb_array_elements"
  | .json => "jsonb"
  | .case => "case"
  | .when => "when"
  | .then => "then"
  | .else => "else"
  | .end => "end"
  | .is => "is"
  | .not => "not"
  | .in => "in"
  | .select => "select"
  | .from => "from"
  | .with => "with"
  | .ordinality => "ordinality"
  | .as => "as"
  | .where => "where"
  | .order => "order"
  | .by => "by"

def all : List Reserved :=
  [.null, .coalesce, .greatest, .least, .buildArray, .aggregate, .elements, .json, .case, .when,
    .then, .else, .end, .is, .not, .in, .select, .from, .with, .ordinality, .as, .where, .order,
    .by]

/-- The word that a text in small letters is. -/
def ofText? (text : List Char) : Option Reserved :=
  all.find? fun word => word.spelling.toList == text

end Reserved

/-- A symbol of an expression. -/
inductive Symbol where
  | word (word : Reserved)
  | name (text : String)
  | literal (text : String)
  | number (value : Nat)
  /-- A placeholder by its number. -/
  | argument (number : Nat)
  | sign (char : Char)
  | cast
  | concatenate
  deriving DecidableEq

/-- The symbol that a piece is alone. Words outside of quotes are read in small letters. -/
def Piece.symbol? : Piece → Option Symbol
  | word text =>
    let small := text.map Char.toLower
    some ((Reserved.ofText? small).elim (.name (String.ofList small)) .word)
  | name text => some (.name (String.ofList text))
  | literal text => some (.literal (String.ofList text))
  | number digits => (Digits.natural? digits).map .number
  | placeholder digits => (Digits.natural? digits).map .argument
  | mark char =>
    if ['(', ')', ',', '.', '+', '-', '*'].contains char then some (.sign char) else none

/-- The symbols of pieces. -/
def symbols? : List Piece → Option (List Symbol)
  | [] => some []
  | .mark ' ' :: rest => symbols? rest
  | .mark '|' :: .mark '|' :: rest => (symbols? rest).map (.concatenate :: ·)
  | .mark ':' :: .mark ':' :: rest => (symbols? rest).map (.cast :: ·)
  | .mark '-' :: .mark '-' :: _ => none
  | piece :: rest => do return (← piece.symbol?) :: (← symbols? rest)

/-- **Pieces are read one after the other**, unless the first ones end in a dash. -/
theorem symbols?_append {left right : List Piece} {first : List Symbol}
    (read : symbols? left = some first) (noDash : left.getLast? ≠ some (.mark '-')) :
    symbols? (left ++ right) = (symbols? right).map (first ++ ·) := by
  have noDash_tail : ∀ {piece : Piece} {rest : List Piece},
      (piece :: rest).getLast? ≠ some (.mark '-') → rest.getLast? ≠ some (.mark '-') := by
    intro piece rest noDash last
    rw [List.getLast?_cons, last] at noDash
    exact noDash rfl
  fun_induction symbols? left generalizing first with
  | case1 =>
    cases read
    simp
  | case2 rest step =>
    rw [List.cons_append, symbols?]
    exact step read (noDash_tail noDash)
  | case3 rest step | case4 rest step =>
    obtain ⟨others, inner, rfl⟩ := Option.map_eq_some_iff.mp read
    rw [List.cons_append, List.cons_append, symbols?,
      step inner (noDash_tail (noDash_tail noDash)), Option.map_map]
    rfl
  | case5 rest => cases read
  | case6 piece rest noBlank noStrokes noColons noComment step =>
    simp only [Option.bind_eq_bind, Option.bind_eq_some_iff] at read
    obtain ⟨symbol, alone, others, inner, ⟨⟩⟩ := read
    -- What follows makes no longer sign of the last piece: strokes and colons are none alone.
    rw [List.cons_append, symbols?, step inner (noDash_tail noDash), alone]
    · cases symbols? right <;> rfl
    · exact noBlank
    · rintro _ rfl
      cases alone
    · rintro _ rfl
      cases alone
    · rintro tail rfl follows
      cases rest with
      | nil => exact noDash rfl
      | cons second rest =>
        cases follows
        exact noComment _ rfl rfl

/-! ### Formulas -/

/-- The operators between two operands. -/
inductive Operator where
  | times
  | plus
  | minus
  | concatenate
  deriving DecidableEq

/-- An expression. -/
inductive Formula where
  | null
  | column (table name : String)
  | argument (number : Nat)
  | literal (text : String)
  | number (value : Nat)
  | negative (inner : Formula)
  /-- The operand as a document. -/
  | cast (inner : Formula)
  | coalesce (first second : Formula)
  | greatest (left right : Formula)
  | least (left right : Formula)
  /-- The array of one item. -/
  | buildArray (item : Formula)
  | combine (operator : Operator) (left right : Formula)
  | isNull (inner : Formula)
  /-- One of two expressions, as a condition has it. -/
  | choose (condition yes no : Formula)
  /-- The operand is none of an array's items. -/
  | notIn (item source : Formula)
  /-- The array of an item of each row, in the order of a key. -/
  | collect (item key : Formula)
  /-- What a query makes of the items of an array that meet a condition. Item and position are
  columns of a table. -/
  | select (output source : Formula) (table item position : String) (condition : Formula)

namespace Formula

/-! ### Readers -/

/-- Reads an expression from the front of symbols. -/
abbrev Reader := List Symbol → Option (Formula × List Symbol)

/-- Takes symbols off. -/
def expect (wanted symbols : List Symbol) : Option (List Symbol) :=
  if wanted.isPrefixOf symbols then some (symbols.drop wanted.length) else none

/-- Reads the two operands of a function behind its opening parenthesis. -/
def readPair (inner : Reader) (join : Formula → Formula → Formula) : Reader := fun symbols => do
  let (first, rest) ← inner symbols
  let (second, rest) ← inner (← expect [.sign ','] rest)
  return (join first second, ← expect [.sign ')'] rest)

/-- Reads a query behind its first word, up to the parenthesis that closes it. -/
def readQuery (inner : Reader) : Reader := fun symbols => do
  let (output, rest) ← inner symbols
  let (source, rest) ← inner (← expect [.word .from, .word .elements, .sign '('] rest)
  match ← expect [.sign ')', .word .with, .word .ordinality, .word .as] rest with
  | .name table :: .sign '(' :: .name item :: .sign ',' :: .name position :: .sign ')' :: rest => do
    let (condition, rest) ← inner (← expect [.word .where] rest)
    return (.select output source table item position condition, ← expect [.sign ')'] rest)
  | _ => none

/-- Reads a constant, a placeholder, a column, a function, a choice, a query or what stands between
parentheses. -/
def readPrimary (inner : Reader) : Reader
  | .word .null :: rest => some (.null, rest)
  | .argument place :: rest => some (.argument place, rest)
  | .literal text :: rest => some (.literal text, rest)
  | .number value :: rest => some (.number value, rest)
  | .name table :: .sign '.' :: .name field :: rest => some (.column table field, rest)
  | .word .coalesce :: .sign '(' :: rest => readPair inner .coalesce rest
  | .word .greatest :: .sign '(' :: rest => readPair inner .greatest rest
  | .word .least :: .sign '(' :: rest => readPair inner .least rest
  | .word .buildArray :: .sign '(' :: rest => do
    let (item, rest) ← inner rest
    return (.buildArray item, ← expect [.sign ')'] rest)
  | .word .aggregate :: .sign '(' :: rest => do
    let (item, rest) ← inner rest
    let (key, rest) ← inner (← expect [.word .order, .word .by] rest)
    return (.collect item key, ← expect [.sign ')'] rest)
  | .word .case :: .word .when :: rest => do
    let (condition, rest) ← inner rest
    let (yes, rest) ← inner (← expect [.word .then] rest)
    let (no, rest) ← inner (← expect [.word .else] rest)
    return (.choose condition yes no, ← expect [.word .end] rest)
  | .sign '(' :: .word .select :: rest => readQuery inner rest
  | .sign '(' :: rest => do
    let (inside, rest) ← inner rest
    return (inside, ← expect [.sign ')'] rest)
  | _ => none

/-- Reads casts behind an expression. -/
def readCasts (left : Formula) : Reader
  | .cast :: .word .json :: rest => readCasts (.cast left) rest
  | rest => some (left, rest)

/-- Reads an operand with the signs in front of it and the casts behind it. -/
def readOperand (inner : Reader) : Reader
  | .sign '-' :: rest => do
    let (operand, rest) ← readOperand inner rest
    return (.negative operand, rest)
  | symbols => do
    let (left, rest) ← readPrimary inner symbols
    readCasts left rest

/-- Reads further operands behind operators and joins each to what stands before it. -/
def readMore (operator? : Symbol → Option Operator) (operand : Reader) : Nat → Formula → Reader
  | fuel + 1, left, symbol :: rest =>
    match operator? symbol with
    | some operator => do
      let (right, rest) ← operand rest
      readMore operator? operand fuel (.combine operator left right) rest
    | none => some (left, symbol :: rest)
  | _, left, rest => some (left, rest)

/-- Reads operands with operators between them. -/
def readChain (operator? : Symbol → Option Operator) (operand : Reader) : Reader :=
  fun symbols => do
    let (left, rest) ← operand symbols
    readMore operator? operand rest.length left rest

/-- The operator of a product. -/
def product? : Symbol → Option Operator
  | .sign '*' => some .times
  | _ => none

/-- The operator of a sum. -/
def sum? : Symbol → Option Operator
  | .sign '+' => some .plus
  | .sign '-' => some .minus
  | _ => none

/-- An operator that binds less than those of arithmetic. -/
def joint? : Symbol → Option Operator
  | .concatenate => some .concatenate
  | _ => none

/-- Reads what a test makes of its left operand. -/
def readTest (inner : Reader) (left : Formula) : Reader
  | .word .is :: .word .null :: rest => some (.isNull left, rest)
  | .word .not :: .word .in :: rest => do
    let (source, rest) ←
      inner (← expect [.sign '(', .word .select, .word .elements, .sign '('] rest)
    return (.notIn left source, ← expect [.sign ')', .sign ')'] rest)
  | rest => some (left, rest)

/-- Reads an expression with others inside it up to a depth. -/
def readFormula : Nat → Reader
  | 0 => fun _ => none
  | depth + 1 => fun symbols => do
    let inner := readFormula depth
    let (left, rest) ←
      readChain joint? (readChain sum? (readChain product? (readOperand inner))) symbols
    readTest inner left rest

/-- The expression that symbols form. -/
def ofSymbols? (symbols : List Symbol) : Option Formula :=
  match readFormula (symbols.length + 1) symbols with
  | some (read, []) => some read
  | _ => none

end Formula

/-- The expression of pieces. -/
def formula? (pieces : List Piece) : Option Formula := (symbols? pieces).bind Formula.ofSymbols?

-- A product comes before a sum, a sum before other operators, and a minus sign before them all.
example :
    Formula.ofSymbols? [.argument 1, .concatenate, .number 2, .sign '-', .sign '-', .number 3,
      .sign '*', .number 4] =
    some (.combine .concatenate (.argument 1) (.combine .minus (.number 2)
      (.combine .times (.negative (.number 3)) (.number 4)))) := by
  rfl

end TwinStore.Sql

namespace TwinStore

open Sql Draft

/-! ### Drafts -/

namespace Draft

/-- From one number of arguments to another the draft is read as the symbols, unless there is a
fault. It ends in no dash. -/
def Spells (bound : Nat) (draft : Draft) (after : Nat) (symbols : List Symbol) : Prop :=
  ∀ tokens, draft = ofTokens tokens →
    symbols? (Token.piecesFrom bound tokens) = some symbols ∧
      (Token.piecesFrom bound tokens).getLast? ≠ some (.mark '-') ∧
        bound + (Token.arguments tokens).length = after

namespace Spells

variable {left right : Draft} {bound middle after : Nat} {first others : List Symbol}

theorem append (one : left.Spells bound middle first) (two : right.Spells middle after others) :
    (left ++ right).Spells bound after (first ++ others) := by
  intro tokens joined
  obtain ⟨front, last, rfl, rfl, rfl⟩ := append_eq_ofTokens.mp joined
  obtain ⟨readFront, noDashFront, rfl⟩ := one front rfl
  obtain ⟨readLast, noDashLast, rfl⟩ := two last rfl
  rw [Token.piecesFrom_append]
  refine ⟨?_, ?_, ?_⟩
  · rw [symbols?_append readFront noDashFront, readLast, Option.map_some]
  · rw [List.getLast?_append]
    intro dash
    rcases Option.or_eq_some_iff.mp dash with here | ⟨-, before⟩
    · exact noDashLast here
    · exact noDashFront before
  · rw [Token.arguments_append, List.length_append, Nat.add_assoc]

theorem fail (error : CompileError) : (fail error).Spells bound after first :=
  fun _ finished => by cases finished

theorem name (identifier : Identifier) :
    (name identifier).Spells bound bound [.name identifier.text] := by
  rintro tokens finished
  cases finished
  refine ⟨?_, by simp [Token.piecesFrom, Token.pieces], rfl⟩
  simp [Token.piecesFrom, Token.pieces, symbols?, Piece.symbol?]

/-- A placeholder has the number behind those that are bound. -/
theorem argument (content : Argument) :
    (argument content).Spells bound (bound + 1) [.argument (bound + 1)] := by
  rintro tokens finished
  cases finished
  refine ⟨?_, by simp [Token.piecesFrom, Token.pieces], rfl⟩
  simp [Token.piecesFrom, Token.pieces, symbols?, Piece.symbol?]

end Spells

end Draft

/-- The symbols that a keyword of an assignment's expression is read as. -/
def assignmentSymbols? : Keyword → Option (List Symbol)
  | .dot => some [.sign '.']
  | .null => some [.word .null]
  | .coalesce => some [.word .coalesce, .sign '(']
  | .orZero => some [.sign ',', .number 0, .sign ')']
  | .plus => some [.sign '+']
  | .space => some []
  | .star => some [.sign '*']
  | .greatest => some [.word .greatest, .sign '(']
  | .least => some [.word .least, .sign '(']
  | .comma => some [.sign ',']
  | .rightParenthesis => some [.sign ')']
  | .orEmptyArray => some [.sign ',', .literal "[]", .cast, .word .json, .sign ')']
  | .concatenate => some [.concatenate]
  | .buildArray => some [.word .buildArray, .sign '(']
  | .jsonCast => some [.cast, .word .json]
  | .removalWhen => some [.word .case, .word .when]
  | .removalItems =>
    some
      [.word .is, .word .null, .word .then, .word .null, .word .else, .sign '(', .word .select,
        .word .coalesce, .sign '(', .word .aggregate, .sign '(', .name "e", .sign '.',
        .name "value", .word .order, .word .by, .name "e", .sign '.', .name "ord", .sign ')',
        .sign ',', .literal "[]", .cast, .word .json, .sign ')', .word .from, .word .elements,
        .sign '(']
  | .removalWithout =>
    some
      [.sign ')', .word .with, .word .ordinality, .word .as, .name "e", .sign '(', .name "value",
        .sign ',', .name "ord", .sign ')', .word .where, .name "e", .sign '.', .name "value",
        .word .not, .word .in, .sign '(', .word .select, .word .elements, .sign '(']
  | .removalEnd => some [.sign ')', .sign ')', .sign ')', .word .end]
  | .dropFirst => some [.sign '-', .number 0]
  | .dropLast => some [.sign '-', .sign '-', .number 1]
  | _ => none

theorem symbols?_pieces {word : Keyword} {symbols : List Symbol}
    (known : assignmentSymbols? word = some symbols) :
    symbols? word.pieces = some symbols ∧ word.pieces.getLast? ≠ some (.mark '-') := by
  cases word <;> cases known
  -- Literal texts are replaced by their characters, which are cheaper to compute with.
  all_goals delta Keyword.pieces Keyword.spelling
  all_goals dsimp only
  all_goals repeat rw [String.toList_append]
  all_goals repeat rw [String.toList_ofList]
  all_goals decide +kernel

theorem Draft.Spells.word (word : Keyword) (bound : Nat) {symbols : List Symbol}
    (known : assignmentSymbols? word = some symbols := by rfl) :
    (words [word]).Spells bound bound symbols := by
  rintro tokens finished
  cases finished
  obtain ⟨read, noDash⟩ := symbols?_pieces known
  rw [List.map_singleton, Token.piecesFrom_word]
  exact ⟨read, noDash, rfl⟩

theorem columnOf_spells (table column : Identifier) (bound : Nat) :
    (columnOf table column).Spells bound bound
      [.name table.text, .sign '.', .name column.text] := by
  have dot := Spells.word .dot bound
  exact ((Spells.name table).append dot).append (Spells.name column)

theorem nestedArgument_spells (value : Value) (bound : Nat) :
    (nestedArgument value).Spells bound (bound + 1)
      [.argument (bound + 1), .cast, .word .json] :=
  (Spells.argument _).append (.word .jsonCast _)

/-! ### Operations -/

namespace UpdateOperation

/-- The items of an array that are none of another array's, in their order. -/
def removalFormula (current removed : Formula) : Formula :=
  .choose (.isNull current) .null
    (.select
      (.coalesce (.collect (.column "e" "value") (.column "e" "ord")) (.cast (.literal "[]")))
      current "e" "value" "ord" (.notIn (.column "e" "value") removed))

/-- What an operation is written as, with the placeholder of its operand. -/
def formula (current operand : Formula) : UpdateOperation → Formula
  | .set .null => .null
  | .set _ => operand
  | .increment _ => .combine .plus (.coalesce current (.number 0)) operand
  | .multiply _ => .combine .times (.coalesce current (.number 0)) operand
  | .max _ => .greatest current operand
  | .min _ => .least current operand
  | .push _ =>
    .combine .concatenate (.coalesce current (.cast (.literal "[]"))) (.buildArray (.cast operand))
  | .removeAll _ => removalFormula current (.cast operand)
  | .popFirst => .combine .minus current (.number 0)
  | .popLast => .combine .minus current (.negative (.number 1))

theorem exists_spells (operation : UpdateOperation) (field : String) (table column : Identifier)
    (bound : Nat) :
    ∃ after symbols, (operation.draft field (columnOf table column)).Spells bound after symbols ∧
      Formula.ofSymbols? symbols =
        some (operation.formula (.column table.text column.text) (.argument (bound + 1))) := by
  have read := columnOf_spells table column bound
  have coalesced := (Spells.word .coalesce bound).append read
  cases operation with
  | set value =>
    cases value with
    | null => exact ⟨_, _, .word .null bound, rfl⟩
    | _ => exact ⟨_, _, Spells.argument _, rfl⟩
  | increment amount =>
    have sign := (Spells.word .orZero bound).append (.word .plus bound)
    exact ⟨_, _, (coalesced.append sign).append (Spells.argument _), rfl⟩
  | multiply factor =>
    have space := Spells.word .space bound
    have star := space.append ((Spells.word .star bound).append space)
    have sign := (Spells.word .orZero bound).append star
    exact ⟨_, _, (coalesced.append sign).append (Spells.argument _), rfl⟩
  | max value =>
    have first := ((Spells.word .greatest bound).append read).append (.word .comma bound)
    exact ⟨_, _, (first.append (Spells.argument _)).append (.word .rightParenthesis _), rfl⟩
  | min value =>
    have first := ((Spells.word .least bound).append read).append (.word .comma bound)
    exact ⟨_, _, (first.append (Spells.argument _)).append (.word .rightParenthesis _), rfl⟩
  | push value =>
    have build := (Spells.word .concatenate bound).append (.word .buildArray bound)
    have front := coalesced.append ((Spells.word .orEmptyArray bound).append build)
    have item := nestedArgument_spells value bound
    exact ⟨_, _, (front.append item).append (.word .rightParenthesis _), rfl⟩
  | removeAll removed =>
    have tested := ((Spells.word .removalWhen bound).append read).append (.word .removalItems bound)
    have queried := (tested.append read).append (.word .removalWithout bound)
    have items := nestedArgument_spells removed bound
    have spelled : ∀ {after : Nat} {symbols : List Symbol},
        (removalDraft (columnOf table column) removed).Spells bound after symbols →
        ((removeAll removed).draft field (columnOf table column)).Spells bound after symbols := by
      intro after symbols whole
      simp only [draft]
      split
      · exact whole
      · exact .fail _
    exact ⟨_, _, spelled ((queried.append items).append (.word .removalEnd _)), rfl⟩
  | popFirst => exact ⟨_, _, read.append (.word .dropFirst bound), rfl⟩
  | popLast => exact ⟨_, _, read.append (.word .dropLast bound), rfl⟩

/-- **The draft of an operation is read as its formula.** -/
theorem formula?_draft {operation : UpdateOperation} {field : String} {table column : Identifier}
    {tokens : List Token}
    (drafted : operation.draft field (columnOf table column) = ofTokens tokens) (bound : Nat) :
    formula? (Token.piecesFrom bound tokens) =
      some (operation.formula (.column table.text column.text) (.argument (bound + 1))) := by
  obtain ⟨after, symbols, spells, read⟩ := operation.exists_spells field table column bound
  rw [formula?, (spells tokens drafted).1, Option.bind_some, read]

end UpdateOperation

end TwinStore
