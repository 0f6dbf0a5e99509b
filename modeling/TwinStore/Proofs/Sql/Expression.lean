/-
**Expressions of a condition.** How a server groups the lexemes of a condition: casts first, then
paths, then tests (comparisons, `IS` and `IN`), then `NOT`, then `AND`, then `OR`.

* `readCondition` reads by recursive descent, one reader for each level; what stands between
  parentheses is a condition again.
* `IsOperand`, `IsMember` and `IsCondition` say that lexemes are read as an expression whatever
  follows, and the lemmas on them say how such lexemes are put together.
* `IsCondition.expression?`: the lexemes of a condition are an expression on their own.
-/

import Mathlib.Data.List.Forall2
import TwinStore.Predicate
import TwinStore.Proofs.Sql.Lexeme

namespace TwinStore.Sql

/-- The signs of comparisons. -/
inductive Sign where
  | equal
  | greater
  | atLeast
  | less
  | atMost
  deriving DecidableEq

/-- An expression. -/
inductive Expr where
  | column (name : String)
  | argument (argument : Argument)
  | literal (text : String)
  | number (value : Nat)
  | truth (value : Bool)
  /-- The operand as a JSON document. -/
  | cast (inner : Expr)
  /-- What a path leads to in a document. -/
  | extract (document path : Expr)
  | compare (sign : Sign) (left right : Expr)
  | distinct (left right : Expr)
  | isNull (inner : Expr)
  | membership (inner : Expr) (items : List Expr)
  | not (inner : Expr)
  | and (left right : Expr)
  | or (left right : Expr)
  | coalesce (first second : Expr)

/-- The sign that a mark is. -/
def Mark.sign? : Mark → Option Sign
  | .equals => some .equal
  | .greater => some .greater
  | .atLeast => some .atLeast
  | .less => some .less
  | .atMost => some .atMost
  | .left | .right | .comma | .cast | .extract => none

/-- The lexeme is the word. -/
def Lexeme.isWord (text : String) : Lexeme → Bool
  | .word found => found == text
  | _ => false

/-- The lexeme is the mark. -/
def Lexeme.isMark (mark : Mark) : Lexeme → Bool
  | .mark found => found == mark
  | _ => false

/-! ### Readers -/

/-- Reads an expression from the front of lexemes. -/
abbrev Reader := List Lexeme → Option (Expr × List Lexeme)

/-- Takes a mark off. -/
def expect (mark : Mark) : List Lexeme → Option (List Lexeme)
  | lexeme :: rest => if lexeme.isMark mark then some rest else none
  | [] => none

/-- Reads further items behind separators and joins each to what stands before it. -/
def readMore (separates : Lexeme → Bool) (join : Expr → Expr → Expr) (item : Reader) :
    Nat → Expr → Reader
  | fuel + 1, left, lexeme :: rest =>
    if separates lexeme then do
      let (right, rest) ← item rest
      readMore separates join item fuel (join left right) rest
    else some (left, lexeme :: rest)
  | _, left, rest => some (left, rest)

/-- Reads items with separators between them. -/
def readChain (separates : Lexeme → Bool) (join : Expr → Expr → Expr) (item : Reader) : Reader :=
  fun lexemes => do
    let (left, rest) ← item lexemes
    readMore separates join item rest.length left rest

/-- Reads a column, a constant, an argument, a function or what stands between parentheses. -/
def readPrimary (inner : Reader) : Reader
  | .name text :: rest => some (.column text, rest)
  | .argument bound :: rest => some (.argument bound, rest)
  | .literal text :: rest => some (.literal text, rest)
  | .number value :: rest => some (.number value, rest)
  | .word "TRUE" :: rest => some (.truth true, rest)
  | .word "FALSE" :: rest => some (.truth false, rest)
  | .word "COALESCE" :: .mark .left :: rest => do
    let (first, rest) ← inner rest
    let rest ← expect .comma rest
    let (second, rest) ← inner rest
    return (.coalesce first second, ← expect .right rest)
  | .mark .left :: rest => do
    let (inside, rest) ← inner rest
    return (inside, ← expect .right rest)
  | _ => none

/-- Reads casts behind an expression. -/
def readCasts (left : Expr) : Reader
  | .mark .cast :: .word "jsonb" :: rest => readCasts (.cast left) rest
  | rest => some (left, rest)

/-- Reads an expression with the casts behind it. -/
def readCast (inner : Reader) : Reader := fun lexemes => do
  let (left, rest) ← readPrimary inner lexemes
  readCasts left rest

/-- Reads what a test compares. -/
def readOperand (inner : Reader) : Reader :=
  readChain (Lexeme.isMark .extract) .extract (readCast inner)

/-- Reads items between commas. -/
def readItems (inner : Reader) : Nat → List Lexeme → Option (List Expr × List Lexeme)
  | 0, _ => none
  | fuel + 1, lexemes => do
    let (item, rest) ← inner lexemes
    match rest with
    | .mark .comma :: rest => do
      let (items, rest) ← readItems inner fuel rest
      return (item :: items, rest)
    | rest => return ([item], rest)

/-- Reads what a test makes of its left operand. -/
def readTestOf (inner : Reader) (left : Expr) : Reader
  | .word "IS" :: .word "NULL" :: rest => some (.isNull left, rest)
  | .word "IS" :: .word "NOT" :: .word "NULL" :: rest => some (.not (.isNull left), rest)
  | .word "IS" :: .word "DISTINCT" :: .word "FROM" :: rest => do
    let (right, rest) ← readOperand inner rest
    return (.distinct left right, rest)
  | .word "IN" :: .mark .left :: rest => do
    let (items, rest) ← readItems inner rest.length rest
    return (.membership left items, ← expect .right rest)
  | .mark mark :: rest =>
    match mark.sign? with
    | some sign => do
      let (right, rest) ← readOperand inner rest
      return (.compare sign left right, rest)
    | none => some (left, .mark mark :: rest)
  | rest => some (left, rest)

/-- Reads a test, or an operand alone. -/
def readTest (inner : Reader) : Reader := fun lexemes => do
  let (left, rest) ← readOperand inner lexemes
  readTestOf inner left rest

/-- Reads a test behind any number of negations. -/
def readNegation (inner : Reader) : Reader
  | .word "NOT" :: rest => do
    let (negated, rest) ← readNegation inner rest
    return (.not negated, rest)
  | lexemes => readTest inner lexemes

/-- Reads a condition with parentheses up to a depth. -/
def readCondition : Nat → Reader
  | 0 => fun _ => none
  | depth + 1 =>
    readChain (Lexeme.isWord "OR") .or
      (readChain (Lexeme.isWord "AND") .and (readNegation (readCondition depth)))

/-- The expression that lexemes form. -/
def expression? (lexemes : List Lexeme) : Option Expr :=
  match readCondition (lexemes.length + 1) lexemes with
  | some (read, []) => some read
  | _ => none

/-! ### What ends an expression -/

/-- No member of a group goes on here: the text ends, or a connective, a comma or a closing
parenthesis follows. -/
def Stops (rest : List Lexeme) : Prop :=
  rest = [] ∨ ∃ others, rest = .word "AND" :: others ∨ rest = .word "OR" :: others ∨
    rest = .mark .comma :: others ∨ rest = .mark .right :: others

/-- No group goes on here. -/
def Ends (rest : List Lexeme) : Prop :=
  rest = [] ∨ ∃ others, rest = .mark .comma :: others ∨ rest = .mark .right :: others

/-- No operand goes on here. -/
def StopsOperand (rest : List Lexeme) : Prop :=
  ∀ lexeme ∈ rest.head?, lexeme.isMark .cast = false ∧ lexeme.isMark .extract = false

theorem Ends.stops {rest : List Lexeme} (ends : Ends rest) : Stops rest := by
  rcases ends with rfl | ⟨others, comma | right⟩
  · exact .inl rfl
  · exact .inr ⟨others, .inr (.inr (.inl comma))⟩
  · exact .inr ⟨others, .inr (.inr (.inr right))⟩

theorem Stops.stopsOperand {rest : List Lexeme} (stops : Stops rest) : StopsOperand rest := by
  intro lexeme first
  rcases stops with rfl | ⟨others, rfl | rfl | rfl | rfl⟩ <;> cases first <;> exact ⟨rfl, rfl⟩

/-- Where a member stops, its last operand is no part of a test any more. -/
theorem readTestOf_stop (inner : Reader) (left : Expr) {rest : List Lexeme} (stops : Stops rest) :
    readTestOf inner left rest = some (left, rest) := by
  rcases stops with rfl | ⟨others, rfl | rfl | rfl | rfl⟩ <;> rfl

/-! ### Chains -/

/-- The reader takes the lexemes for the expression, and leaves what follows. -/
def Takes (item : Reader) (follows : List Lexeme → Prop) (lexemes : List Lexeme) (read : Expr) :
    Prop :=
  ∀ rest, follows rest → item (lexemes ++ rest) = some (read, rest)

/-- The separator goes on here, or the group ends. -/
def Follows (separator : Lexeme) (rest : List Lexeme) : Prop :=
  Ends rest ∨ ∃ others, rest = separator :: others

theorem readMore_stop {separates : Lexeme → Bool} {join : Expr → Expr → Expr} {item : Reader}
    (fuel : Nat) (left : Expr) {rest : List Lexeme}
    (none_ : ∀ lexeme ∈ rest.head?, separates lexeme = false) :
    readMore separates join item fuel left rest = some (left, rest) := by
  cases fuel with
  | zero => rfl
  | succ fuel =>
    cases rest with
    | nil => rfl
    | cons lexeme others => rw [readMore, none_ lexeme rfl]; rfl

section Chains

variable {separates : Lexeme → Bool} {join : Expr → Expr → Expr} {item : Reader}

/-- A chain of one item is the item. -/
theorem Takes.chain {follows : List Lexeme → Prop} {lexemes : List Lexeme} {read : Expr}
    (takes : Takes item follows lexemes read)
    (stops : ∀ rest, follows rest → ∀ lexeme ∈ rest.head?, separates lexeme = false) :
    Takes (readChain separates join item) follows lexemes read := by
  intro rest follow
  rw [readChain, takes rest follow]
  exact readMore_stop _ read (stops rest follow)

theorem follows_items {separator : Lexeme} {rest : List Lexeme} (ends : Ends rest) :
    ∀ items : List (List Lexeme),
      Follows separator ((items.flatMap fun lexemes => separator :: lexemes) ++ rest)
  | [] => .inl ends
  | _ :: _ => .inr ⟨_, rfl⟩

/-- There are at least as many lexemes as separators. -/
theorem length_items {separator : Lexeme} (items : List (List Lexeme)) :
    items.length ≤ (items.flatMap fun lexemes => separator :: lexemes).length := by
  induction items with
  | nil => exact Nat.le_refl 0
  | cons lexemes items step =>
    rw [List.flatMap_cons, List.length_append, List.length_cons, List.length_cons]
    omega

/-- Items behind separators are joined from the left. -/
theorem readMore_items {separator : Lexeme} (isSeparator : separates separator = true)
    (stops : ∀ rest, Ends rest → ∀ lexeme ∈ rest.head?, separates lexeme = false)
    {rest : List Lexeme} (ends : Ends rest) {items : List (List Lexeme)} {reads : List Expr}
    (takes : List.Forall₂ (Takes item (Follows separator)) items reads) :
    ∀ (fuel : Nat) (left : Expr), items.length ≤ fuel →
      readMore separates join item fuel left
          ((items.flatMap fun lexemes => separator :: lexemes) ++ rest) =
        some (reads.foldl join left, rest) := by
  induction takes with
  | nil =>
    intro fuel left _
    exact readMore_stop fuel left (stops rest ends)
  | @cons lexemes read items reads first _ step =>
    intro fuel left enough
    obtain ⟨fuel, rfl⟩ : ∃ more, fuel = more + 1 := ⟨fuel - 1, by simp at enough; omega⟩
    have further := step fuel (join left read) (by simpa using enough)
    rw [List.flatMap_cons, List.append_assoc, List.cons_append, readMore, if_pos isSeparator,
      first _ (follows_items ends items)]
    exact further

/-- **A chain of items** is read as the items joined from the left. -/
theorem takes_items {separator : Lexeme} (isSeparator : separates separator = true)
    (stops : ∀ rest, Ends rest → ∀ lexeme ∈ rest.head?, separates lexeme = false)
    {lexemes : List Lexeme} {read : Expr} {items : List (List Lexeme)} {reads : List Expr}
    (first : Takes item (Follows separator) lexemes read)
    (others : List.Forall₂ (Takes item (Follows separator)) items reads) :
    Takes (readChain separates join item) Ends
      (lexemes ++ items.flatMap fun lexemes => separator :: lexemes) (reads.foldl join read) := by
  intro rest ends
  rw [List.append_assoc, readChain, first _ (follows_items ends items)]
  refine readMore_items isSeparator stops ends others _ read ?_
  rw [List.length_append]
  exact Nat.le_add_right_of_le (length_items items)

end Chains

/-! ### Operands, members and conditions -/

/-- The lexemes are an operand, whatever stands between parentheses. -/
def IsOperand (lexemes : List Lexeme) (read : Expr) : Prop :=
  (∃ first others, lexemes = first :: others ∧ first ≠ .word "NOT") ∧
    ∀ depth, Takes (readOperand (readCondition (depth + 1))) StopsOperand lexemes read

/-- The lexemes are a member of a group: a test, or a negation of one. -/
def IsMember (lexemes : List Lexeme) (read : Expr) : Prop :=
  ∀ depth, lexemes.length ≤ depth → Takes (readNegation (readCondition depth)) Stops lexemes read

/-- The lexemes are a condition. -/
def IsCondition (lexemes : List Lexeme) (read : Expr) : Prop :=
  ∀ depth, lexemes.length < depth → Takes (readCondition depth) Ends lexemes read

theorem IsCondition.expression? {lexemes : List Lexeme} {read : Expr}
    (condition : IsCondition lexemes read) : expression? lexemes = some read := by
  have whole := condition (lexemes.length + 1) (Nat.lt_succ_self _) [] (.inl rfl)
  rw [List.append_nil] at whole
  rw [Sql.expression?, whole]

/-! ### Operands -/

/-- Without a cast behind it an expression is complete. -/
theorem readCasts_stop (left : Expr) {rest : List Lexeme} (stops : StopsOperand rest) :
    readCasts left rest = some (left, rest) := by
  unfold readCasts
  split
  · next others =>
    have noCast := (stops (.mark .cast) rfl).1
    cases noCast
  · rfl

/-- An operand that is one part with its casts. -/
theorem IsOperand.of_cast {first : Lexeme} {others : List Lexeme} {read : Expr}
    (plain : first ≠ .word "NOT")
    (takes : ∀ depth, Takes (readCast (readCondition (depth + 1))) StopsOperand (first :: others)
      read) :
    IsOperand (first :: others) read := by
  refine ⟨⟨first, others, rfl, plain⟩, ?_⟩
  intro depth
  exact (takes depth).chain fun rest stops lexeme first => (stops lexeme first).2

/-- A column, a constant or an argument is an operand. -/
theorem IsOperand.primary {lexeme : Lexeme} {read : Expr} (plain : lexeme ≠ .word "NOT")
    (primary : ∀ inner rest, readPrimary inner (lexeme :: rest) = some (read, rest)) :
    IsOperand [lexeme] read := by
  refine .of_cast plain ?_
  intro depth rest stops
  rw [List.singleton_append, readCast, primary]
  exact readCasts_stop read stops

/-- So is one that is read as a document. -/
theorem IsOperand.cast {lexeme : Lexeme} {read : Expr} (plain : lexeme ≠ .word "NOT")
    (primary : ∀ inner rest, readPrimary inner (lexeme :: rest) = some (read, rest)) :
    IsOperand [lexeme, .mark .cast, .word "jsonb"] (.cast read) := by
  refine .of_cast plain ?_
  intro depth rest stops
  rw [List.cons_append, readCast, primary]
  exact readCasts_stop (.cast read) stops

theorem takes_parentheses {depth : Nat} {lexemes : List Lexeme} {read : Expr}
    (inside : Takes (readCondition depth) Ends lexemes read) :
    Takes (readCast (readCondition depth)) StopsOperand
      (.mark .left :: lexemes ++ [.mark .right]) read := by
  intro rest stops
  have closed := inside (.mark .right :: rest) (.inr ⟨rest, .inr rfl⟩)
  rw [List.append_assoc, List.cons_append, List.singleton_append, readCast, readPrimary, closed]
  exact readCasts_stop read stops

theorem IsOperand.extract (column path : String) :
    IsOperand [.mark .left, .name column, .mark .extract, .literal path, .mark .right]
      (.extract (.column column) (.literal path)) := by
  refine .of_cast nofun ?_
  intro depth
  have inside : Takes (readCondition (depth + 1)) Ends
      [.name column, .mark .extract, .literal path]
      (.extract (.column column) (.literal path)) := by
    intro rest ends
    rcases ends with rfl | ⟨others, rfl | rfl⟩ <;> rfl
  exact takes_parentheses inside

/-! ### Members -/

/-- A lexeme other than `NOT` begins a test. -/
theorem readNegation_of_ne (inner : Reader) {first : Lexeme} (plain : first ≠ .word "NOT")
    (rest : List Lexeme) : readNegation inner (first :: rest) = readTest inner (first :: rest) := by
  rw [readNegation]
  intro others negated
  injection negated with same
  exact plain same

/-- An operand with what a test makes of it is a member. -/
theorem takes_test {inner : Reader} {first : Lexeme} {others tail : List Lexeme}
    {left read : Expr} (plain : first ≠ .word "NOT")
    (operand : Takes (readOperand inner) StopsOperand (first :: others) left)
    (begins : ∀ rest, Stops rest → StopsOperand (tail ++ rest))
    (test : ∀ rest, Stops rest → readTestOf inner left (tail ++ rest) = some (read, rest)) :
    Takes (readNegation inner) Stops (first :: others ++ tail) read := by
  intro rest stops
  rw [List.append_assoc, List.cons_append, readNegation_of_ne inner plain, ← List.cons_append,
    readTest, operand _ (begins rest stops)]
  exact test rest stops

/-- One part with its casts is a member. -/
theorem takes_part {inner : Reader} {first : Lexeme} {others : List Lexeme} {read : Expr}
    (plain : first ≠ .word "NOT")
    (part : Takes (readCast inner) StopsOperand (first :: others) read) :
    Takes (readNegation inner) Stops (first :: others) read := by
  have operand : Takes (readOperand inner) StopsOperand (first :: others) read :=
    part.chain fun rest stops lexeme first => (stops lexeme first).2
  rw [← List.append_nil (first :: others)]
  exact takes_test plain operand (fun _ stops => stops.stopsOperand)
    (fun _ stops => readTestOf_stop inner read stops)

theorem IsOperand.test {lexemes tail : List Lexeme} {left read : Expr}
    (operand : IsOperand lexemes left) (begins : ∀ rest, Stops rest → StopsOperand (tail ++ rest))
    (test : ∀ depth rest, tail.length ≤ depth → Stops rest →
      readTestOf (readCondition (depth + 1)) left (tail ++ rest) = some (read, rest)) :
    IsMember (lexemes ++ tail) read := by
  obtain ⟨⟨first, others, rfl, plain⟩, takes⟩ := operand
  intro depth length
  rw [List.length_append, List.length_cons] at length
  obtain ⟨depth, rfl⟩ : ∃ more, depth = more + 1 := ⟨depth - 1, by omega⟩
  exact takes_test plain (takes depth) begins (fun rest stops => test depth rest (by omega) stops)

theorem IsOperand.isMember {lexemes : List Lexeme} {read : Expr}
    (operand : IsOperand lexemes read) : IsMember lexemes read := by
  rw [← List.append_nil lexemes]
  exact operand.test (fun _ stops => stops.stopsOperand)
    (fun _ _ _ stops => readTestOf_stop _ read stops)

theorem IsOperand.isNull {lexemes : List Lexeme} {read : Expr}
    (operand : IsOperand lexemes read) :
    IsMember (lexemes ++ [.word "IS", .word "NULL"]) (.isNull read) := by
  refine operand.test ?_ (fun _ _ _ _ => rfl)
  intro rest _ lexeme first
  cases first
  exact ⟨rfl, rfl⟩

theorem IsOperand.isNotNull {lexemes : List Lexeme} {read : Expr}
    (operand : IsOperand lexemes read) :
    IsMember (lexemes ++ [.word "IS", .word "NOT", .word "NULL"]) (.not (.isNull read)) := by
  refine operand.test ?_ (fun _ _ _ _ => rfl)
  intro rest _ lexeme first
  cases first
  exact ⟨rfl, rfl⟩

theorem IsOperand.compare {lexemes others : List Lexeme} {left right : Expr}
    (operand : IsOperand lexemes left) {mark : Mark} {sign : Sign}
    (isSign : mark.sign? = some sign) (against : IsOperand others right) :
    IsMember (lexemes ++ .mark mark :: others) (.compare sign left right) := by
  refine operand.test ?_ ?_
  · intro rest _ lexeme first
    cases first
    cases mark <;> first | exact ⟨rfl, rfl⟩ | cases isSign
  · intro depth rest _ stops
    rw [List.cons_append, readTestOf, isSign]
    simp only [against.2 depth rest stops.stopsOperand]
    rfl

theorem IsOperand.distinct {lexemes others : List Lexeme} {left right : Expr}
    (operand : IsOperand lexemes left) (against : IsOperand others right) :
    IsMember (lexemes ++ .word "IS" :: .word "DISTINCT" :: .word "FROM" :: others)
      (.distinct left right) := by
  refine operand.test ?_ ?_
  · intro rest _ lexeme first
    cases first
    exact ⟨rfl, rfl⟩
  · intro depth rest _ stops
    simp only [List.cons_append, readTestOf, against.2 depth rest stops.stopsOperand]
    rfl

/-! ### Groups -/

/-- The word between the members of a group. -/
def groupWord : Connective → Lexeme
  | .all => .word "AND"
  | .any => .word "OR"

/-- Two members of a group, joined. -/
def groupJoin : Connective → Expr → Expr → Expr
  | .all => .and
  | .any => .or

theorem Follows.stops {connective : Connective} {rest : List Lexeme}
    (follows : Follows (groupWord connective) rest) : Stops rest := by
  rcases follows with ends | ⟨others, rfl⟩
  · exact ends.stops
  · cases connective
    · exact .inr ⟨others, .inl rfl⟩
    · exact .inr ⟨others, .inr (.inl rfl)⟩

theorem Ends.not_word {text : String} {rest : List Lexeme} (ends : Ends rest) :
    ∀ lexeme ∈ rest.head?, lexeme.isWord text = false := by
  intro lexeme first
  rcases ends with rfl | ⟨others, rfl | rfl⟩ <;> cases first <;> rfl

/-- No `AND` stands behind a member of an alternative. -/
theorem Follows.not_and {rest : List Lexeme} (follows : Follows (.word "OR") rest) :
    ∀ lexeme ∈ rest.head?, lexeme.isWord "AND" = false := by
  rcases follows with ends | ⟨others, rfl⟩
  · exact ends.not_word
  · intro lexeme first
    cases first
    rfl

/-- The members of a group are read at any depth that its lexemes allow. -/
theorem takes_members {separator : Lexeme} {items : List (List Lexeme)} {reads : List Expr}
    (members : List.Forall₂ IsMember items reads) {depth : Nat}
    (length : (items.flatMap fun lexemes => separator :: lexemes).length ≤ depth) :
    List.Forall₂ (Takes (readNegation (readCondition depth)) Stops) items reads := by
  induction members with
  | nil => exact .nil
  | cons first _ step =>
    rw [List.flatMap_cons, List.length_append, List.length_cons] at length
    exact .cons (first depth (by omega)) (step (by omega))

/-- **Members with connectives between them** are a condition, joined from the left. -/
theorem isCondition_group (connective : Connective) {lexemes : List Lexeme} {read : Expr}
    {items : List (List Lexeme)} {reads : List Expr} (first : IsMember lexemes read)
    (others : List.Forall₂ IsMember items reads) :
    IsCondition (lexemes ++ items.flatMap fun lexemes => groupWord connective :: lexemes)
      (reads.foldl (groupJoin connective) read) := by
  intro depth length
  rw [List.length_append] at length
  obtain ⟨depth, rfl⟩ : ∃ more, depth = more + 1 := ⟨depth - 1, by omega⟩
  have takesFirst := first depth (by omega)
  have takesOthers := @takes_members (groupWord connective) _ _ others depth (by omega)
  cases connective with
  | all =>
    have narrow : ∀ lexemes read, Takes (readNegation (readCondition depth)) Stops lexemes read →
        Takes (readNegation (readCondition depth)) (Follows (.word "AND")) lexemes read :=
      fun _ _ takes rest follows => takes rest (@Follows.stops .all rest follows)
    exact (takes_items rfl (fun _ ends => ends.not_word) (narrow _ _ takesFirst)
      (takesOthers.imp narrow)).chain fun _ ends => ends.not_word
  | any =>
    have narrow : ∀ lexemes read, Takes (readNegation (readCondition depth)) Stops lexemes read →
        Takes (readChain (Lexeme.isWord "AND") .and (readNegation (readCondition depth)))
          (Follows (.word "OR")) lexemes read := by
      intro lexemes read takes
      have alone : Takes (readNegation (readCondition depth)) (Follows (.word "OR")) lexemes
          read := fun rest follows => takes rest (@Follows.stops .any rest follows)
      exact alone.chain fun _ follows => follows.not_and
    exact takes_items rfl (fun _ ends => ends.not_word) (narrow _ _ takesFirst)
      (takesOthers.imp narrow)

theorem IsMember.isCondition {lexemes : List Lexeme} {read : Expr}
    (member : IsMember lexemes read) : IsCondition lexemes read := by
  have single := isCondition_group .all member .nil
  rw [List.flatMap_nil, List.append_nil] at single
  exact single

-- Tests come before `NOT`, that before `AND`, and that before `OR`.
example :
    expression? [.number 1, .mark .equals, .number 0, .word "OR", .word "NOT", .name "a",
      .word "IS", .word "NULL", .word "AND", .name "b", .mark .less, .number 3] =
    some (.or (.compare .equal (.number 1) (.number 0))
      (.and (.not (.isNull (.column "a"))) (.compare .less (.column "b") (.number 3)))) := by
  rfl

/-- A condition between parentheses is a member. -/
theorem IsCondition.parenthesized {lexemes : List Lexeme} {read : Expr}
    (condition : IsCondition lexemes read) :
    IsMember (.mark .left :: lexemes ++ [.mark .right]) read := by
  intro depth length
  rw [List.length_append, List.length_cons, List.length_singleton] at length
  exact takes_part nofun (takes_parentheses (condition depth (by omega)))

theorem IsMember.not {lexemes : List Lexeme} {read : Expr} (member : IsMember lexemes read) :
    IsMember (.word "NOT" :: lexemes) (.not read) := by
  intro depth length rest stops
  rw [List.length_cons] at length
  rw [List.cons_append, readNegation, member depth (by omega) rest stops]
  rfl

theorem readPrimary_coalesce {inner : Reader} {lexemes middle rest : List Lexeme}
    {first second : Expr} (one : inner lexemes = some (first, .mark .comma :: middle))
    (two : inner middle = some (second, .mark .right :: rest)) :
    readPrimary inner (.word "COALESCE" :: .mark .left :: lexemes) =
      some (.coalesce first second, rest) := by
  show (inner lexemes).bind _ = _
  rw [one]
  show (inner middle).bind _ = _
  rw [two]
  rfl

/-- A condition of which what is unknown counts as false is a member. -/
theorem IsCondition.coalesce {lexemes : List Lexeme} {read : Expr}
    (condition : IsCondition lexemes read) :
    IsMember (.word "COALESCE" :: .mark .left :: (.mark .left :: lexemes ++
        [.mark .right, .mark .comma, .word "FALSE", .mark .right]))
      (.coalesce read (.truth false)) := by
  intro depth length
  rw [List.length_cons, List.length_cons, List.length_append, List.length_cons] at length
  obtain ⟨depth, rfl⟩ : ∃ more, depth = more + 1 := ⟨depth - 1, by simp at length; omega⟩
  refine takes_part (by simp) ?_
  intro rest stops
  have group := condition.parenthesized.isCondition (depth + 1) (by simp at length ⊢; omega)
    (.mark .comma :: .word "FALSE" :: .mark .right :: rest) (.inr ⟨_, .inl rfl⟩)
  have constant : readCondition (depth + 1) (.word "FALSE" :: .mark .right :: rest) =
      some (.truth false, .mark .right :: rest) := rfl
  simp only [List.cons_append, List.append_assoc, List.nil_append] at group ⊢
  rw [readCast, readPrimary_coalesce group constant]
  exact readCasts_stop _ stops

/-! ### Lists -/

theorem takes_operands {separator : Lexeme} {items : List (List Lexeme)} {reads : List Expr}
    (operands : List.Forall₂ IsOperand items reads) {depth : Nat}
    (length : (items.flatMap fun lexemes => separator :: lexemes).length ≤ depth) :
    List.Forall₂ (Takes (readCondition depth) Ends) items reads := by
  induction operands with
  | nil => exact .nil
  | cons first _ step =>
    rw [List.flatMap_cons, List.length_append, List.length_cons] at length
    exact .cons (first.isMember.isCondition depth (by omega)) (step (by omega))

/-- Items between commas are read in their order. -/
theorem readItems_items {inner : Reader} {rest : List Lexeme} {items : List (List Lexeme)}
    {reads : List Expr} (others : List.Forall₂ (Takes inner Ends) items reads) :
    ∀ {lexemes : List Lexeme} {read : Expr}, Takes inner Ends lexemes read →
      ∀ fuel, items.length < fuel →
        readItems inner fuel (lexemes ++
            ((items.flatMap fun lexemes => .mark .comma :: lexemes) ++ .mark .right :: rest)) =
          some (read :: reads, .mark .right :: rest) := by
  induction others with
  | nil =>
    intro lexemes read first fuel enough
    obtain ⟨fuel, rfl⟩ : ∃ more, fuel = more + 1 := ⟨fuel - 1, by omega⟩
    rw [readItems, List.flatMap_nil, List.nil_append, first _ (.inr ⟨rest, .inr rfl⟩)]
    rfl
  | @cons next following items reads second _ step =>
    intro lexemes read first fuel enough
    rw [List.length_cons] at enough
    obtain ⟨fuel, rfl⟩ : ∃ more, fuel = more + 1 := ⟨fuel - 1, by omega⟩
    have further := step second fuel (by omega)
    rw [readItems, List.flatMap_cons, List.append_assoc, List.cons_append,
      first _ (.inr ⟨_, .inl rfl⟩)]
    show (readItems inner fuel _).bind _ = _
    rw [further]
    rfl

/-- **A list of operands between parentheses** is what a membership is tested against. -/
theorem IsOperand.membership {lexemes first : List Lexeme} {left read : Expr}
    {items : List (List Lexeme)} {reads : List Expr} (operand : IsOperand lexemes left)
    (one : IsOperand first read) (others : List.Forall₂ IsOperand items reads) :
    IsMember (lexemes ++ .word "IN" :: .mark .left ::
        (first ++ ((items.flatMap fun lexemes => .mark .comma :: lexemes) ++ [.mark .right])))
      (.membership left (read :: reads)) := by
  refine operand.test ?_ ?_
  · intro rest _ lexeme first
    cases first
    exact ⟨rfl, rfl⟩
  · intro depth rest length _
    simp only [List.length_cons, List.length_append] at length
    have count := @length_items (.mark .comma) items
    have takesFirst : Takes (readCondition (depth + 1)) Ends first read :=
      one.isMember.isCondition (depth + 1) (by omega)
    have takesOthers : List.Forall₂ (Takes (readCondition (depth + 1)) Ends) items reads :=
      @takes_operands (.mark .comma) _ _ others _ (by omega)
    have list := @readItems_items _ rest _ _ takesOthers _ _ takesFirst
    simp only [List.cons_append, List.append_assoc, List.nil_append]
    rw [readTestOf]
    rw [list _ (by simp only [List.length_append, List.length_cons]; omega)]
    rfl

end TwinStore.Sql
