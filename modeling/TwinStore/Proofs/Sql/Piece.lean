/-
**The pieces of a statement's text.** A text taken apart character by character, as far as quotes,
words, numbers and placeholders go: which characters stand between quotes, and which words and signs
outside.

* `pieces?` takes a text apart. A doubled quote stands for itself inside quotes, and a text whose
  last quote is missing has no pieces.
* `chars_pieces`: the pieces are the whole text, in its order.
* `pieces?_append`: texts are taken apart one after the other where a separator keeps them apart.
* `pieces?_charsFrom`: so are tokens that are apart, each in its own way.
* `placeholders?_charsFrom`: their placeholders count on from what is bound before.
-/

import Mathlib.Data.List.Chain
import TwinStore.Sql.Token

namespace TwinStore.Sql

/-- What a text is made of. -/
inductive Piece where
  | word (text : List Char)
  /-- What stands between double quotes. -/
  | name (text : List Char)
  /-- What stands between single quotes. -/
  | literal (text : List Char)
  | number (digits : List Char)
  /-- The digits behind a dollar sign. -/
  | placeholder (digits : List Char)
  /-- Any other character. -/
  | mark (char : Char)
  deriving DecidableEq

/-- What has been read of a piece that may go on. -/
inductive Begun where
  | nothing
  | word (text : List Char)
  | number (digits : List Char)
  | placeholder (digits : List Char)
  | name (text : List Char)
  /-- A second quote would go on with the name. -/
  | quotedName (text : List Char)
  | literal (text : List Char)
  | quotedLiteral (text : List Char)

namespace Begun

/-- The piece that is complete if it ends here. -/
def finish? : Begun → Option (List Piece)
  | nothing => some []
  | word text => some [.word text]
  | number digits => some [.number digits]
  | placeholder digits => some [.placeholder digits]
  | quotedName text => some [.name text]
  | quotedLiteral text => some [.literal text]
  | name _ | literal _ => none

/-- A character that belongs to what has begun. -/
def extend? : Begun → Char → Option Begun
  | nothing, _ => none
  | word text, char => if isIdentifierChar char then some (word (text ++ [char])) else none
  | number digits, char => if char.isDigit then some (number (digits ++ [char])) else none
  | placeholder digits, char =>
    if char.isDigit then some (placeholder (digits ++ [char])) else none
  | name text, char => some (if char = '"' then quotedName text else name (text ++ [char]))
  | quotedName text, char => if char = '"' then some (name (text ++ [char])) else none
  | literal text, char =>
    some (if char = '\'' then quotedLiteral text else literal (text ++ [char]))
  | quotedLiteral text, char => if char = '\'' then some (literal (text ++ [char])) else none

/-- A character that begins something else. -/
def start (char : Char) : List Piece × Begun :=
  if char = '"' then ([], name [])
  else if char = '\'' then ([], literal [])
  else if char = '$' then ([], placeholder [])
  else if char.isDigit then ([], number [char])
  else if isIdentifierStart char then ([], word [char])
  else ([.mark char], nothing)

/-- Reads one character. -/
def step (begun : Begun) (char : Char) : List Piece × Begun :=
  match begun.extend? char with
  | some longer => ([], longer)
  | none => (begun.finish?.getD [] ++ (start char).1, (start char).2)

end Begun

/-- Reads characters: the complete pieces, and what has begun at the end. -/
def scanPieces (begun : Begun) : List Char → List Piece × Begun
  | [] => ([], begun)
  | char :: rest =>
    let (complete, next) := begun.step char
    let (others, last) := scanPieces next rest
    (complete ++ others, last)

/-- The pieces of a text. -/
def pieces? (text : List Char) : Option (List Piece) :=
  let (complete, last) := scanPieces .nothing text
  last.finish?.map (complete ++ ·)

/-! ### Fixed pieces -/

/-- The words of statements. -/
def fixedWords : List String :=
  ["ADD", "ALTER", "AND", "AS", "ASC", "BIGINT", "BOOLEAN", "BY", "BYTEA", "CASE", "COALESCE",
    "COLUMN", "COUNT", "CREATE", "DATE", "DELETE", "DESC", "DISTINCT", "DOUBLE", "DROP", "ELSE",
    "END", "EXISTS", "FALSE", "FOR", "FROM", "GREATEST", "IF", "IN", "INDEX", "INSERT", "INTO",
    "IS", "JSONB", "KEY", "LEAST", "LIMIT", "NOT", "NULL", "NUMERIC", "OFFSET", "ON", "OR",
    "ORDER", "ORDINALITY", "PRECISION", "PRIMARY", "RETURNING", "SELECT", "SET", "TABLE", "TEXT",
    "THEN", "TIME", "TIMESTAMPTZ", "UNIQUE", "UPDATE", "VALUES", "WHEN", "WHERE", "WITH", "e",
    "jsonb", "jsonb_agg", "jsonb_array_elements", "jsonb_build_array", "ord", "value"]

/-- The texts between single quotes that are no paths. -/
def fixedLiterals : List String := ["null", "[]"]

/-- The signs of statements. -/
def fixedMarks : List Char :=
  [' ', '(', ')', ',', '.', ':', '=', '<', '>', '+', '-', '*', '|', '#']

/-- The piece does not depend on names and arguments. -/
def Piece.isFixed : Piece → Bool
  | word text => (fixedWords.map String.toList).contains text
  | literal text => (fixedLiterals.map String.toList).contains text
  | number digits => digits.all Char.isDigit && !digits.isEmpty
  | mark char => fixedMarks.contains char
  | name _ | placeholder _ => false

/-! ### Nothing is lost -/

/-- A text between quotes, with every quote inside doubled. -/
def quoted (quote : Char) (text : List Char) : List Char :=
  quote :: text.flatMap fun char => if char = quote then [char, char] else [char]

def Piece.chars : Piece → List Char
  | word text => text
  | name text => quoted '"' text ++ ['"']
  | literal text => quoted '\'' text ++ ['\'']
  | number digits => digits
  | placeholder digits => '$' :: digits
  | mark char => [char]

def Begun.chars : Begun → List Char
  | nothing => []
  | word text => text
  | number digits => digits
  | placeholder digits => '$' :: digits
  | name text => quoted '"' text
  | quotedName text => quoted '"' text ++ ['"']
  | literal text => quoted '\'' text
  | quotedLiteral text => quoted '\'' text ++ ['\'']

theorem Begun.chars_finish {begun : Begun} {last : List Piece}
    (finished : begun.finish? = some last) : last.flatMap Piece.chars = begun.chars := by
  cases begun <;> cases finished <;> simp [Piece.chars, Begun.chars]

theorem Begun.chars_start (char : Char) :
    (start char).1.flatMap Piece.chars ++ (start char).2.chars = [char] := by
  unfold start
  split_ifs <;> simp_all [Begun.chars, Piece.chars, quoted]

theorem quoted_append (quote : Char) (text : List Char) (char : Char) :
    quoted quote (text ++ [char]) =
      quoted quote text ++ if char = quote then [char, char] else [char] := by
  simp [quoted]

theorem Begun.chars_step (begun : Begun) (char : Char) :
    (begun.step char).1.flatMap Piece.chars ++ (begun.step char).2.chars =
      begun.chars ++ [char] := by
  have turned : ∀ last, begun.finish? = some last →
      (last ++ (start char).1).flatMap Piece.chars ++ (start char).2.chars =
        begun.chars ++ [char] := by
    intro last finished
    rw [List.flatMap_append, List.append_assoc, chars_start, chars_finish finished]
  cases extended : begun.extend? char with
  | none =>
    have closed : ∃ last, begun.finish? = some last := by
      cases begun <;> first | exact ⟨_, rfl⟩ | cases extended
    obtain ⟨last, finished⟩ := closed
    simp only [step, extended, finished, Option.getD_some]
    exact turned last finished
  | some longer =>
    simp only [step, extended, List.flatMap_nil, List.nil_append]
    cases begun with
    | nothing => cases extended
    | word text | number digits | placeholder digits =>
      simp only [extend?, Option.ite_none_right_eq_some, Option.some_inj] at extended
      obtain ⟨-, rfl⟩ := extended
      simp [chars]
    | name text | literal text =>
      simp only [extend?, Option.some_inj] at extended
      subst extended
      split_ifs with quote <;> simp [chars, quoted_append, quote]
    | quotedName text | quotedLiteral text =>
      simp only [extend?, Option.ite_none_right_eq_some, Option.some_inj] at extended
      obtain ⟨rfl, rfl⟩ := extended
      simp [chars, quoted_append]

theorem chars_scanPieces (begun : Begun) (text : List Char) :
    (scanPieces begun text).1.flatMap Piece.chars ++ (scanPieces begun text).2.chars =
      begun.chars ++ text := by
  induction text generalizing begun with
  | nil => simp [scanPieces]
  | cons char rest step =>
    rw [scanPieces, List.flatMap_append, List.append_assoc, step, ← List.append_assoc,
      Begun.chars_step, List.append_assoc, List.singleton_append]

/-- **The pieces are the whole text.** -/
theorem chars_pieces {text : List Char} {pieces : List Piece} (read : pieces? text = some pieces) :
    pieces.flatMap Piece.chars = text := by
  obtain ⟨last, finished, rfl⟩ := Option.map_eq_some_iff.mp read
  rw [List.flatMap_append, Begun.chars_finish finished, chars_scanPieces]
  rfl

/-! ### Texts one after the other -/

theorem scanPieces_append (begun : Begun) (left right : List Char) :
    scanPieces begun (left ++ right) =
      ((scanPieces begun left).1 ++ (scanPieces (scanPieces begun left).2 right).1,
        (scanPieces (scanPieces begun left).2 right).2) := by
  induction left generalizing begun with
  | nil => rfl
  | cons char rest step => simp only [List.cons_append, scanPieces, step, List.append_assoc]

/-- Signs that are pieces of their own and belong to nothing that has begun outside quotes. -/
def isSeparator (char : Char) : Bool := [' ', '(', ')', ',', '.', ':'].contains char

theorem start_separator {char : Char} (separates : isSeparator char = true) :
    Begun.start char = ([.mark char], .nothing) := by
  simp only [isSeparator, List.contains_iff_mem, List.mem_cons, List.not_mem_nil, or_false]
    at separates
  rcases separates with rfl | rfl | rfl | rfl | rfl | rfl <;> rfl

/-- **A separator ends what has begun outside quotes.** -/
theorem step_separator {begun : Begun} {last : List Piece} {char : Char}
    (separates : isSeparator char = true) (finished : begun.finish? = some last) :
    begun.step char = (last ++ [.mark char], .nothing) := by
  have ends : begun.extend? char = none := by
    simp only [isSeparator, List.contains_iff_mem, List.mem_cons, List.not_mem_nil, or_false]
      at separates
    rcases separates with rfl | rfl | rfl | rfl | rfl | rfl <;>
      cases begun <;> first | rfl | cases finished
  simp only [Begun.step, ends, finished, Option.getD_some, start_separator separates]

/-- Inside quotes a separator is a character like any other. -/
theorem finish?_step_separator {begun : Begun} {char : Char} (separates : isSeparator char = true)
    (within : begun.finish? = none) : (begun.step char).2.finish? = none := by
  simp only [isSeparator, List.contains_iff_mem, List.mem_cons, List.not_mem_nil, or_false]
    at separates
  cases begun with
  | name text | literal text =>
    rcases separates with rfl | rfl | rfl | rfl | rfl | rfl <;> rfl
  | _ => cases within

/-- The text is empty, or begins with a separator. -/
def StartsApart (text : List Char) : Prop := ∀ char ∈ text.head?, isSeparator char = true

/-- The text is empty, or ends with a separator. -/
def EndsApart (text : List Char) : Prop := ∀ char ∈ text.getLast?, isSeparator char = true

/-- Behind a separator nothing has begun. -/
theorem scanPieces_of_endsApart {text : List Char} {pieces : List Piece} (apart : EndsApart text)
    (read : pieces? text = some pieces) : scanPieces .nothing text = (pieces, .nothing) := by
  obtain ⟨last, finished, rfl⟩ := Option.map_eq_some_iff.mp read
  rcases List.eq_nil_or_concat text with rfl | ⟨front, char, rfl⟩
  · cases finished
    rfl
  · have separates := apart char (by simp)
    rw [List.concat_eq_append, scanPieces_append] at finished ⊢
    simp only [scanPieces, List.append_nil] at finished ⊢
    cases closes : (scanPieces .nothing front).2.finish? with
    | none =>
      rw [finish?_step_separator separates closes] at finished
      cases finished
    | some complete =>
      rw [step_separator separates closes] at finished ⊢
      cases finished
      rw [List.append_nil]

/-- **Texts are taken apart one after the other** where a separator keeps them apart. -/
theorem pieces?_append {left right : List Char} {first others : List Piece}
    (one : pieces? left = some first) (two : pieces? right = some others)
    (apart : EndsApart left ∨ StartsApart right) :
    pieces? (left ++ right) = some (first ++ others) := by
  obtain ⟨rest, finished, rfl⟩ := Option.map_eq_some_iff.mp two
  rcases apart with ends | starts
  · rw [pieces?, scanPieces_append, scanPieces_of_endsApart ends one]
    simp only [finished, Option.map_some, List.append_assoc]
  · obtain ⟨last, closes, rfl⟩ := Option.map_eq_some_iff.mp one
    cases right with
    | nil =>
      cases finished
      simpa [scanPieces] using one
    | cons char more =>
      have separates := starts char rfl
      rw [pieces?, scanPieces_append]
      simp only [scanPieces, step_separator separates closes]
      have begun : Begun.nothing.step char = ([] ++ [.mark char], .nothing) :=
        step_separator separates rfl
      simp only [scanPieces, begun] at finished ⊢
      simp only [finished, Option.map_some, List.append_assoc, List.nil_append]

end TwinStore.Sql

namespace TwinStore

open Sql

/-! ### Tokens -/

namespace Keyword

/-- The keyword begins with a separator. -/
def startsApart (word : Keyword) : Bool :=
  [.space, .leftParenthesis, .rightParenthesis, .comma, .dot, .equals, .greater, .atLeast, .less,
    .atMost, .plus, .concatenate, .extract, .jsonCast, .isNull, .isNotNull, .isDistinctFrom,
    .membership, .and, .or, .orFalse, .orZero, .orEmptyArray, .dropFirst, .dropLast,
    .removalItems, .removalWithout, .removalEnd].contains word

/-- The keyword ends with a separator. -/
def endsApart (word : Keyword) : Bool :=
  [.space, .leftParenthesis, .rightParenthesis, .comma, .dot, .equals, .greater, .atLeast, .less,
    .atMost, .plus, .concatenate, .extract, .isDistinctFrom, .membership, .not, .and, .or,
    .coalesceGroup, .orFalse, .coalesce, .orZero, .orEmptyArray, .greatest, .least, .buildArray,
    .removalWhen, .removalItems, .removalWithout, .count].contains word

theorem separates_edges (word : Keyword) :
    (!word.startsApart || word.spelling.toList.head?.any isSeparator) &&
      (!word.endsApart || word.spelling.toList.getLast?.any isSeparator) := by
  delta Keyword.spelling
  cases word <;> simp only [String.toList_append] <;> repeat rw [String.toList_ofList]
  all_goals decide +kernel

theorem separates_head {word : Keyword} (starts : word.startsApart) :
    word.spelling.toList.head?.any isSeparator := by
  have edges := word.separates_edges
  rw [starts] at edges
  exact (Bool.and_eq_true_iff.mp edges).1

theorem separates_last {word : Keyword} (ends : word.endsApart) :
    word.spelling.toList.getLast?.any isSeparator := by
  have edges := word.separates_edges
  rw [ends] at edges
  exact (Bool.and_eq_true_iff.mp edges).2

/-- The pieces of a fixed text. -/
def pieces (word : Keyword) : List Piece := (pieces? word.spelling.toList).getD []

/-- **Fixed texts are made of fixed pieces.** -/
theorem spelling_isFixed (word : Keyword) :
    (pieces? word.spelling.toList).any fun pieces => pieces.all Piece.isFixed := by
  -- Literal texts are replaced by their characters, which are cheaper to compute with.
  delta Keyword.spelling Piece.isFixed
  simp only [fixedWords, fixedLiterals, List.map_cons, List.map_nil]
  repeat rw [String.toList_ofList]
  cases word <;> simp only [String.toList_append] <;> repeat rw [String.toList_ofList]
  all_goals decide +kernel

theorem pieces?_spelling (word : Keyword) : pieces? word.spelling.toList = some word.pieces := by
  obtain ⟨found, read, -⟩ := Option.any_eq_true _ _ |>.mp word.spelling_isFixed
  rw [pieces, read]
  rfl

theorem isFixed_of_mem_pieces {word : Keyword} {piece : Piece} (member : piece ∈ word.pieces) :
    piece.isFixed := by
  obtain ⟨found, read, fixed⟩ := Option.any_eq_true _ _ |>.mp word.spelling_isFixed
  rw [pieces, read] at member
  exact List.all_eq_true.mp fixed piece member

end Keyword

namespace Token

def startsApart : Token → Bool
  | .keyword word => word.startsApart
  | _ => false

def endsApart : Token → Bool
  | .keyword word => word.endsApart
  | _ => false

/-- A separator stands between the tokens. -/
def Apart (left right : Token) : Prop := left.endsApart = true ∨ right.startsApart = true

instance (left right : Token) : Decidable (Apart left right) :=
  inferInstanceAs (Decidable (_ ∨ _))

/-- The pieces of a token; an argument has the given number. -/
def pieces (argumentNumber : Nat) : Token → List Piece
  | .keyword word => word.pieces
  | .name identifier => [.name identifier.text.toList]
  | .path segments => [.literal ('\x7b' :: pathChars segments ++ ['\x7d'])]
  | .number value => [.number (Digits.ofNat value.toNat)]
  | .argument _ => [.placeholder (Digits.ofNat argumentNumber)]

/-- The pieces of tokens behind a number of arguments that are bound already. -/
def piecesFrom (bound : Nat) : List Token → List Piece
  | [] => []
  | token :: rest =>
    token.pieces (bound + 1) ++ piecesFrom (bound + (arguments [token]).length) rest

/-! ### Reading tokens -/

/-- Characters that go on with what has begun are all kept. -/
theorem scanPieces_keeps {begun : List Char → Begun} {text : List Char}
    (keeps : ∀ char ∈ text, ∀ read, (begun read).extend? char = some (begun (read ++ [char])))
    (read : List Char) : scanPieces (begun read) text = ([], begun (read ++ text)) := by
  induction text generalizing read with
  | nil => rw [List.append_nil]; rfl
  | cons char rest step =>
    have further := step (fun other member => keeps other (List.mem_cons_of_mem _ member))
      (read ++ [char])
    rw [List.append_assoc, List.singleton_append] at further
    simp only [scanPieces, Begun.step, keeps char List.mem_cons_self, further, List.append_nil]

/-- A text without quotes between two of them. -/
theorem scanPieces_quotes {quote : Char} {within closed : List Char → Begun}
    (opens : Begun.nothing.step quote = ([], within []))
    (reads : ∀ read char, (within read).extend? char =
      some (if char = quote then closed read else within (read ++ [char])))
    {text : List Char} (plain : ∀ char ∈ text, char ≠ quote) :
    scanPieces .nothing (quote :: (text ++ [quote])) = ([], closed text) := by
  have kept := @scanPieces_keeps within text (fun char member read => by
    rw [reads, if_neg (plain char member)]) []
  have closes : (within text).step quote = ([], closed text) := by
    simp only [Begun.step, reads, if_pos]
  rw [List.nil_append] at kept
  simp only [scanPieces, opens, scanPieces_append, kept, closes, List.nil_append]

theorem toList_quoteName (name : String) :
    (quoteName name).toList = '"' :: (name.toList ++ ['"']) := by
  simp [quoteName, String.toList_append]

theorem pieces?_name (identifier : Identifier) :
    pieces? (quoteName identifier.text).toList = some [.name identifier.text.toList] := by
  have read := @scanPieces_quotes '"' .name .quotedName rfl (fun _ _ => rfl)
    identifier.text.toList (by
      rintro char member rfl
      cases Identifier.isIdentifierChar_of_mem member)
  rw [toList_quoteName, pieces?, read]
  rfl

theorem pieces?_path (segments : List Identifier) (number : Nat) :
    pieces? (chars number (.path segments)) = some (pieces number (.path segments)) := by
  have read := @scanPieces_quotes '\'' .literal .quotedLiteral rfl (fun _ _ => rfl)
    ('\x7b' :: pathChars segments ++ ['\x7d']) (by
      rintro char member rfl
      rcases mem_pathText member with part | sign
      · cases part
      · exact absurd sign (by decide))
  rw [chars_path, pieces?, read]
  rfl

theorem pieces?_number (value : Nat) :
    pieces? (Digits.ofNat value) = some [.number (Digits.ofNat value)] := by
  have digits := fun char => @Digits.isDigit_of_mem_ofNat value char
  obtain ⟨first, rest, text⟩ := List.exists_cons_of_ne_nil (Digits.ofNat_ne_nil value)
  rw [text] at digits ⊢
  have begins : Begun.nothing.step first = ([], .number [first]) := by
    have digit := digits first List.mem_cons_self
    have plain : first ≠ '"' ∧ first ≠ '\'' ∧ first ≠ '$' := by
      refine ⟨?_, ?_, ?_⟩ <;>
        · rintro rfl
          cases digit
    simp [Begun.step, Begun.extend?, Begun.finish?, Begun.start, plain, digit]
  have kept := @scanPieces_keeps .number rest
    (fun char member _ => if_pos (digits char (List.mem_cons_of_mem _ member))) [first]
  simp only [pieces?, scanPieces, begins, kept]
  rfl

theorem pieces?_placeholder (number : Nat) :
    pieces? ('$' :: Digits.ofNat number) = some [.placeholder (Digits.ofNat number)] := by
  have kept := @scanPieces_keeps .placeholder (Digits.ofNat number)
    (fun _ member _ => if_pos (Digits.isDigit_of_mem_ofNat member)) []
  have begins : Begun.nothing.step '$' = ([], .placeholder []) := rfl
  rw [List.nil_append] at kept
  simp only [pieces?, scanPieces, begins, kept]
  rfl

/-- A single token is taken apart on its own. -/
theorem pieces?_chars (token : Token) (number : Nat) :
    pieces? (token.chars number) = some (token.pieces number) := by
  cases token with
  | keyword word => exact word.pieces?_spelling
  | name identifier => exact pieces?_name identifier
  | path segments => exact pieces?_path segments number
  | number value => exact pieces?_number value.toNat
  | argument bound => exact pieces?_placeholder number

theorem endsApart_chars {token : Token} (ends : token.endsApart = true) (number : Nat) :
    EndsApart (token.chars number) := by
  cases token with
  | keyword word =>
    intro char last
    obtain ⟨found, isLast, separates⟩ := Option.any_eq_true _ _ |>.mp (word.separates_last ends)
    rw [chars, Option.mem_def, isLast] at last
    cases last
    exact separates
  | _ => cases ends

theorem startsApart_chars {token : Token} (starts : token.startsApart = true) (number : Nat)
    (rest : List Char) : StartsApart (token.chars number ++ rest) := by
  cases token with
  | keyword word =>
    intro char first
    obtain ⟨found, isFirst, separates⟩ := Option.any_eq_true _ _ |>.mp (word.separates_head starts)
    rw [chars, Option.mem_def, List.head?_append, isFirst] at first
    cases first
    exact separates
  | _ => cases starts

/-- **Tokens that are apart are taken apart one by one.** -/
theorem pieces?_charsFrom {tokens : List Token} (apart : tokens.IsChain Apart) (bound : Nat) :
    pieces? (charsFrom bound tokens) = some (piecesFrom bound tokens) := by
  induction tokens generalizing bound with
  | nil => rfl
  | cons token rest step =>
    rw [charsFrom, piecesFrom]
    refine pieces?_append (token.pieces?_chars _) (step apart.tail _) ?_
    cases rest with
    | nil =>
      refine .inr fun char none => ?_
      cases none
    | cons second others =>
      refine (List.isChain_cons_cons.mp apart).1.imp (endsApart_chars · _) ?_
      intro starts
      exact startsApart_chars starts _ _

end Token

/-! ### Placeholders -/

namespace Sql

def Piece.placeholder? : Piece → Option (List Char)
  | .placeholder digits => some digits
  | _ => none

/-- The numbers of a text's placeholders, as they are written, from left to right. -/
def placeholders? (text : List Char) : Option (List (List Char)) :=
  (pieces? text).map fun pieces => pieces.filterMap Piece.placeholder?

/-- The texts of numbers that count on from a number. -/
def numbersFrom (bound count : Nat) : List (List Char) :=
  (List.range' (bound + 1) count).map Digits.ofNat

end Sql

theorem Keyword.placeholder?_pieces (word : Keyword) :
    word.pieces.filterMap Piece.placeholder? = [] := by
  refine List.filterMap_eq_nil_iff.mpr fun piece member => ?_
  have fixed := isFixed_of_mem_pieces member
  cases piece <;> first | rfl | cases fixed

theorem Token.placeholders_piecesFrom (bound : Nat) (tokens : List Token) :
    (piecesFrom bound tokens).filterMap Piece.placeholder? =
      numbersFrom bound (arguments tokens).length := by
  induction tokens generalizing bound with
  | nil => rfl
  | cons token rest step =>
    rw [piecesFrom, List.filterMap_append, step]
    cases token with
    | keyword word =>
      rw [pieces, word.placeholder?_pieces]
      rfl
    | argument value =>
      show Digits.ofNat (bound + 1) :: numbersFrom (bound + 1) (arguments rest).length =
        numbersFrom bound ((arguments rest).length + 1)
      rw [numbersFrom, numbersFrom, List.range'_succ, List.map_cons]
    | _ => rfl

/-- **The placeholders of tokens that are apart count on from what is bound before.** -/
theorem Token.placeholders?_charsFrom {tokens : List Token} (apart : tokens.IsChain Apart)
    (bound : Nat) : placeholders? (charsFrom bound tokens) =
      some (numbersFrom bound (arguments tokens).length) := by
  rw [placeholders?, pieces?_charsFrom apart, Option.map_some, placeholders_piecesFrom]

end TwinStore
