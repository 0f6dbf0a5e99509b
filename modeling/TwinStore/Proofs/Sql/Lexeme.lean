/-
**Lexemes of a statement.** How a server takes the text of a condition apart, character by
character, and what it finds in the tokens that conditions are written with.

* `scan` reads the text in one pass; what is not yet complete is kept as `Pending`. A placeholder
  stands for the argument of its number.
* `scan_append` and `Reads.append`: texts are read one after the other, unless a word or number at
  the end of the first goes on in the second.
* `reads_charsFrom`: tokens in which no word follows a word directly are read as their lexemes,
  whatever is bound before and behind them.
-/

import Mathlib.Data.List.Chain
import TwinStore.Proofs.Text.Numeral
import TwinStore.Sql.Token

namespace TwinStore.Sql

/-- The signs between words. -/
inductive Mark where
  | left
  | right
  | comma
  | equals
  | greater
  | atLeast
  | less
  | atMost
  | cast
  | extract
  deriving DecidableEq

/-- What a text consists of. -/
inductive Lexeme where
  /-- A key word or the name of a type. -/
  | word (text : String)
  /-- A name between double quotes. -/
  | name (text : String)
  /-- A text between single quotes. -/
  | literal (text : String)
  | number (value : Nat)
  /-- An argument, in place of its number. -/
  | argument (argument : Argument)
  | mark (mark : Mark)

/-! ### Scanning -/

/-- What has been read of a lexeme that is not complete. -/
inductive Pending where
  | ready
  | word (text : List Char)
  | number (digits : List Char)
  | placeholder (digits : List Char)
  | name (text : List Char)
  | literal (text : List Char)
  | colon
  | hash
  | greater
  | less

namespace Pending

/-- A character that begins a lexeme, or is one. -/
def begin (char : Char) : Option (List Lexeme × Pending) :=
  match char with
  | ' ' => some ([], ready)
  | '(' => some ([.mark .left], ready)
  | ')' => some ([.mark .right], ready)
  | ',' => some ([.mark .comma], ready)
  | '=' => some ([.mark .equals], ready)
  | '"' => some ([], name [])
  | '\'' => some ([], literal [])
  | '$' => some ([], placeholder [])
  | ':' => some ([], colon)
  | '#' => some ([], hash)
  | '>' => some ([], greater)
  | '<' => some ([], less)
  | char =>
    if char.isDigit then some ([], number [char])
    else if isIdentifierStart char then some ([], word [char])
    else none

/-- The argument of a placeholder's number; numbers count from one. -/
def argument? (bound : List Argument) : Nat → Option Argument
  | 0 => none
  | position + 1 => bound[position]?

/-- The lexeme that is complete where the text or the lexeme ends. -/
def finish (bound : List Argument) : Pending → Option (List Lexeme)
  | ready => some []
  | word text => some [.word (String.ofList text)]
  | number digits => (Digits.natural? digits).map fun value => [.number value]
  | placeholder digits =>
    ((Digits.natural? digits).bind (argument? bound)).map fun argument => [.argument argument]
  | greater => some [.mark .greater]
  | less => some [.mark .less]
  | name _ | literal _ | colon | hash => none

/-- A character that begins another lexeme. -/
def next (bound : List Argument) (state : Pending) (char : Char) :
    Option (List Lexeme × Pending) := do
  let complete ← state.finish bound
  let (begun, pending) ← begin char
  return (complete ++ begun, pending)

/-- Reads one character. -/
def step (bound : List Argument) (state : Pending) (char : Char) :
    Option (List Lexeme × Pending) :=
  match state with
  | ready => begin char
  | word text =>
    if isIdentifierChar char then some ([], word (text ++ [char])) else next bound (word text) char
  | number digits =>
    if char.isDigit then some ([], number (digits ++ [char]))
    else if isIdentifierChar char then none
    else next bound (number digits) char
  | placeholder digits =>
    if char.isDigit then some ([], placeholder (digits ++ [char]))
    else if isIdentifierChar char then none
    else next bound (placeholder digits) char
  | name text =>
    if char = '"' then some ([.name (String.ofList text)], ready)
    else some ([], name (text ++ [char]))
  | literal text =>
    if char = '\'' then some ([.literal (String.ofList text)], ready)
    else some ([], literal (text ++ [char]))
  | colon => if char = ':' then some ([.mark .cast], ready) else none
  | hash => if char = '>' then some ([.mark .extract], ready) else none
  | greater => if char = '=' then some ([.mark .atLeast], ready) else next bound greater char
  | less => if char = '=' then some ([.mark .atMost], ready) else next bound less char

end Pending

/-- Reads characters. -/
def scan (bound : List Argument) (state : Pending) : List Char → Option (List Lexeme × Pending)
  | [] => some ([], state)
  | char :: rest => do
    let (first, following) ← state.step bound char
    let (others, last) ← scan bound following rest
    return (first ++ others, last)

/-- The lexemes of a text. -/
def lexemes? (bound : List Argument) (text : List Char) : Option (List Lexeme) := do
  let (complete, state) ← scan bound .ready text
  return complete ++ (← state.finish bound)

/-! ### Reading in parts -/

section Parts

variable {bound : List Argument}

/-- The second part is read from where the first one ends. -/
theorem scan_append {state middle last : Pending} {left right : List Char}
    {first others : List Lexeme} (one : scan bound state left = some (first, middle))
    (two : scan bound middle right = some (others, last)) :
    scan bound state (left ++ right) = some (first ++ others, last) := by
  induction left generalizing state first with
  | nil =>
    cases one
    exact two
  | cons char rest step =>
    rw [scan, Option.bind_eq_bind, Option.bind_eq_some_iff] at one
    obtain ⟨⟨head, following⟩, read, more⟩ := one
    obtain ⟨⟨tail, final⟩, readRest, joined⟩ := Option.bind_eq_some_iff.mp more
    cases joined
    rw [List.cons_append, scan, read]
    simp only [Option.bind_eq_bind, Option.bind_some, step readRest]
    rw [List.append_assoc]
    rfl

/-- The text is read as the lexemes, all of them complete. -/
def ReadsClosed (bound : List Argument) (text : List Char) (lexemes : List Lexeme) : Prop :=
  scan bound .ready text = some (lexemes, .ready)

/-- A word, a number or a placeholder, which any other character ends. -/
def Pending.IsOpen : Pending → Prop
  | .ready | .word _ | .number _ | .placeholder _ => True
  | _ => False

/-- The text is read as the lexemes, the last of which may go on. -/
def Reads (bound : List Argument) (text : List Char) (lexemes : List Lexeme) : Prop :=
  ∃ complete state last, scan bound .ready text = some (complete, state) ∧ state.IsOpen ∧
    state.finish bound = some last ∧ lexemes = complete ++ last

/-- The text goes on no word and no number. -/
def Breaks (text : List Char) : Prop := ∀ char ∈ text.head?, isIdentifierChar char = false

theorem ReadsClosed.reads {text : List Char} {lexemes : List Lexeme}
    (closed : ReadsClosed bound text lexemes) : Reads bound text lexemes :=
  ⟨lexemes, .ready, [], closed, trivial, rfl, (List.append_nil _).symm⟩

theorem Reads.lexemes? {text : List Char} {lexemes : List Lexeme}
    (reads : Reads bound text lexemes) : lexemes? bound text = some lexemes := by
  obtain ⟨complete, state, last, scanned, _, finished, rfl⟩ := reads
  simp only [Sql.lexemes?, scanned, finished, Option.bind_eq_bind, Option.bind_some]
  rfl

/-- Behind a complete lexeme the reading starts anew. -/
theorem ReadsClosed.append {left right : List Char} {first others : List Lexeme}
    (one : ReadsClosed bound left first) (two : Reads bound right others) :
    Reads bound (left ++ right) (first ++ others) := by
  obtain ⟨complete, state, last, scanned, isOpen, finished, rfl⟩ := two
  exact ⟨first ++ complete, state, last, scan_append one scanned, isOpen, finished,
    (List.append_assoc _ _ _).symm⟩

theorem isIdentifierChar_of_isDigit {char : Char} (digit : char.isDigit = true) :
    isIdentifierChar char = true := by
  simp [isIdentifierChar, Char.isAlphanum, digit]

/-- A character that no name has ends what is open. -/
theorem step_of_break {state : Pending} (isOpen : state.IsOpen) {char : Char}
    (ends : isIdentifierChar char = false) : state.step bound char = state.next bound char := by
  have noDigit : char.isDigit = false := by
    rw [Bool.eq_false_iff]
    intro digit
    rw [isIdentifierChar_of_isDigit digit] at ends
    cases ends
  cases state with
  | ready =>
    show Pending.begin char = _
    cases begun : Pending.begin char <;> simp [Pending.next, Pending.finish, begun]
  | word text => simp [Pending.step, ends]
  | number digits => simp [Pending.step, ends, noDigit]
  | placeholder digits => simp [Pending.step, ends, noDigit]
  | _ => exact isOpen.elim

/-- **What is open is complete where a break follows.** -/
theorem Reads.append {left right : List Char} {first others : List Lexeme}
    (one : Reads bound left first) (breaks : Breaks right) (two : Reads bound right others) :
    Reads bound (left ++ right) (first ++ others) := by
  obtain ⟨complete, state, last, scanned, isOpen, finished, rfl⟩ := one
  obtain ⟨more, final, end_, scannedRight, finalOpen, finishedRight, rfl⟩ := two
  cases right with
  | nil =>
    cases scannedRight
    cases finishedRight
    rw [List.append_nil, List.append_nil, List.append_nil]
    exact ⟨complete, state, last, scanned, isOpen, finished, rfl⟩
  | cons char rest =>
    have ends : isIdentifierChar char = false := breaks char rfl
    rw [scan, Option.bind_eq_bind, Option.bind_eq_some_iff] at scannedRight
    obtain ⟨⟨head, following⟩, read, further⟩ := scannedRight
    obtain ⟨⟨tail, stop⟩, readRest, joined⟩ := Option.bind_eq_some_iff.mp further
    cases joined
    have begun : Pending.begin char = some (head, following) := read
    have ended : state.step bound char = some (last ++ head, following) := by
      rw [step_of_break isOpen ends, Pending.next, finished, begun]
      rfl
    have resumed : scan bound state (char :: rest) = some (last ++ (head ++ tail), final) := by
      rw [scan, ended]
      simp only [Option.bind_eq_bind, Option.bind_some, readRest]
      rw [List.append_assoc]
      rfl
    refine ⟨complete ++ (last ++ (head ++ tail)), final, end_, scan_append scanned resumed,
      finalOpen, finishedRight, ?_⟩
    simp only [List.append_assoc]

end Parts

end TwinStore.Sql

namespace TwinStore

open Sql

/-! ### The tokens of conditions -/

/-- The lexemes of a keyword of conditions. -/
def Keyword.lexemes : Keyword → List Lexeme
  | .leftParenthesis => [.mark .left]
  | .rightParenthesis => [.mark .right]
  | .comma => [.mark .comma]
  | .equals => [.mark .equals]
  | .greater => [.mark .greater]
  | .atLeast => [.mark .atLeast]
  | .less => [.mark .less]
  | .atMost => [.mark .atMost]
  | .extract => [.mark .extract]
  | .jsonCast => [.mark .cast, .word "jsonb"]
  | .jsonNull => [.literal "null", .mark .cast, .word "jsonb"]
  | .true => [.number 1, .mark .equals, .number 1]
  | .false => [.number 1, .mark .equals, .number 0]
  | .isNull => [.word "IS", .word "NULL"]
  | .isNotNull => [.word "IS", .word "NOT", .word "NULL"]
  | .isDistinctFrom => [.word "IS", .word "DISTINCT", .word "FROM"]
  | .membership => [.word "IN"]
  | .not => [.word "NOT"]
  | .and => [.word "AND"]
  | .or => [.word "OR"]
  | .coalesceGroup => [.word "COALESCE", .mark .left, .mark .left]
  | .orFalse => [.mark .right, .mark .comma, .word "FALSE", .mark .right]
  | _ => []

/-- The keywords of conditions. -/
def conditionKeywords : List Keyword :=
  [.leftParenthesis, .rightParenthesis, .comma, .equals, .greater, .atLeast, .less, .atMost,
    .extract, .jsonCast, .jsonNull, .true, .false, .isNull, .isNotNull, .isDistinctFrom,
    .membership, .not, .and, .or, .coalesceGroup, .orFalse]

/-- The keyword ends with a word or a number. -/
def Keyword.endsOpen (word : Keyword) : Bool :=
  [.jsonCast, .jsonNull, .true, .false, .isNull, .isNotNull].contains word

/-- The keyword begins with a word or a number. -/
def Keyword.startsOpen (word : Keyword) : Bool :=
  [.true, .false, .not, .coalesceGroup].contains word

namespace Token

/-- The lexemes of a token of conditions. -/
def lexemes : Token → List Lexeme
  | .keyword word => word.lexemes
  | .name identifier => [.name identifier.text]
  | .path segments => [.literal (String.ofList ('\x7b' :: pathChars segments ++ ['\x7d']))]
  | .number value => [.number value.toNat]
  | .argument bound => [.argument bound]

/-- The token is one that conditions are written with. -/
def InCondition : Token → Prop
  | .keyword word => word ∈ conditionKeywords
  | .number _ => False
  | .name _ | .path _ | .argument _ => True

/-- The token ends with a word or a number. -/
def endsOpen : Token → Bool
  | .keyword word => word.endsOpen
  | .number _ | .argument _ => true
  | .name _ | .path _ => false

/-- The token begins with a word or a number. -/
def startsOpen : Token → Bool
  | .keyword word => word.startsOpen
  | .number _ => true
  | .name _ | .path _ | .argument _ => false

/-- The second token may stand behind the first: no word and no number goes on in it. -/
def MayFollow (first second : Token) : Prop := first.endsOpen = true → second.startsOpen = false

end Token

/-! ### Reading tokens -/

section Tokens

variable {bound : List Argument}

/-- **A keyword is read as its lexemes**, complete unless it ends with a word or number, and goes on
nothing unless it begins with one. -/
theorem reads_keyword {word : Keyword} (known : word ∈ conditionKeywords) :
    Reads bound word.spelling.toList word.lexemes ∧
      (word.endsOpen = false → ReadsClosed bound word.spelling.toList word.lexemes) ∧
      (word.startsOpen = false → ∀ rest, Breaks (word.spelling.toList ++ rest)) := by
  simp only [conditionKeywords, List.mem_cons, List.not_mem_nil, or_false] at known
  rcases known with rfl | rfl | rfl | rfl | rfl | rfl | rfl | rfl | rfl | rfl | rfl | rfl | rfl |
    rfl | rfl | rfl | rfl | rfl | rfl | rfl | rfl | rfl
  all_goals
    refine ⟨⟨_, _, _, rfl, trivial, rfl, rfl⟩, ?_, ?_⟩
    · intro closed
      first | rfl | exact absurd closed (by decide)
    · intro breaks rest char first
      first | exact absurd breaks (by decide) | cases first; rfl

/-- Characters that go on in what is pending are all kept. -/
theorem scan_keeps {pending : List Char → Pending} {text : List Char}
    (keeps : ∀ char ∈ text, ∀ read,
      (pending read).step bound char = some ([], pending (read ++ [char])))
    (read : List Char) :
    scan bound (pending read) text = some ([], pending (read ++ text)) := by
  induction text generalizing read with
  | nil => rw [List.append_nil]; rfl
  | cons char rest step =>
    have further := step (fun other member => keeps other (List.mem_cons_of_mem _ member))
      (read ++ [char])
    rw [List.append_assoc, List.singleton_append] at further
    rw [scan, keeps char List.mem_cons_self]
    simp only [Option.bind_eq_bind, Option.bind_some, further]
    rfl

theorem scan_name {text : List Char} (plain : ∀ char ∈ text, char ≠ '"') :
    scan bound (.name []) (text ++ ['"']) = some ([.name (String.ofList text)], .ready) := by
  have kept := @scan_keeps bound .name text
    (fun char member _ => if_neg (plain char member)) []
  exact scan_append kept rfl

theorem scan_literal {text : List Char} (plain : ∀ char ∈ text, char ≠ '\'') :
    scan bound (.literal []) (text ++ ['\'']) =
      some ([.literal (String.ofList text)], .ready) := by
  have kept := @scan_keeps bound .literal text
    (fun char member _ => if_neg (plain char member)) []
  exact scan_append kept rfl

theorem scan_placeholder {text : List Char} (digits : Digits.IsDigits text) :
    scan bound (.placeholder []) text = some ([], .placeholder text) :=
  @scan_keeps bound .placeholder text (fun char member _ => if_pos (digits char member)) []

/-- A character of an identifier is no quote. -/
theorem ne_of_identifier (identifier : Identifier) {mark : Char}
    (foreign : isIdentifierChar mark = false) : ∀ char ∈ identifier.text.toList, char ≠ mark := by
  rintro char member rfl
  rw [Identifier.isIdentifierChar_of_mem member] at foreign
  cases foreign

/-- A character that only begins a lexeme leaves it to the rest. -/
theorem scan_begin {char : Char} {rest : List Char} {begun last : Pending} {lexemes : List Lexeme}
    (begins : Pending.begin char = some ([], begun))
    (read : scan bound begun rest = some (lexemes, last)) :
    scan bound .ready (char :: rest) = some (lexemes, last) := by
  rw [scan, Pending.step, begins]
  simp only [Option.bind_eq_bind, Option.bind_some, read]
  rfl

theorem readsClosed_name (identifier : Identifier) :
    ReadsClosed bound (quoteName identifier.text).toList [.name identifier.text] := by
  have noQuote : isIdentifierChar '"' = false := rfl
  have read := @scan_name bound _ (ne_of_identifier identifier noQuote)
  rw [String.ofList_toList] at read
  rw [quoteName, String.toList_append, String.toList_append, ReadsClosed]
  exact scan_begin rfl read

theorem readsClosed_path (segments : List Identifier) (number : Nat) :
    ReadsClosed bound (Token.chars number (.path segments)) (Token.lexemes (.path segments)) := by
  have plain : ∀ char ∈ '\x7b' :: Token.pathChars segments ++ ['\x7d'], char ≠ '\'' := by
    rintro char member rfl
    rcases Token.mem_pathText member with part | sign
    · cases part
    · exact absurd sign (by decide)
  have read := @scan_literal bound _ plain
  rw [Token.chars_path, ReadsClosed]
  exact scan_begin rfl read

theorem reads_placeholder {number : Nat} {argument : Argument}
    (numbered : Pending.argument? bound number = some argument) :
    Reads bound ('$' :: Digits.ofNat number) [.argument argument] := by
  have read := @scan_placeholder bound _ (Digits.isDigits_ofNat number)
  refine ⟨[], _, _, scan_begin rfl read, trivial, ?_, rfl⟩
  rw [Pending.finish, Digits.natural?_ofNat, Option.bind_some, numbered, Option.map_some]

/-- **A token is read as its lexemes**, given the argument of its number. -/
theorem reads_token {token : Token} (known : token.InCondition) {number : Nat}
    (numbered : ∀ argument, token.argument? = some argument →
      Pending.argument? bound number = some argument) :
    Reads bound (token.chars number) token.lexemes ∧
      (token.endsOpen = false → ReadsClosed bound (token.chars number) token.lexemes) := by
  cases token with
  | keyword word =>
    obtain ⟨reads, closed, _⟩ := reads_keyword known
    exact ⟨reads, closed⟩
  | number value => exact known.elim
  | name identifier =>
    have closed := @readsClosed_name bound identifier
    exact ⟨closed.reads, fun _ => closed⟩
  | path segments =>
    have closed := @readsClosed_path bound segments number
    exact ⟨closed.reads, fun _ => closed⟩
  | argument value =>
    refine ⟨reads_placeholder (numbered value rfl), ?_⟩
    intro ends
    cases ends

/-- A token that begins with a sign goes on nothing. -/
theorem breaks_token {token : Token} (known : token.InCondition)
    (breaks : token.startsOpen = false) (number : Nat) (rest : List Char) :
    Breaks (token.chars number ++ rest) := by
  cases token with
  | keyword word => exact (@reads_keyword [] word known).2.2 breaks rest
  | number value => exact known.elim
  | name identifier =>
    intro char first
    rw [Token.chars, quoteName, String.toList_append, String.toList_append] at first
    cases first
    rfl
  | path segments =>
    intro char first
    cases first
    rfl
  | argument value =>
    intro char first
    cases first
    rfl

end Tokens

theorem argument?_next (before after : List Argument) (argument : Argument) :
    Pending.argument? (before ++ argument :: after) (before.length + 1) = some argument := by
  rw [Pending.argument?, List.getElem?_append_right (Nat.le_refl _), Nat.sub_self]
  rfl

/-- **Tokens are read as their lexemes**, whatever is bound before and behind them. -/
theorem reads_charsFrom : ∀ {tokens : List Token}, (∀ token ∈ tokens, token.InCondition) →
    tokens.IsChain Token.MayFollow → ∀ before after : List Argument,
      Reads (before ++ Token.arguments tokens ++ after) (Token.charsFrom before.length tokens)
        (tokens.flatMap Token.lexemes)
  | [], _, _, _, _ => ⟨[], .ready, [], rfl, trivial, rfl, rfl⟩
  | token :: rest, known, follow, before, after => by
    obtain ⟨first, later⟩ : token.InCondition ∧ ∀ other ∈ rest, other.InCondition :=
      List.forall_mem_cons.mp known
    -- The arguments of the rest count on from that of the token, if it has one.
    have others := reads_charsFrom later follow.tail (before ++ Token.arguments [token]) after
    have arguments : before ++ Token.arguments (token :: rest) ++ after =
        before ++ Token.arguments [token] ++ Token.arguments rest ++ after := by
      rw [← List.singleton_append, Token.arguments_append, ← List.append_assoc before]
    rw [List.length_append] at others
    rw [arguments, Token.charsFrom, List.flatMap_cons]
    have numbered : ∀ argument, token.argument? = some argument →
        Pending.argument? (before ++ Token.arguments [token] ++ Token.arguments rest ++ after)
          (before.length + 1) = some argument := by
      intro argument isArgument
      have single : Token.arguments [token] = [argument] := by
        simp [Token.arguments, isArgument]
      rw [single, List.append_assoc, List.append_assoc]
      exact argument?_next before _ argument
    obtain ⟨reads, closed⟩ := reads_token first numbered
    cases ends : token.endsOpen with
    | false => exact (closed ends).append others
    | true =>
      refine reads.append ?_ others
      cases rest with
      | nil =>
        intro char none_
        cases none_
      | cons second more =>
        have breaks : second.startsOpen = false := (List.isChain_cons_cons.mp follow).1 ends
        exact breaks_token (later second List.mem_cons_self) breaks _ _

end TwinStore
