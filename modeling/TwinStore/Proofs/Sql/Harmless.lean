/-
**No name changes what a statement says.** Whatever names a caller gives, a statement is made of
fixed words and signs, identifiers between double quotes, fixed texts and paths of identifiers
between single quotes, numbers and placeholders.

* `Piece.Allowed`: the pieces that a statement may have.
* `Harmless`: a text of such pieces, in which every double quote is closed and nothing ends a
  statement, escapes a character or opens a comment.
* `harmless_charsFrom`: tokens that are apart are such a text.
* `names_stay_names`: so is every statement, and a name that is none is refused.
-/

import TwinStore.Proofs.Sql.Naming

namespace TwinStore.Sql

/-! ### Allowed pieces -/

/-- A path of identifiers between braces. -/
def IsPathLiteral (text : List Char) : Prop :=
  ∃ segments, segments ≠ [] ∧ (∀ segment ∈ segments, MatchesIdentifier segment) ∧
    text = '\x7b' :: List.intercalate [','] segments ++ ['\x7d']

/-- The piece is fixed, or an identifier, a path of identifiers, a number or a placeholder. -/
def Piece.Allowed : Piece → Prop
  | word text => text ∈ fixedWords.map String.toList
  | name text => MatchesIdentifier text
  | literal text => text ∈ fixedLiterals.map String.toList ∨ IsPathLiteral text
  | number digits => digits ≠ [] ∧ ∀ digit ∈ digits, digit.isDigit = true
  | placeholder digits => ∃ number, 0 < number ∧ digits = Digits.ofNat number
  | mark char => char ∈ fixedMarks

theorem Piece.allowed_of_isFixed {piece : Piece} (fixed : piece.isFixed = true) :
    piece.Allowed := by
  cases piece with
  | word text => exact List.contains_iff_mem.mp fixed
  | literal text => exact .inl (List.contains_iff_mem.mp fixed)
  | number digits =>
    obtain ⟨digits_, some⟩ := Bool.and_eq_true_iff.mp fixed
    refine ⟨?_, List.all_eq_true.mp digits_⟩
    rintro rfl
    cases some
  | mark char => exact List.contains_iff_mem.mp fixed
  | name text | placeholder digits => cases fixed

end TwinStore.Sql

namespace TwinStore

open Sql

theorem Token.pathChars_eq (segments : List Identifier) :
    pathChars segments =
      List.intercalate [','] (segments.map fun segment => segment.text.toList) := by
  induction segments with
  | nil => rfl
  | cons segment rest step =>
    cases rest with
    | nil => rw [pathChars, List.map_singleton, List.intercalate_singleton]
    | cons second others =>
      rw [pathChars, step, List.map_cons, List.map_cons, List.map_cons, List.intercalate_cons_cons,
        List.append_assoc]
      · rfl
      · exact List.cons_ne_nil _ _

theorem Token.allowed_pieces {token : Token} (path : token ≠ .path []) {number : Nat}
    (counted : 0 < number) : ∀ piece ∈ token.pieces number, piece.Allowed := by
  cases token with
  | keyword word =>
    exact fun piece member => Piece.allowed_of_isFixed (word.isFixed_of_mem_pieces member)
  | name identifier =>
    exact List.forall_mem_singleton.mpr (isIdentifier_iff_matches.mp identifier.valid)
  | path segments =>
    refine List.forall_mem_singleton.mpr (.inr ⟨segments.map fun segment => segment.text.toList,
      ?_, ?_, by rw [pathChars_eq]⟩)
    · intro none
      rw [List.map_eq_nil_iff.mp none] at path
      exact path rfl
    · intro text member
      obtain ⟨segment, -, rfl⟩ := List.mem_map.mp member
      exact isIdentifier_iff_matches.mp segment.valid
  | number value =>
    exact List.forall_mem_singleton.mpr
      ⟨Digits.ofNat_ne_nil _, fun digit member => Digits.isDigit_of_mem_ofNat member⟩
  | argument bound => exact List.forall_mem_singleton.mpr ⟨number, counted, rfl⟩

theorem Token.allowed_piecesFrom {tokens : List Token} (paths : .path [] ∉ tokens) (bound : Nat) :
    ∀ piece ∈ piecesFrom bound tokens, piece.Allowed := by
  induction tokens generalizing bound with
  | nil => nofun
  | cons token rest step =>
    obtain ⟨here, later⟩ := not_or.mp (mt List.mem_cons.mpr paths)
    exact List.forall_mem_append.mpr
      ⟨token.allowed_pieces (Ne.symm here) (Nat.succ_pos bound), step later _⟩

namespace Sql

/-! ### Characters -/

/-- Characters between quotes, and those outside that are no double quote. -/
def isInnerChar (char : Char) : Bool :=
  isIdentifierChar char || ['\'', '\x7b', '\x7d', '[', ']', '$'].contains char ||
    fixedMarks.contains char

theorem isInnerChar_of_identifier {char : Char} (inside : isIdentifierChar char = true) :
    isInnerChar char = true := by
  rw [isInnerChar, inside]
  rfl

theorem isInnerChar_of_isDigit {char : Char} (digit : char.isDigit = true) :
    isInnerChar char = true := by
  refine isInnerChar_of_identifier ?_
  simp [isIdentifierChar, Char.isAlphanum, digit]

theorem isIdentifierChar_of_matches {text : List Char} (matched : MatchesIdentifier text) :
    ∀ char ∈ text, isIdentifierChar char = true := by
  obtain ⟨first, rest, rfl, -, start, inside⟩ := matched
  exact List.forall_mem_cons.mpr
    ⟨isIdentifierChar_of_start (isIdentifierStart_iff.mpr start),
      fun char member => isIdentifierChar_iff.mpr (inside char member)⟩

theorem isInnerChar_of_word {text : List Char} (fixed : text ∈ fixedWords.map String.toList) :
    ∀ char ∈ text, isInnerChar char = true := by
  have all : (fixedWords.map String.toList).all fun text => text.all isInnerChar := by
    simp only [fixedWords, List.map_cons, List.map_nil]
    repeat rw [String.toList_ofList]
    decide +kernel
  exact List.all_eq_true.mp (List.all_eq_true.mp all text fixed)

theorem quoted_of_plain {quote : Char} {text : List Char} (plain : quote ∉ text) :
    quoted quote text = quote :: text := by
  rw [quoted]
  congr 1
  induction text with
  | nil => rfl
  | cons char rest step =>
    obtain ⟨here, later⟩ := not_or.mp (mt List.mem_cons.mpr plain)
    rw [List.flatMap_cons, step later, if_neg (Ne.symm here)]
    rfl

/-- A text between quotes that has none inside. -/
theorem chars_of_inner {quote : Char} {text : List Char} (plain : quote ∉ text) :
    quoted quote text ++ [quote] = quote :: (text ++ [quote]) := by
  rw [quoted_of_plain plain, List.cons_append]

theorem mem_of_mem_intercalate {α : Type} {separator : List α} {item : α}
    {parts : List (List α)} (member : item ∈ List.intercalate separator parts) :
    item ∈ separator ∨ ∃ part ∈ parts, item ∈ part := by
  induction parts with
  | nil => cases member
  | cons part rest step =>
    cases rest with
    | nil => exact .inr ⟨part, List.mem_cons_self, by rwa [List.intercalate_singleton] at member⟩
    | cons second others =>
      rw [List.intercalate_cons_cons] at member
      rcases List.mem_append.mp member with front | later
      · rcases List.mem_append.mp front with inside | mark
        · exact .inr ⟨part, List.mem_cons_self, inside⟩
        · exact .inl mark
      · refine (step later).imp_right ?_
        rintro ⟨other, known, inside⟩
        exact ⟨other, List.mem_cons_of_mem _ known, inside⟩

theorem mem_path {text : List Char} (path : IsPathLiteral text) {char : Char}
    (member : char ∈ text) :
    isIdentifierChar char = true ∨ char ∈ ['\x7b', ',', '\x7d'] := by
  obtain ⟨segments, -, matched, rfl⟩ := path
  simp only [List.cons_append, List.mem_cons, List.mem_append, List.not_mem_nil, or_false]
    at member ⊢
  rcases member with opening | inside | closing
  · exact .inr (.inl opening)
  · rcases mem_of_mem_intercalate inside with comma | ⟨segment, known, here⟩
    · exact .inr (.inr (.inl (List.mem_singleton.mp comma)))
    · exact .inl (isIdentifierChar_of_matches (matched segment known) char here)
  · exact .inr (.inr (.inr closing))

theorem isInnerChar_of_literal {text : List Char}
    (allowed : text ∈ fixedLiterals.map String.toList ∨ IsPathLiteral text) :
    ∀ char ∈ text, isInnerChar char = true ∧ char ≠ '\'' := by
  intro char member
  rcases allowed with fixed | path
  · have all : (fixedLiterals.map String.toList).all fun text =>
        text.all fun char => isInnerChar char && char != '\'' := by decide
    simpa using List.all_eq_true.mp (List.all_eq_true.mp all text fixed) char member
  · rcases mem_path path member with inside | sign
    · refine ⟨isInnerChar_of_identifier inside, ?_⟩
      rintro rfl
      cases inside
    · simp only [List.mem_cons, List.not_mem_nil, or_false] at sign
      rcases sign with rfl | rfl | rfl <;> exact ⟨rfl, by decide⟩

/-- **Outside double quotes there is no double quote**, and inside there is none either. -/
theorem Piece.Allowed.isInner {piece : Piece} (allowed : piece.Allowed) :
    (∃ text, piece.chars = '"' :: (text ++ ['"']) ∧ ∀ char ∈ text, isInnerChar char = true) ∨
      ∀ char ∈ piece.chars, isInnerChar char = true := by
  cases piece with
  | word text => exact .inr (isInnerChar_of_word allowed)
  | name text =>
    have inside := isIdentifierChar_of_matches allowed
    refine .inl ⟨text, chars_of_inner ?_, fun char member =>
      isInnerChar_of_identifier (inside char member)⟩
    intro member
    cases inside _ member
  | literal text =>
    have inside := isInnerChar_of_literal allowed
    have plain : '\'' ∉ text := fun member => (inside _ member).2 rfl
    refine .inr ?_
    rw [chars, chars_of_inner plain]
    intro char member
    simp only [List.mem_cons, List.mem_append, List.not_mem_nil, or_false] at member
    rcases member with rfl | within | rfl
    · decide
    · exact (inside char within).1
    · decide
  | number digits => exact .inr fun char member => isInnerChar_of_isDigit (allowed.2 char member)
  | placeholder digits =>
    obtain ⟨number, -, rfl⟩ := allowed
    refine .inr (List.forall_mem_cons.mpr ⟨by decide, fun char member => ?_⟩)
    exact isInnerChar_of_isDigit (Digits.isDigit_of_mem_ofNat member)
  | mark char =>
    refine .inr (List.forall_mem_singleton.mpr ?_)
    rw [isInnerChar, List.contains_iff_mem.mpr allowed, Bool.or_true]

theorem Piece.Allowed.mem_chars {piece : Piece} (allowed : piece.Allowed) {char : Char}
    (member : char ∈ piece.chars) : isInnerChar char = true ∨ char = '"' := by
  rcases allowed.isInner with ⟨text, chars, inside⟩ | inside
  · rw [chars, List.mem_cons, List.mem_append, List.mem_singleton] at member
    rcases member with quote | within | quote
    · exact .inr quote
    · exact .inl (inside char within)
    · exact .inr quote
  · exact .inl (inside char member)

theorem count_quotes_of_isInner {text : List Char}
    (inside : ∀ char ∈ text, isInnerChar char = true) : text.count '"' = 0 :=
  List.count_eq_zero.mpr fun member => absurd (inside _ member) (by decide)

theorem Piece.Allowed.even_quotes {piece : Piece} (allowed : piece.Allowed) :
    piece.chars.count '"' % 2 = 0 := by
  rcases allowed.isInner with ⟨text, chars, inside⟩ | inside
  · rw [chars, List.count_cons_self, List.count_append, count_quotes_of_isInner inside]
    rfl
  · rw [count_quotes_of_isInner inside]

theorem even_quotes_of_allowed {pieces : List Piece} (allowed : ∀ piece ∈ pieces, piece.Allowed) :
    (pieces.flatMap Piece.chars).count '"' % 2 = 0 := by
  induction pieces with
  | nil => rfl
  | cons piece rest step =>
    have one := (allowed piece List.mem_cons_self).even_quotes
    have others := step fun other member => allowed other (List.mem_cons_of_mem _ member)
    rw [List.flatMap_cons, List.count_append]
    omega

/-! ### Dashes -/

/-- No two dashes follow each other. -/
def NoDashes (text : List Char) : Prop :=
  text.IsChain fun one other => ¬(one = '-' ∧ other = '-')

instance (text : List Char) : Decidable (NoDashes text) :=
  inferInstanceAs (Decidable (List.IsChain _ _))

theorem noDashes_of_not_mem {text : List Char} (plain : '-' ∉ text) : NoDashes text := by
  induction text with
  | nil => exact .nil
  | cons char rest step =>
    obtain ⟨here, later⟩ := not_or.mp (mt List.mem_cons.mpr plain)
    exact List.isChain_cons.mpr ⟨fun _ _ both => here both.1.symm, step later⟩

end Sql

theorem Keyword.noDashes (word : Keyword) :
    NoDashes word.spelling.toList ∧ word.spelling.toList.getLast? ≠ some '-' := by
  delta Keyword.spelling
  cases word <;> simp only [String.toList_append] <;> repeat rw [String.toList_ofList]
  all_goals decide +kernel

/-- Only keywords are written with dashes. -/
theorem Token.dash_not_mem {token : Token} (other : ∀ word, token ≠ .keyword word) (number : Nat) :
    '-' ∉ token.chars number := by
  intro member
  cases token with
  | keyword word => exact other word rfl
  | name identifier =>
    rw [chars, toList_quoteName] at member
    simp only [List.mem_cons, List.mem_append, List.not_mem_nil, or_false] at member
    rcases member with quote | inside | quote
    · cases quote
    · cases Identifier.isIdentifierChar_of_mem inside
    · cases quote
  | path segments =>
    rw [chars_path, List.mem_cons, List.mem_append, List.mem_singleton] at member
    rcases member with quote | inside | quote
    · cases quote
    · rcases mem_pathText inside with part | sign
      · cases part
      · exact absurd sign (by decide)
    · cases quote
  | number value => cases Digits.isDigit_of_mem_ofNat member
  | argument bound =>
    rcases List.mem_cons.mp member with dollar | digit
    · cases dollar
    · cases Digits.isDigit_of_mem_ofNat digit

/-- No token ends with a dash, or has two of them in a row. -/
theorem Token.noDashes (token : Token) (number : Nat) :
    NoDashes (token.chars number) ∧ (token.chars number).getLast? ≠ some '-' := by
  by_cases written : ∃ word, token = .keyword word
  · obtain ⟨word, rfl⟩ := written
    exact word.noDashes
  · have none := dash_not_mem (not_exists.mp written) number
    exact ⟨noDashes_of_not_mem none, fun last => none (List.mem_of_getLast? last)⟩

theorem Token.noDashes_charsFrom (bound : Nat) (tokens : List Token) :
    NoDashes (charsFrom bound tokens) := by
  induction tokens generalizing bound with
  | nil => exact .nil
  | cons token rest step =>
    obtain ⟨inside, last⟩ := token.noDashes (bound + 1)
    refine List.isChain_append.mpr ⟨inside, step _, ?_⟩
    rintro one isLast _ _ ⟨rfl, -⟩
    exact last isLast

/-! ### Harmless texts -/

namespace Sql

/-- The text is made of allowed pieces, every double quote is closed, and nothing in it ends a
statement, escapes a character or opens a comment. -/
structure Harmless (text : List Char) : Prop where
  pieces : ∃ pieces, pieces? text = some pieces ∧ pieces.flatMap Piece.chars = text ∧
    ∀ piece ∈ pieces, piece.Allowed
  quotes : text.count '"' % 2 = 0
  semicolon : ';' ∉ text
  backslash : '\\' ∉ text
  dashes : ¬['-', '-'] <:+: text
  slashStar : ¬['/', '*'] <:+: text

end Sql

/-- **The text of tokens that are apart is harmless.** -/
theorem Token.harmless_charsFrom {tokens : List Token} (apart : tokens.IsChain Token.Apart)
    (paths : .path [] ∉ tokens) (bound : Nat) : Harmless (charsFrom bound tokens) := by
  have read := pieces?_charsFrom apart bound
  have whole := chars_pieces read
  have allowed := allowed_piecesFrom paths bound
  have inside : ∀ char ∈ charsFrom bound tokens, isInnerChar char = true ∨ char = '"' := by
    intro char member
    rw [← whole] at member
    obtain ⟨piece, known, here⟩ := List.mem_flatMap.mp member
    exact (allowed piece known).mem_chars here
  refine ⟨⟨_, read, whole, allowed⟩, whole ▸ even_quotes_of_allowed allowed, ?_, ?_, ?_, ?_⟩
  · exact fun member => absurd (inside _ member) (by decide)
  · exact fun member => absurd (inside _ member) (by decide)
  · intro both
    have chain : NoDashes ['-', '-'] := List.IsChain.infix (noDashes_charsFrom bound tokens) both
    exact absurd chain (by decide)
  · intro both
    exact absurd (inside '/' (both.subset List.mem_cons_self)) (by decide)

theorem Statement.harmless {statement : Statement} {bound : List Argument}
    (writes : (Draft.ofTokens statement.tokens).Writes bound) : Harmless statement.sql.toList := by
  rw [sql, Token.render, String.toList_ofList]
  exact Token.harmless_charsFrom writes.apart writes.paths 0

/-- **Names stay names.** Whatever the names are that a caller gives, the text of every statement is
harmless, and there is no statement where a name that has to be written is no identifier, or the
field of a condition or of an order is no path of identifiers. -/
theorem names_stay_names :
    (∀ (request : Statement.Request) (statement : Statement), request.build = .ok statement →
      Harmless statement.sql.toList) ∧
    (∀ (definition : Statement.Definition) (statement : Statement),
      definition.build = .ok (some statement) → Harmless statement.sql.toList) ∧
    (∀ request : Statement.Request, ¬request.WellNamed → ∃ error, request.build = .error error) ∧
    ∀ definition : Statement.Definition, ¬definition.WellNamed →
      ∃ error, definition.build = .error error := by
  refine ⟨fun request statement built => ?_, fun definition statement built => ?_,
    fun request unnamed => ?_, fun definition unnamed => ?_⟩
  · exact Statement.harmless (Statement.Request.build_writes built)
  · exact Statement.harmless (Statement.Definition.build_writes built)
  · cases built : request.build with
    | error error => exact ⟨error, rfl⟩
    | ok statement => exact absurd (Statement.Request.wellNamed_of_built built) unnamed
  · cases built : definition.build with
    | error error => exact ⟨error, rfl⟩
    | ok result => exact absurd (Statement.Definition.wellNamed_of_built built) unnamed

theorem names_stay_names_sampleRequest :
    (∃ statement, Statement.sampleRequest.build = .ok statement ∧
      Harmless statement.sql.toList) ∧
    (∃ statement, (Statement.Definition.dropIndex "by_level").build = .ok (some statement) ∧
      Harmless statement.sql.toList) ∧
    (∃ error, (Statement.Request.insert "Item; x" ⟨"a", .first, []⟩).build =
      .error error) ∧
    ∃ error, (Statement.Definition.dropTable "Item; x").build = .error error := by
  obtain ⟨requests, definitions, refusedRequests, refusedDefinitions⟩ := names_stay_names
  have invalid : ¬MatchesIdentifier "Item; x".toList := by
    rw [← isIdentifier_iff_matches]
    decide
  refine ⟨⟨_, rfl, requests Statement.sampleRequest _ rfl⟩,
    ⟨_, rfl, definitions (.dropIndex "by_level") _ rfl⟩, ?_, ?_⟩
  · exact refusedRequests _ fun named => invalid (named.1 _ List.mem_cons_self)
  · exact refusedDefinitions _ fun named => invalid (named _ List.mem_cons_self)

end TwinStore
