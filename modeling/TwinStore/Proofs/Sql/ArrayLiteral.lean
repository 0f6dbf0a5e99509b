/-
**The path that a literal denotes.** The names of a path are written into an array literal, between
commas and without quotes. A server that reads the literal takes an element without quotes for null
if it is spelled so.

* `arrayElements?` reads an array literal: elements between commas, in quotes or without, with white
  space around them. Nested arrays and escapes are not read.
* `arrayElements?_pathChars`: the literal of a path has an element for each of its names.
* `path_literal_denotes_iff`: they are the names exactly if none of them is spelled like null; a
  path with such a name selects nothing from any document.
-/

import Mathlib.Data.List.DropRight
import TwinStore.Proofs.Path
import TwinStore.Proofs.Sql.Lexeme
import TwinStore.Proofs.Sql.Order
import TwinStore.Proofs.Value.Extraction

namespace TwinStore.Sql

/-! ### Array literals -/

/-- The text is spelled like null, in upper or lower case. -/
def SpellsNull (text : String) : Prop := text.toList.map Char.toLower = "null".toList

instance : DecidablePred SpellsNull := fun text =>
  inferInstanceAs (Decidable (text.toList.map Char.toLower = "null".toList))

/-- The element that a text without quotes stands for. -/
def bareElement (text : String) : Option String := if SpellsNull text then none else some text

/-- What has been read of an element. -/
inductive ElementState where
  /-- Nothing but white space. -/
  | blank
  /-- A text without quotes. -/
  | bare (text : List Char)
  /-- A text behind its opening quote. -/
  | quoted (text : List Char)
  /-- A text behind its closing quote. -/
  | closed (text : List Char)

namespace ElementState

def isQuoted : ElementState → Bool
  | quoted _ => true
  | _ => false

/-- The element, where a comma or a brace ends it. -/
def finish : ElementState → Option (Option String)
  | bare text => some (bareElement (String.ofList (text.rdropWhile Json.spaces.contains)))
  | closed text => some (some (String.ofList text))
  | blank | quoted _ => none

/-- Reads a character that does not end the element. -/
def step (state : ElementState) (char : Char) : Option ElementState :=
  match state with
  | blank =>
    if Json.spaces.contains char then some blank
    else if char = '"' then some (quoted [])
    else if char ∈ ['\x7b', '\\'] then none
    else some (bare [char])
  | bare text => if char ∈ ['"', '\x7b', '\\'] then none else some (bare (text ++ [char]))
  | quoted text =>
    if char = '"' then some (closed text)
    else if char = '\\' then none
    else some (quoted (text ++ [char]))
  | closed text => if Json.spaces.contains char then some (closed text) else none

end ElementState

/-- The elements up to the closing brace, which only white space may follow. -/
def elements? (state : ElementState) : List Char → Option (List (Option String))
  | [] => none
  | char :: rest =>
    if char = ',' ∧ state.isQuoted = false then do
      let element ← state.finish
      let others ← elements? .blank rest
      return element :: others
    else if char = '\x7d' ∧ state.isQuoted = false then
      if rest.all Json.spaces.contains then state.finish.map fun element => [element] else none
    else (state.step char).bind fun next => elements? next rest

/-- The elements of an array literal. -/
def arrayElements? (literal : String) : Option (List (Option String)) :=
  match literal.toList.dropWhile Json.spaces.contains with
  | '\x7b' :: inside =>
    match inside.dropWhile Json.spaces.contains with
    | '\x7d' :: rest => if rest.all Json.spaces.contains then some [] else none
    | elements => elements? .blank elements
  | _ => none

/-! ### Names without quotes -/

section Names

/-- The characters that have a meaning in an array literal. -/
def marks : List Char := Json.spaces ++ [',', '\x7d', '"', '\x7b', '\\']

/-- No character of an identifier has a meaning in an array literal. -/
theorem not_mem_marks {char : Char} (inside : isIdentifierChar char = true) : char ∉ marks := by
  intro member
  have others : marks.all (fun mark => !isIdentifierChar mark) = true := by decide
  have other := List.all_eq_true.mp others char member
  simp [inside] at other

/-- A character of an identifier goes on an element without quotes. -/
theorem elements?_bare {char : Char} (inside : isIdentifierChar char = true)
    (text rest : List Char) :
    elements? (.bare text) (char :: rest) = elements? (.bare (text ++ [char])) rest := by
  have plain := not_mem_marks inside
  simp only [marks, List.mem_append, List.mem_cons, List.not_mem_nil, or_false, not_or] at plain
  simp [elements?, ElementState.step, plain]

/-- A character of an identifier begins an element without quotes. -/
theorem elements?_blank {char : Char} (inside : isIdentifierChar char = true) (rest : List Char) :
    elements? .blank (char :: rest) = elements? (.bare [char]) rest := by
  have plain := not_mem_marks inside
  simp only [marks, List.mem_append, List.mem_cons, List.not_mem_nil, or_false, not_or] at plain
  simp [elements?, ElementState.step, plain]

theorem elements?_bare_append {text : List Char}
    (inside : ∀ char ∈ text, isIdentifierChar char = true) (front rest : List Char) :
    elements? (.bare front) (text ++ rest) = elements? (.bare (front ++ text)) rest := by
  induction text generalizing front with
  | nil => simp
  | cons char text step =>
    rw [List.cons_append, elements?_bare (inside char List.mem_cons_self),
      step fun other member => inside other (List.mem_cons_of_mem _ member), List.append_assoc]
    rfl

/-- A name is read as an element without quotes. -/
theorem elements?_name (name : Identifier) (rest : List Char) :
    elements? .blank (name.text.toList ++ rest) = elements? (.bare name.text.toList) rest := by
  have inside : ∀ char ∈ name.text.toList, isIdentifierChar char = true :=
    fun char member => Identifier.isIdentifierChar_of_mem member
  obtain ⟨first, others, split, -⟩ := name.exists_start
  rw [split] at inside ⊢
  rw [List.cons_append, elements?_blank (inside first List.mem_cons_self),
    elements?_bare_append fun char member => inside char (List.mem_cons_of_mem _ member)]
  rfl

/-- The element of a name is null if the name is spelled so. -/
theorem finish_name (name : Identifier) :
    (ElementState.bare name.text.toList).finish = some (bareElement name.text) := by
  have kept : name.text.toList.rdropWhile Json.spaces.contains = name.text.toList := by
    rw [List.rdropWhile_eq_self_iff]
    intro some_ space
    have inside := Identifier.isIdentifierChar_of_mem (List.getLast_mem some_)
    exact not_mem_marks inside (List.mem_append_left _ (by simpa using space))
  rw [ElementState.finish, kept, String.ofList_toList]

/-- **The elements of a path are those of its names**, in order. -/
theorem elements?_pathChars {path : List Identifier} (some_ : path ≠ []) :
    elements? .blank (Token.pathChars path ++ ['\x7d']) =
      some (path.map fun name => bareElement name.text) := by
  induction path with
  | nil => exact absurd rfl some_
  | cons name rest step =>
    cases rest with
    | nil =>
      rw [Token.pathChars, elements?_name]
      simp [elements?, ElementState.isQuoted, finish_name]
    | cons second others =>
      rw [Token.pathChars, List.append_assoc, elements?_name, List.cons_append]
      · simp only [elements?, ElementState.isQuoted, and_self, if_true, finish_name,
          step (List.cons_ne_nil _ _)]
        rfl
      · exact List.cons_ne_nil _ _

theorem exists_pathChars {path : List Identifier} (some_ : path ≠ []) :
    ∃ first rest, Token.pathChars path = first :: rest ∧ isIdentifierChar first = true := by
  obtain ⟨name, others, rfl⟩ := List.exists_cons_of_ne_nil some_
  obtain ⟨first, rest, split, start⟩ := name.exists_start
  refine ⟨first, ?_, ?_, isIdentifierChar_of_start start⟩
  · exact rest ++ if others = [] then [] else ',' :: Token.pathChars others
  · cases others <;> simp [Token.pathChars, split]

/-- The elements of the literal of a path are those of its names. -/
theorem arrayElements?_pathChars {path : List Identifier} (some_ : path ≠ []) :
    arrayElements? (String.ofList ('\x7b' :: Token.pathChars path ++ ['\x7d'])) =
      some (path.map fun name => bareElement name.text) := by
  obtain ⟨first, rest, begins, inside⟩ := exists_pathChars some_
  have plain := not_mem_marks inside
  simp only [marks, List.mem_append, List.mem_cons, List.not_mem_nil, or_false, not_or] at plain
  rw [← elements?_pathChars some_, begins, arrayElements?, String.toList_ofList, List.cons_append,
    List.dropWhile_cons_of_neg (by decide), List.cons_append]
  show (match List.dropWhile Json.spaces.contains (first :: (rest ++ ['\x7d'])) with
    | '\x7d' :: rest => if rest.all Json.spaces.contains then some [] else none
    | elements => elements? .blank elements) = _
  rw [List.dropWhile_cons_of_neg (by simp [plain])]
  split
  · next same => exact absurd (List.cons.inj same).1 plain.2.2.1
  · rfl

end Names

end TwinStore.Sql

namespace TwinStore

open Sql

/-! ### Dotted fields -/

/-- The names of a reference's path are those behind the head of the field. -/
theorem FieldReference.path_text {field : String} {reference : FieldReference}
    (read : FieldReference.ofText field = .ok reference) :
    reference.path.map Identifier.text = (fieldSegments field).tail := by
  have names := congrArg List.tail (fieldKey_eq read)
  rw [List.tail_cons, fieldKey, fieldSegments_eq_cons] at names
  exact names.symm

/-- The path of a dotted field is not empty. -/
theorem FieldReference.path_ne_nil {field : String} {reference : FieldReference}
    (read : FieldReference.ofText field = .ok reference) (dotted : isDotted field = true) :
    reference.path ≠ [] := by
  intro none_
  have names := path_text read
  rw [none_, fieldSegments, ← List.map_tail] at names
  have plain := (splitDots_tail field.toList).mp (List.map_eq_nil_iff.mp names.symm)
  rw [isDotted_eq_false.mpr plain] at dotted
  cases dotted

/-- A dotted field is written as an extraction from its column. -/
theorem FieldReference.lexemes?_draft {reference : FieldReference} (some_ : reference.path ≠ []) :
    ∃ tokens, reference.draft = .ofTokens tokens ∧ ∀ before after : List Argument,
      lexemes? (before ++ after) (Token.render before.length tokens).toList =
        some [.mark .left, .name reference.column.text, .mark .extract,
          .literal (String.ofList ('\x7b' :: Token.pathChars reference.path ++ ['\x7d'])),
          .mark .right] := by
  obtain ⟨column, path⟩ := reference
  obtain ⟨name, rest, rfl⟩ := List.exists_cons_of_ne_nil some_
  let tokens : List Token := [.keyword .leftParenthesis, .name column, .keyword .extract,
    .path (name :: rest), .keyword .rightParenthesis]
  refine ⟨tokens, rfl, fun before after => ?_⟩
  have known : ∀ token ∈ tokens, token.InCondition := by
    simp [tokens, Token.InCondition, conditionKeywords]
  have apart : tokens.IsChain Token.MayFollow := by
    simp [tokens, Token.MayFollow, Token.endsOpen, Keyword.endsOpen]
  have read := (reads_charsFrom known apart before after).lexemes?
  have closed : Token.arguments tokens = [] := rfl
  rw [closed, List.append_nil] at read
  rw [Token.render, String.toList_ofList, read]
  rfl

/-- **What the literal of a dotted field denotes.** The field is written as an extraction from its
column by a literal. The elements of the literal are the names behind the head of the field, in
order, except that a name spelled like null is read as null. So they are the names exactly if none
of them is spelled so, and with such a name the literal selects nothing from any document. -/
theorem path_literal_denotes_iff {field : String} {reference : FieldReference}
    (read : FieldReference.ofText field = .ok reference) (dotted : isDotted field = true) :
    ∃ tokens literal elements, reference.draft = .ofTokens tokens ∧
      (∀ before after : List Argument,
        lexemes? (before ++ after) (Token.render before.length tokens).toList =
          some [.mark .left, .name reference.column.text, .mark .extract, .literal literal,
            .mark .right]) ∧
      arrayElements? literal = some elements ∧
      elements = (fieldSegments field).tail.map bareElement ∧
      (elements = (fieldSegments field).tail.map some ↔
        ∀ name ∈ (fieldSegments field).tail, ¬SpellsNull name) ∧
      ((∃ name ∈ (fieldSegments field).tail, SpellsNull name) →
        ∀ document : Json, document.extract? elements = none) := by
  have some_ := FieldReference.path_ne_nil read dotted
  obtain ⟨tokens, drafted, lexemes⟩ := FieldReference.lexemes?_draft some_
  have elements := arrayElements?_pathChars some_
  have names : reference.path.map (fun name => bareElement name.text) =
      (fieldSegments field).tail.map bareElement := by
    rw [← FieldReference.path_text read, List.map_map]
    rfl
  rw [names] at elements
  refine ⟨tokens, _, _, drafted, lexemes, elements, rfl, ?_, ?_⟩
  · rw [List.map_inj_left]
    refine forall₂_congr fun name _ => ?_
    rw [bareElement]
    by_cases null : SpellsNull name
    · simp [null]
    · simp [null]
  · rintro ⟨name, member, null⟩ document
    refine document.extract?_of_null (List.mem_map.mpr ⟨name, member, ?_⟩)
    rw [bareElement, if_pos null]

/-- The names of a column and of an entry in it that is spelled like null. -/
def nullReference : FieldReference := ⟨⟨"address", by decide⟩, [⟨"NULL", by decide⟩]⟩

theorem ofText_nullReference : FieldReference.ofText "address.NULL" = .ok nullReference := by
  have split : fieldSegments "address.NULL" = ["address", "NULL"] := by decide
  rw [FieldReference.ofText, fieldHead, split]
  rfl

theorem path_literal_denotes_iff_null :
    FieldReference.ofText "address.NULL" = .ok nullReference ∧ isDotted "address.NULL" = true ∧
      ∃ literal, arrayElements? literal = some [none] ∧
        ∀ document : Json, document.extract? [none] = none := by
  have read := ofText_nullReference
  have dotted : isDotted "address.NULL" = true := by decide
  obtain ⟨_, literal, elements, _, _, denoted, rfl, _, nothing⟩ :=
    path_literal_denotes_iff read dotted
  have names : (fieldSegments "address.NULL").tail = ["NULL"] := by decide
  rw [names] at denoted nothing
  have null : SpellsNull "NULL" := by decide
  exact ⟨read, dotted, literal, denoted, nothing ⟨"NULL", List.mem_singleton_self _, null⟩⟩

/-- **An accepted field whose literal does not denote its names**: the last name is read as null. -/
theorem not_path_literal_denotes_null :
    ¬∀ field reference tokens literal, FieldReference.ofText field = .ok reference →
      isDotted field = true → reference.draft = .ofTokens tokens →
      lexemes? [] (Token.render 0 tokens).toList =
        some [.mark .left, .name reference.column.text, .mark .extract, .literal literal,
          .mark .right] →
      arrayElements? literal = some ((fieldSegments field).tail.map some) := by
  intro claimed
  have some_ : nullReference.path ≠ [] := List.cons_ne_nil _ _
  obtain ⟨tokens, drafted, lexemes⟩ := FieldReference.lexemes?_draft some_
  have dotted : isDotted "address.NULL" = true := by decide
  have names := claimed "address.NULL" nullReference tokens _ ofText_nullReference dotted drafted
    (lexemes [] [])
  rw [arrayElements?_pathChars some_] at names
  revert names
  decide

end TwinStore
