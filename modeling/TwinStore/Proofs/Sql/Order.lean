/-
**The order that a statement asks for.** The text of an order, taken apart at the commas outside of
parentheses, has one key for each field.

* `orderKeys?` reads a text. A key is a column, or a column and the names of a path in it, and a
  direction.
* `orderKeys?_render`: what is read are the fields, in order and with all their repetitions.
-/

import TwinStore.Proofs.Query.Ranking
import TwinStore.Proofs.Sql.Assignment
import TwinStore.Proofs.Sql.Harmless

namespace TwinStore.Sql

/-! ### Reading an order -/

/-- The direction of a word. -/
def orderOf? (word : List Char) : Option SortOrder :=
  if word = "ASC".toList then some .ascending
  else if word = "DESC".toList then some .descending
  else none

/-- The names between the braces of a path. -/
def pathNames (literal : List Char) : List String :=
  ((literal.drop 1).dropLast.splitOn ',').map String.ofList

/-- The key of pieces. -/
def sortKey? : List Piece → Option SortKey
  | [.name column, .mark ' ', .word direction] =>
    (orderOf? direction).map fun order => ([String.ofList column], order)
  | [.mark '(', .name column, .mark ' ', .mark '#', .mark '>', .mark ' ', .literal path, .mark ')',
      .mark ' ', .word direction] =>
    (orderOf? direction).map fun order => (String.ofList column :: pathNames path, order)
  | _ => none

/-- The key of a part, behind the blanks in front of it. -/
def partSortKey? (part : List Piece) : Option SortKey :=
  sortKey? (part.dropWhile fun piece => piece = .mark ' ')

/-- The keys of pieces. -/
def readSortKeys? (pieces : List Piece) : Option (List SortKey) :=
  ((listParts 0 pieces).1 :: (listParts 0 pieces).2).mapM partSortKey?

/-- The keys behind the words that begin an order; an empty text has none. -/
def readOrder? : List Piece → Option (List SortKey)
  | [] => some []
  | .word first :: .mark ' ' :: .word second :: .mark ' ' :: keys =>
    if first = "ORDER".toList ∧ second = "BY".toList then readSortKeys? keys else none
  | _ => none

/-- The keys of a text. -/
def orderKeys? (text : List Char) : Option (List SortKey) := (pieces? text).bind readOrder?

end TwinStore.Sql

namespace TwinStore

open Sql Draft

/-! ### Keys -/

/-- The names of a path are those between its commas. -/
theorem pathNames_pathChars {path : List Identifier} (some_ : path ≠ []) :
    pathNames ('\x7b' :: Token.pathChars path ++ ['\x7d']) = path.map Identifier.text := by
  unfold pathNames
  rw [List.cons_append, List.drop_one, List.tail_cons, List.dropLast_concat, Token.pathChars_eq,
    List.splitOn_intercalate, List.map_map]
  · exact List.map_congr_left fun identifier _ => String.ofList_toList
  · rintro text member comma
    obtain ⟨identifier, -, rfl⟩ := List.mem_map.mp member
    cases Identifier.isIdentifierChar_of_mem comma
  · simpa using some_

/-- The names of a field are those of its reference. -/
theorem fieldKey_eq {field : String} {reference : FieldReference}
    (read : FieldReference.ofText field = .ok reference) :
    fieldKey field = reference.column.text :: reference.path.map Identifier.text := by
  obtain ⟨column, named, more⟩ := Result.bind_eq_ok.mp read
  obtain ⟨path, segments, made⟩ := Result.bind_eq_ok.mp more
  cases made
  have names : path.map Identifier.text = (fieldSegments field).tail := by
    have each := Result.mapM_eq_ok.mp segments
    simp only [Identifier.ofText_eq_ok] at each
    have same := List.forall₂_map_right_iff.mpr (each.imp fun _ _ text => text.symm)
    rw [List.forall₂_eq_eq_eq] at same
    exact same.symm
  rw [columnName_eq_ok, fieldHead] at named
  rw [named, names]
  unfold fieldKey fieldSegments
  obtain ⟨first, rest, split⟩ := List.exists_cons_of_ne_nil (splitDots_ne_nil field.toList)
  rw [split]
  rfl

/-- The pieces of a key. -/
def keyPieces (reference : FieldReference) (order : SortOrder) : List Piece :=
  match reference.path with
  | [] => .name reference.column.text.toList :: .mark ' ' :: order.keyword.pieces
  | path =>
    .mark '(' :: .name reference.column.text.toList :: .mark ' ' :: .mark '#' :: .mark '>' ::
      .mark ' ' :: .literal ('\x7b' :: Token.pathChars path ++ ['\x7d']) :: .mark ')' ::
      .mark ' ' :: order.keyword.pieces

theorem pieces_keyword (order : SortOrder) :
    ∃ word, order.keyword.pieces = [.word word] ∧ orderOf? word = some order := by
  cases order with
  | ascending => exact ⟨"ASC".toList, by decide +kernel, rfl⟩
  | descending => exact ⟨"DESC".toList, by decide +kernel, by decide +kernel⟩

/-- What a key is written with. -/
theorem piecesFrom_sortKey {field : String} {order : SortOrder} {tokens : List Token}
    (drafted : sortKeyDraft field order = ofTokens tokens) :
    ∃ reference, FieldReference.ofText field = .ok reference ∧
      ∀ bound, Token.piecesFrom bound tokens = keyPieces reference order := by
  have space : Keyword.space.pieces = [.mark ' '] := by decide +kernel
  have left : Keyword.leftParenthesis.pieces = [.mark '('] := by decide +kernel
  have right : Keyword.rightParenthesis.pieces = [.mark ')'] := by decide +kernel
  have extract : Keyword.extract.pieces = [.mark ' ', .mark '#', .mark '>', .mark ' '] := by
    decide +kernel
  unfold sortKeyDraft at drafted
  cases read : FieldReference.ofText field with
  | error error =>
    rw [read] at drafted
    cases drafted
  | ok reference =>
    rw [read] at drafted
    obtain ⟨column, path⟩ := reference
    refine ⟨_, rfl, fun bound => ?_⟩
    cases path with
    | nil =>
      cases drafted
      show Token.piecesFrom bound [.name column, .keyword .space, .keyword order.keyword] = _
      simp [Token.piecesFrom, Token.pieces, keyPieces, space]
    | cons segment rest =>
      cases drafted
      show Token.piecesFrom bound [.keyword .leftParenthesis, .name column, .keyword .extract,
        .path (segment :: rest), .keyword .rightParenthesis, .keyword .space,
        .keyword order.keyword] = _
      simp [Token.piecesFrom, Token.pieces, keyPieces, space, left, right, extract]

/-- **A key is read as that of its field.** -/
theorem sortKey?_keyPieces {field : String} {reference : FieldReference} (order : SortOrder)
    (read : FieldReference.ofText field = .ok reference) :
    nesting? 0 (keyPieces reference order) = some 0 ∧
      partSortKey? (keyPieces reference order) = some (fieldKey field, order) := by
  obtain ⟨word, written, meant⟩ := pieces_keyword order
  rw [fieldKey_eq read]
  unfold keyPieces
  rw [written]
  obtain ⟨column, path⟩ := reference
  cases path with
  | nil => simp [nesting?, Piece.depthAfter, partSortKey?, sortKey?, meant]
  | cons segment rest =>
    have names := pathNames_pathChars (List.cons_ne_nil segment rest)
    rw [List.cons_append, List.map_cons] at names
    simp [nesting?, Piece.depthAfter, partSortKey?, sortKey?, meant, names]

/-! ### Orders -/

/-- Keys between commas are read as those of their fields. -/
theorem readSortKeys?_parts {sort : SortList} {parts : List (List Token)}
    (drafted : List.Forall₂ (fun entry part => sortKeyDraft entry.1 entry.2 = ofTokens part) sort
      parts) (some_ : sort ≠ []) (bound : Nat) :
    readSortKeys? (Token.piecesFrom bound (List.intercalate [.keyword .comma] parts)) =
      some (sort.map fun entry => (fieldKey entry.1, entry.2)) := by
  induction drafted generalizing bound with
  | nil => exact absurd rfl some_
  | @cons entry part _ _ one later step =>
    obtain ⟨field, order⟩ := entry
    obtain ⟨reference, named, written⟩ := piecesFrom_sortKey one
    obtain ⟨inner, read⟩ := sortKey?_keyPieces order named
    cases later with
    | nil =>
      rw [List.intercalate_singleton, written]
      exact readParts?_single inner read
    | cons two rest =>
      rw [List.intercalate_cons_cons, List.append_assoc, List.singleton_append,
        Token.piecesFrom_keyword, written]
      exact readParts?_comma inner read (step (List.cons_ne_nil _ _) _)

/-- **The text of an order has a key for each field**, in the same order. -/
theorem orderKeys?_render {sort : SortList} {tokens : List Token}
    (drafted : orderDraft sort = ofTokens tokens) (bound : Nat) :
    orderKeys? (Token.render bound tokens).toList =
      some (sort.map fun entry => (fieldKey entry.1, entry.2)) := by
  have writes := orderDraft_writes sort
  rw [drafted] at writes
  have apart : tokens.IsChain Token.Apart := writes.apart
  rw [Token.render, String.toList_ofList, orderKeys?, Token.pieces?_charsFrom apart,
    Option.bind_some]
  cases sort with
  | nil =>
    cases drafted
    rfl
  | cons first rest =>
    obtain ⟨front, keys, opening, listed, rfl⟩ := append_eq_ofTokens.mp drafted
    cases opening
    obtain ⟨parts, drafts, rfl⟩ := joined_eq_ofTokens.mp listed
    have one_by_one : List.Forall₂
        (fun entry part => sortKeyDraft entry.1 entry.2 = ofTokens part) (first :: rest) parts := by
      have same := congrFun (congrFun List.forall₂_eq_eq_eq _) _ ▸ drafts
      rwa [List.forall₂_map_left_iff, List.forall₂_map_right_iff] at same
    have begins : Token.piecesFrom bound [.keyword .orderBy, .keyword .space] =
        [.word "ORDER".toList, .mark ' ', .word "BY".toList, .mark ' '] := by
      show Keyword.orderBy.pieces ++ (Keyword.space.pieces ++ []) = _
      decide +kernel
    show readOrder? (Token.piecesFrom bound ([.keyword .orderBy, .keyword .space] ++ _)) = _
    rw [Token.piecesFrom_append, begins]
    have read := readSortKeys?_parts one_by_one (List.cons_ne_nil _ _) bound
    show (if "ORDER".toList = "ORDER".toList ∧ "BY".toList = "BY".toList then _ else none) = _
    rw [if_pos ⟨rfl, rfl⟩]
    exact read

end TwinStore
