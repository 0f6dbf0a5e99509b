/-
**Texts with other numbers.** A text does not depend on what is bound before it, except that its
placeholders count on from there.

* `renumbered?` takes a text apart and puts it together again with other placeholder numbers.
* `Token.renumbered_piecesFrom`: tokens behind other arguments are the same text but for its
  numbers.
* `Generator.run_behind`: so is what a generator writes, whatever it is asked for; it binds the same
  arguments, and fails where an empty one fails.
-/

import TwinStore.Proofs.Sql.Placeholder

namespace TwinStore

namespace Sql

/-- The characters of a piece, a placeholder with another number. -/
def Piece.renumbered (change : Nat → Nat) : Piece → List Char
  | .placeholder digits => '$' :: Digits.ofNat (change (Digits.value digits))
  | piece => piece.chars

/-- The text with other numbers in its placeholders. -/
def renumbered? (change : Nat → Nat) (text : String) : Option String :=
  (pieces? text.toList).map fun pieces => String.ofList (pieces.flatMap (Piece.renumbered change))

/-- Pieces without placeholders are as they were. -/
theorem renumbered_of_plain (change : Nat → Nat) {pieces : List Piece}
    (plain : pieces.filterMap Piece.placeholder? = []) :
    pieces.flatMap (Piece.renumbered change) = pieces.flatMap Piece.chars := by
  refine List.flatMap_congr fun piece member => ?_
  have other := List.filterMap_eq_nil_iff.mp plain piece member
  cases piece with
  | placeholder digits => cases other
  | _ => rfl

end Sql

open Sql

namespace Token

/-- A token that is no argument is written without a number. -/
theorem renumbered_pieces (change : Nat → Nat) {token : Token} (plain : token.argument? = none)
    (number other : Nat) :
    (token.pieces number).flatMap (Piece.renumbered change) = token.chars other := by
  have unnumbered : (token.pieces number).filterMap Piece.placeholder? = [] := by
    cases token with
    | keyword word => exact word.placeholder?_pieces
    | argument bound => cases plain
    | _ => rfl
  rw [renumbered_of_plain change unnumbered, chars_pieces (token.pieces?_chars number)]
  cases token with
  | argument bound => cases plain
  | _ => rfl

/-- **Behind other arguments tokens are written with other numbers**, those that count on from
there. -/
theorem renumbered_piecesFrom {change : Nat → Nat} {bound other : Nat}
    (counts : ∀ index, change (bound + 1 + index) = other + 1 + index) (tokens : List Token) :
    (piecesFrom bound tokens).flatMap (Piece.renumbered change) = charsFrom other tokens := by
  induction tokens generalizing bound other with
  | nil => rfl
  | cons token rest step =>
    rw [piecesFrom, charsFrom, List.flatMap_append]
    cases kind : token.argument? with
    | none =>
      have none_ : arguments [token] = [] := by rw [arguments, List.filterMap_cons_none kind]; rfl
      rw [none_, renumbered_pieces change kind _ (other + 1)]
      exact congrArg (_ ++ ·) (step counts)
    | some value =>
      have one : (arguments [token]).length = 1 := by
        rw [arguments, List.filterMap_cons_some kind]
        rfl
      have first : (token.pieces (bound + 1)).flatMap (Piece.renumbered change) =
          token.chars (other + 1) := by
        cases token with
        | argument value =>
          show '$' :: Digits.ofNat (change (Digits.value (Digits.ofNat (bound + 1)))) ++ [] =
            '$' :: Digits.ofNat (other + 1)
          have next : change (bound + 1) = other + 1 := counts 0
          rw [Digits.value_ofNat, next, List.append_nil]
        | _ => cases kind
      rw [one, first]
      refine congrArg (_ ++ ·) (step fun index => ?_)
      have further := counts (1 + index)
      rwa [← Nat.add_assoc, ← Nat.add_assoc] at further

/-- The text of tokens behind other arguments. -/
theorem renumbered?_render {tokens : List Token} (apart : tokens.IsChain Apart)
    {change : Nat → Nat} {bound other : Nat}
    (counts : ∀ index, change (bound + 1 + index) = other + 1 + index) :
    renumbered? change (render bound tokens) = some (render other tokens) := by
  rw [renumbered?, render, String.toList_ofList, pieces?_charsFrom apart, Option.map_some,
    renumbered_piecesFrom counts]
  rfl

/-- Tokens without arguments are written alike everywhere. -/
theorem render_of_plain {tokens : List Token} (plain : arguments tokens = []) (bound : Nat) :
    render bound tokens = render 0 tokens := by
  have same : charsFrom bound tokens = charsFrom 0 tokens := by
    induction tokens with
    | nil => rfl
    | cons token rest step =>
      have none_ := List.filterMap_eq_nil_iff.mp plain token List.mem_cons_self
      have later : arguments rest = [] := by
        rwa [arguments, List.filterMap_cons_none none_] at plain
      have alone : arguments [token] = [] := by
        rw [arguments, List.filterMap_cons_none none_]
        rfl
      rw [charsFrom, charsFrom, alone]
      show token.chars (bound + 1) ++ charsFrom bound rest = token.chars 1 ++ charsFrom 0 rest
      rw [step later]
      cases token with
      | argument value => cases none_
      | _ => rfl
  rw [render, render, same]

end Token

/-- The text of a draft behind arguments that are bound already, or its fault. -/
def Draft.text (bound : Nat) (draft : Draft) : Except CompileError String :=
  draft.finish.map (Token.render bound)

/-- A draft without a fault is written. -/
theorem Draft.text_eq_ok {draft : Draft} {bound : Nat} {written : String} :
    draft.text bound = .ok written ↔
      draft.fault = none ∧ Token.render bound draft.tokens = written := by
  obtain ⟨tokens, fault⟩ := draft
  cases fault <;> simp [text, finish, Except.map]

namespace Draft.Writes

variable {draft : Draft} {arguments : List Argument} {change : Nat → Nat} {bound other : Nat}

/-- **A draft behind other arguments** is written with other numbers, or fails as before. -/
theorem text_renumbered (writes : draft.Writes arguments)
    (counts : ∀ index, change (bound + 1 + index) = other + 1 + index) :
    (∀ cause, draft.text other = .error cause ↔ draft.text bound = .error cause) ∧
      ∀ text, draft.text bound = .ok text →
        ∃ behind, draft.text other = .ok behind ∧ renumbered? change text = some behind := by
  constructor
  · intro cause
    rw [text, text, Result.map_eq_error, Result.map_eq_error]
  · intro written first
    obtain ⟨sound, rfl⟩ := text_eq_ok.mp first
    exact ⟨_, text_eq_ok.mpr ⟨sound, rfl⟩, Token.renumbered?_render writes.apart counts⟩

end Draft.Writes

/-- **What a generator writes does not depend on what is bound before**, but for the numbers of the
placeholders: the same arguments are added, the same calls fail, and the numbers of a text are
raised by as many arguments as there were. -/
theorem Generator.run_behind (generator : Generator) (call : GeneratorCall) :
    (generator.run call).1.arguments = generator.arguments ++ (empty.run call).1.arguments ∧
      (∀ cause, (generator.run call).2 = .error cause ↔ (empty.run call).2 = .error cause) ∧
      ∀ text, (empty.run call).2 = .ok text → ∃ behind, (generator.run call).2 = .ok behind ∧
        renumbered? (· + generator.arguments.length) text = some behind := by
  have counts : ∀ index, ([] : List Argument).length + 1 + index + generator.arguments.length =
      generator.arguments.length + 1 + index := by
    intro index
    rw [List.length_nil]
    omega
  exact ⟨rfl, call.draft_writes.text_renumbered counts⟩

end TwinStore
