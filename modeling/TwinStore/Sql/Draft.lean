/-
**Drafts.** A statement in the course of being written: the tokens so far, and the fault that
stopped the writing. Once a draft has a fault, nothing is appended to it.

* Drafts are joined by `++`; `Draft.spaced`, `Draft.listed` and `Draft.parenthesized` lay them out.
* `append_assoc` and the lemmas on `nil`: drafts form a monoid.
* `Draft.finish` gives the tokens, or the fault.
-/

import TwinStore.CompileError
import TwinStore.Sql.Token

namespace TwinStore

/-- Tokens, and the fault that came behind them. -/
structure Draft where
  tokens : List Token
  fault : Option CompileError

namespace Draft

/-- The empty draft. -/
def nil : Draft := ⟨[], none⟩

/-- A draft without a fault. -/
def ofTokens (tokens : List Token) : Draft := ⟨tokens, none⟩

/-- A draft of keywords. -/
def words (keywords : List Keyword) : Draft := ofTokens (keywords.map .keyword)

def name (identifier : Identifier) : Draft := ofTokens [.name identifier]

def argument (argument : Argument) : Draft := ofTokens [.argument argument]

/-- A fault in front of everything. -/
def fail (error : CompileError) : Draft := ⟨[], some error⟩

/-- Joins two drafts; nothing follows a fault. -/
def append (left right : Draft) : Draft :=
  match left.fault with
  | some error => ⟨left.tokens, some error⟩
  | none => ⟨left.tokens ++ right.tokens, right.fault⟩

instance : Append Draft := ⟨append⟩

/-- Joins the draft that an identifier gives rise to, or its fault. -/
def withIdentifier (name : Except IdentifierError Identifier) (draft : Identifier → Draft) :
    Draft :=
  match name with
  | .ok identifier => draft identifier
  | .error error => fail (.identifier error)

/-- There is nothing in the draft. -/
def isBlank (draft : Draft) : Bool := draft.tokens.isEmpty && draft.fault.isNone

/-- Joins drafts with a keyword between them. -/
def joined (separator : Keyword) : List Draft → Draft
  | [] => nil
  | [draft] => draft
  | draft :: rest => draft ++ words [separator] ++ joined separator rest

/-- Joins drafts with blanks between those that are not empty. -/
def spaced (drafts : List Draft) : Draft :=
  joined .space (drafts.filter fun draft => !draft.isBlank)

def listed (drafts : List Draft) : Draft := joined .comma drafts

def parenthesized (draft : Draft) : Draft :=
  words [.leftParenthesis] ++ draft ++ words [.rightParenthesis]

/-- The tokens, or the fault. -/
def finish (draft : Draft) : Except CompileError (List Token) :=
  match draft.fault with
  | some error => .error error
  | none => .ok draft.tokens

/-! ### Laws of joining -/

/-- Nothing comes before a draft. -/
@[simp] theorem nil_append (draft : Draft) : nil ++ draft = draft := rfl

/-- Nothing comes behind a draft. -/
@[simp] theorem append_nil (draft : Draft) : draft ++ nil = draft := by
  obtain ⟨tokens, fault⟩ := draft
  cases fault
  · change Draft.mk (tokens ++ []) none = _
    rw [List.append_nil]
  · rfl

/-- Joining is associative. -/
theorem append_assoc (first second third : Draft) :
    first ++ second ++ third = first ++ (second ++ third) := by
  obtain ⟨firstTokens, firstFault⟩ := first
  obtain ⟨secondTokens, secondFault⟩ := second
  cases firstFault <;> cases secondFault
  · change Draft.mk (firstTokens ++ secondTokens ++ third.tokens) third.fault = _
    rw [List.append_assoc]
    rfl
  all_goals rfl

end Draft

end TwinStore
