/-
**What conditions mean.** How a server evaluates a condition over a row, and when a predicate holds.

* A truth value may be unknown (`Truth`); nothing but `COALESCE` and the tests for null decides what
  is unknown.
* A `Server` is free in how it compares values, except that numerals are equal as numbers.
* `Expr.outcome` evaluates an expression; a truth value where a datum belongs, or the other way
  round, has no outcome.
* `Predicate.holds`: the meaning of a predicate in two-valued logic. It does not look at texts, save
  for a condition on a path, which means what its own text says.
-/

import TwinStore.Proofs.Sql.Expression
import TwinStore.Sql.Filter

namespace TwinStore.Sql

/-! ### Three-valued logic -/

/-- A truth value, nothing if it is unknown. -/
abbrev Truth := Option Bool

namespace Truth

def not : Truth → Truth
  | some value => some !value
  | none => none

/-- One part that is false decides. -/
def and : Truth → Truth → Truth
  | some false, _ | _, some false => some false
  | some true, some true => some true
  | some true, none | none, some true | none, none => none

/-- One part that is true decides. -/
def or : Truth → Truth → Truth
  | some true, _ | _, some true => some true
  | some false, some false => some false
  | some false, none | none, some false | none, none => none

theorem and_eq_true {left right : Truth} :
    and left right = some true ↔ left = some true ∧ right = some true := by
  cases left with
  | none => cases right with
    | none => simp [and]
    | some right => cases right <;> simp [and]
  | some left => cases left <;> cases right with
    | none => simp [and]
    | some right => cases right <;> simp [and]

theorem or_eq_true {left right : Truth} :
    or left right = some true ↔ left = some true ∨ right = some true := by
  cases left with
  | none => cases right with
    | none => simp [or]
    | some right => cases right <;> simp [or]
  | some left => cases left <;> cases right with
    | none => simp [or]
    | some right => cases right <;> simp [or]

/-- A negation of what was made certain is true where the thing is not. -/
theorem not_certain_eq_true {inner : Truth} :
    not (some (inner.getD false)) = some true ↔ inner ≠ some true := by
  rcases inner with _ | _ | _ <;> simp [not]

end Truth

/-! ### Servers -/

/-- What a server makes of the values, and how it compares them. -/
structure Server (δ : Type) where
  /-- The datum of a value that is not null, in a column of its type. -/
  typed : Value → δ
  document : Json → δ
  literal : String → δ
  numeral : Nat → δ
  asDocument : δ → δ
  /-- What a path leads to in a document. -/
  extract : δ → δ → Option δ
  compare : Sign → δ → δ → Bool
  compare_numerals : ∀ left right, compare .equal (numeral left) (numeral right) = (left == right)

/-- What the columns of a row hold; a column that holds nothing is null. -/
abbrev Row (δ : Type) := String → Option δ

section Evaluation

variable {δ : Type} (server : Server δ) (row : Row δ)

namespace Server

/-- The datum of an argument. -/
def argument : Argument → Option δ
  | .typed value => if value.isNull then none else some (server.typed value)
  | .json document => some (server.document document)

/-- A comparison with null is unknown. -/
def test (sign : Sign) : Option δ → Option δ → Truth
  | some left, some right => some (server.compare sign left right)
  | _, _ => none

/-- Null is distinct from every datum, and from null alone it is not. -/
def distinct : Option δ → Option δ → Bool
  | some left, some right => !server.compare .equal left right
  | none, none => false
  | _, _ => true

/-- The datum equals one of the items. -/
def member (content : Option δ) : List (Option δ) → Truth
  | [] => some false
  | item :: rest => (server.test .equal content item).or (member content rest)

end Server

/-- What an expression comes to. -/
inductive Outcome (δ : Type) where
  | truth (value : Truth)
  | datum (content : Option δ)

namespace Outcome

def truth? : Outcome δ → Option Truth
  | truth value => some value
  | datum _ => none

def datum? : Outcome δ → Option (Option δ)
  | datum content => some content
  | truth _ => none

/-- The first of two outcomes that is not null. -/
def coalesce : Outcome δ → Outcome δ → Option (Outcome δ)
  | truth first, truth second => some (.truth (first <|> second))
  | datum first, datum second => some (.datum (first <|> second))
  | _, _ => none

end Outcome

namespace Expr

mutual

/-- Evaluates an expression over a row. -/
def outcome : Expr → Option (Outcome δ)
  | column name => some (.datum (row name))
  | argument bound => some (.datum (server.argument bound))
  | literal text => some (.datum (some (server.literal text)))
  | number value => some (.datum (some (server.numeral value)))
  | truth value => some (.truth (some value))
  | cast inner => do
    let content ← (← outcome inner).datum?
    return .datum (content.map server.asDocument)
  | extract document path => do
    let document ← (← outcome document).datum?
    let path ← (← outcome path).datum?
    return .datum (document.bind fun document => path.bind (server.extract document))
  | compare sign left right => do
    let left ← (← outcome left).datum?
    let right ← (← outcome right).datum?
    return .truth (server.test sign left right)
  | distinct left right => do
    let left ← (← outcome left).datum?
    let right ← (← outcome right).datum?
    return .truth (some (server.distinct left right))
  | isNull inner => do
    match ← outcome inner with
    | .truth value => return .truth (some value.isNone)
    | .datum content => return .truth (some content.isNone)
  | membership inner items => do
    let content ← (← outcome inner).datum?
    return .truth (server.member content (← outcomes items))
  | not inner => do return .truth (← (← outcome inner).truth?).not
  | and left right => do
    return .truth ((← (← outcome left).truth?).and (← (← outcome right).truth?))
  | or left right => do
    return .truth ((← (← outcome left).truth?).or (← (← outcome right).truth?))
  | coalesce first second => do (← outcome first).coalesce (← outcome second)

/-- Evaluates the items of a list. -/
def outcomes : List Expr → Option (List (Option δ))
  | [] => some []
  | item :: rest => do
    let content ← (← outcome item).datum?
    return content :: (← outcomes rest)

end

end Expr

/-- The truth value of a text over a row, with the arguments that its placeholders stand for. -/
def textTruth? (bound : List Argument) (text : String) : Option Truth := do
  let read ← expression? (← lexemes? bound text.toList)
  (← read.outcome server row).truth?

end Evaluation

end TwinStore.Sql

namespace TwinStore

open Sql

/-! ### When a predicate holds -/

section Holds

variable {δ : Type} (server : Server δ) (row : Row δ)

/-- What a condition on a column compares with. -/
def Sql.Server.operand (value : Value) : δ := server.typed value.columnForm

/-- The sign of a comparison of order, or of equality. -/
def Comparison.sign : Comparison → Sign
  | .greater => .greater
  | .atLeast => .atLeast
  | .less => .less
  | .atMost => .atMost
  | .equal | .different | .oneOf | .present => .equal

namespace Condition

/-- The condition holds of a column that is null. -/
def holdsOfNull (condition : Condition) : Bool :=
  match condition.comparison with
  | .equal | .atLeast | .atMost => condition.operand.isNull
  | .different => !condition.operand.isNull
  | .greater | .less => false
  | .oneOf => condition.operand.items?.any fun items => items.any Value.isNull
  | .present => condition.operand.boolean? == some false

/-- The condition holds of a column with the datum. -/
def holdsOf (condition : Condition) (held : δ) : Bool :=
  match condition.comparison with
  | .equal | .greater | .atLeast | .less | .atMost =>
    !condition.operand.isNull &&
      server.compare condition.comparison.sign held (server.operand condition.operand)
  | .different =>
    condition.operand.isNull || !server.compare .equal held (server.operand condition.operand)
  | .oneOf =>
    condition.operand.items?.any fun items =>
      items.any fun item => !item.isNull && server.compare .equal held (server.operand item)
  | .present => condition.operand.boolean? == some true

/-- The condition holds of what a column holds, if it holds anything. -/
def holdsOfContent (condition : Condition) : Option δ → Bool
  | none => condition.holdsOfNull
  | some held => condition.holdsOf server held

/-- A condition's own text is true of a row. -/
def textHolds (condition : Condition) : Bool :=
  match condition.draft.finish with
  | .ok tokens =>
    textTruth? server row (Token.arguments tokens) (Token.render 0 tokens) == some (some true)
  | .error _ => false

/-- A condition on a column holds of what the column holds; one on a path means its own text. -/
def holds (condition : Condition) : Bool :=
  match FieldReference.ofText condition.field with
  | .ok ⟨column, []⟩ => condition.holdsOfContent server (row column.text)
  | _ => condition.textHolds server row

end Condition

namespace Predicate

mutual

/-- A predicate holds of a row. -/
def holds : Predicate → Bool
  | .condition test => test.holds server row
  | .group .all members => holdsAll members
  | .group .any members => holdsAny members
  | .negation inner => !holds inner

/-- Every member holds. -/
def holdsAll : List Predicate → Bool
  | [] => true
  | member :: rest => holds member && holdsAll rest

/-- Some member holds. -/
def holdsAny : List Predicate → Bool
  | [] => false
  | member :: rest => holds member || holdsAny rest

end

end Predicate

end Holds

end TwinStore
