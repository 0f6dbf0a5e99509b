/-
**Filters in statements.** Predicates as the conditions of a statement.

* Null is below everything: only the inclusive comparisons with null match, and they match null.
* A comparison with null is neither true nor false in a statement; a negation takes it for false.
-/

import TwinStore.Sql.Field

namespace TwinStore

/-- The sign of an order comparison. -/
def comparisonKeyword : Comparison → Keyword
  | .greater => .greater
  | .atLeast => .atLeast
  | .less => .less
  | .atMost => .atMost
  | .different => .isDistinctFrom
  | _ => .equals

namespace FieldReference

/-- Compares the field with an operand that is not null. -/
def comparison (field : FieldReference) (comparison : Comparison) (operand : Value) : Draft :=
  field.draft ++ .words [comparisonKeyword comparison] ++ field.operand operand

/-- The field equals one of the operands, none of which is null. -/
def membership (field : FieldReference) (operands : List Value) : Draft :=
  field.draft ++ .words [.membership] ++ .parenthesized (.listed (operands.map field.operand))

/-- The field equals one of the items. -/
def membershipOrNull (field : FieldReference) (items : List Value) : Draft :=
  let operands := items.filter fun item => !item.isNull
  match operands.isEmpty, items.any Value.isNull with
  | true, false => .words [.false]
  | true, true => field.nullTest
  | false, false => field.membership operands
  | false, true => .parenthesized (field.membership operands ++ .words [.or] ++ field.nullTest)

/-- The field is there, or is not. -/
def presence (field : FieldReference) (there : Bool) : Draft :=
  field.draft ++ .words [if there then .isNotNull else .isNull]

/-- Compares the field with an operand. -/
def test (field : FieldReference) (condition : Condition) : Draft :=
  match condition.comparison with
  | .equal =>
    if condition.operand.isNull then field.nullTest else field.comparison .equal condition.operand
  | .different =>
    if condition.operand.isNull then .words [.not] ++ field.nullTest
    else field.comparison .different condition.operand
  | .greater | .less =>
    if condition.operand.isNull then .words [.false]
    else field.comparison condition.comparison condition.operand
  | .atLeast | .atMost =>
    if condition.operand.isNull then field.nullTest
    else field.comparison condition.comparison condition.operand
  | .oneOf =>
    match condition.operand.items? with
    | some items => field.membershipOrNull items
    | none => .fail (.operand condition.field .membershipWithoutArray)
  | .present =>
    match condition.operand.boolean? with
    | some there => field.presence there
    | none => .fail (.operand condition.field .presenceWithoutBoolean)

end FieldReference

/-- A condition of a statement. -/
def Condition.draft (condition : Condition) : Draft :=
  match FieldReference.ofText condition.field with
  | .ok field => field.test condition
  | .error error => .fail (.identifier error)

/-- The keyword between the members of a group. -/
def Connective.keyword : Connective → Keyword
  | .all => .and
  | .any => .or

/-- What a group without members means. -/
def Connective.unit : Connective → Keyword
  | .all => .true
  | .any => .false

namespace Predicate

mutual

/-- A predicate as the condition of a statement. -/
def draft : Predicate → Draft
  | .condition test => test.draft
  | .group connective [] => .words [connective.unit]
  | .group _ [member] => member.draft
  | .group connective members => .parenthesized (.joined connective.keyword (drafts members))
  | .negation inner => .words [.not, .coalesceGroup] ++ inner.draft ++ .words [.orFalse]

/-- The members of a group. -/
def drafts : List Predicate → List Draft
  | [] => []
  | member :: rest => member.draft :: drafts rest

end

/-- A group of several members is written between parentheses. -/
theorem draft_group (connective : Connective) (first second : Predicate) (rest : List Predicate) :
    (group connective (first :: second :: rest)).draft =
      .parenthesized (.joined connective.keyword (drafts (first :: second :: rest))) := by
  rw [draft] <;> simp

/-- The condition of a statement, nothing if there is no predicate. -/
def whereDraft : Option Predicate → Draft
  | none => .nil
  | some predicate => .words [.where, .space] ++ predicate.draft

end Predicate

end TwinStore
