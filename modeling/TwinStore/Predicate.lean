/-
**Predicates.** Conditions on fields, joined by groups and negations. The names of fields inside an
object are joined by dots.

* `Predicate.conjoin` and `Predicate.disjoin` extend a group of their own kind on the left.
* `Predicate.equalityFields` are the values that a matching record must have for sure, as far as
  they name plain fields of the user; `Predicate.pins` tells that a field is fixed in this way.
-/

import TwinStore.Record

namespace TwinStore

/-- How a field is compared. -/
inductive Comparison where
  | equal
  | different
  | greater
  | atLeast
  | less
  | atMost
  /-- The operand is an array that holds the field's value. -/
  | oneOf
  /-- The operand is a truth value: whether the field is there. -/
  | present
  deriving DecidableEq

/-- A comparison of a field with an operand. -/
structure Condition where
  field : String
  comparison : Comparison
  operand : Value

/-- Whether all members of a group have to hold, or one of them. -/
inductive Connective where
  | all
  | any
  deriving DecidableEq

/-- A predicate on records. -/
inductive Predicate where
  | condition (condition : Condition)
  | group (connective : Connective) (members : List Predicate)
  | negation (inner : Predicate)

def isDotted (field : String) : Bool := field.toList.contains '.'

namespace Predicate

def compare (field : String) (comparison : Comparison) (operand : Value) : Predicate :=
  .condition ⟨field, comparison, operand⟩

/-- The field equals one of the values; no value, no match. -/
def oneOf (field : String) (values : List Value) : Predicate :=
  compare field .oneOf (.array values)

/-- The field is there, or is not. -/
def present (field : String) (there : Bool) : Predicate := compare field .present (.boolean there)

/-- Every filter has to hold; nothing is left of no filter. -/
def all? : List Predicate → Option Predicate
  | [] => none
  | [filter] => some filter
  | filters => some (.group .all filters)

/-- Both predicates hold. -/
def conjoin : Predicate → Predicate → Predicate
  | .group .all members, right => .group .all (members ++ [right])
  | left, right => .group .all [left, right]

/-- One of the predicates holds. -/
def disjoin : Predicate → Predicate → Predicate
  | .group .any members, right => .group .any (members ++ [right])
  | left, right => .group .any [left, right]

/-- The equality that a condition fixes: of a plain field of the user with something but null. -/
def equalityOf (condition : Condition) : List (String × Value) :=
  if condition.comparison = .equal ∧ !condition.operand.isNull ∧ !isReserved condition.field ∧
      !isDotted condition.field then
    [(condition.field, condition.operand)]
  else []

mutual

/-- The equalities that have to hold for sure, in the order of their conditions. -/
def equalities : Predicate → List (String × Value)
  | .condition test => equalityOf test
  | .group .all members => equalitiesOfAll members
  | .group .any _ => []
  | .negation _ => []

/-- The equalities of all members of a group. -/
def equalitiesOfAll : List Predicate → List (String × Value)
  | [] => []
  | member :: rest => member.equalities ++ equalitiesOfAll rest

end

/-- The fields with the values that have to hold for sure; the last one of a field counts. -/
def equalityFields (predicate : Predicate) : Fields Value := Fields.ofEntries predicate.equalities

mutual

/-- An equality that has to hold for sure fixes the field, whatever its operand. -/
def pins (field : String) : Predicate → Bool
  | .condition test => test.comparison == .equal && test.field == field
  | .group .all members => pinsAny field members
  | .group .any _ => false
  | .negation _ => false

/-- One of the members fixes the field. -/
def pinsAny (field : String) : List Predicate → Bool
  | [] => false
  | member :: rest => member.pins field || pinsAny field rest

end

end Predicate

end TwinStore
