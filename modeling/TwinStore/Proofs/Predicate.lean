/-
**What predicates are made of.** Their conditions, and how two predicates may differ that are of one
shape.

* `Predicate.conditions` are the conditions from left to right.
* `Predicate.IsConjunction`: all conditions are equalities that have to hold together; they are then
  what the equalities are read from (`equalities_of_conjunction`).
* `exists_of_pins`: a field is fixed by one of the conditions.
* `Predicate.SameShape`: only operands differ, and a null stays a null, a list keeps its number of
  items that are not null, and a question for presence stays the same.
-/

import TwinStore.Predicate

namespace TwinStore

/-- What an array is made of: how many items are not null, and whether there is a null. -/
def itemShape (items : List Value) : Nat × Bool :=
  ((items.filter fun item => !item.isNull).length, items.any Value.isNull)

/-- The conditions differ in their operands at most, which are of one shape. -/
structure Condition.SameShape (left right : Condition) : Prop where
  field : left.field = right.field
  comparison : left.comparison = right.comparison
  null : left.operand.isNull = right.operand.isNull
  /-- Neither is an array, or both are. -/
  items : left.comparison = .oneOf →
    left.operand.items?.map itemShape = right.operand.items?.map itemShape
  /-- Neither is a truth value, or both are the same one. -/
  there : left.comparison = .present → left.operand.boolean? = right.operand.boolean?

namespace Predicate

mutual

/-- The conditions from left to right. -/
def conditions : Predicate → List Condition
  | .condition test => [test]
  | .group _ members => conditionsOfAll members
  | .negation inner => inner.conditions

/-- The conditions of all members of a group. -/
def conditionsOfAll : List Predicate → List Condition
  | [] => []
  | member :: rest => member.conditions ++ conditionsOfAll rest

end

mutual

/-- The predicates differ in the operands of their conditions at most, which are of one shape. -/
def SameShape : Predicate → Predicate → Prop
  | .condition left, .condition right => left.SameShape right
  | .group one left, .group other right => one = other ∧ SameShapes left right
  | .negation left, .negation right => left.SameShape right
  | _, _ => False

/-- So do the members of two groups, one by one. -/
def SameShapes : List Predicate → List Predicate → Prop
  | [], [] => True
  | left :: lefts, right :: rights => left.SameShape right ∧ SameShapes lefts rights
  | _, _ => False

end

theorem mem_conditionsOfAll {members : List Predicate} {condition : Condition} :
    condition ∈ conditionsOfAll members ↔ ∃ member ∈ members, condition ∈ member.conditions := by
  induction members with
  | nil => simp [conditionsOfAll]
  | cons member rest step => simp [conditionsOfAll, step]

/-! ### Equalities -/

mutual

/-- The predicate is made of equalities and groups whose members all have to hold. -/
def IsConjunction : Predicate → Prop
  | .condition test => test.comparison = .equal
  | .group .all members => AreConjunctions members
  | .group .any _ => False
  | .negation _ => False

/-- So is every member. -/
def AreConjunctions : List Predicate → Prop
  | [] => True
  | member :: rest => member.IsConjunction ∧ AreConjunctions rest

end

mutual

/-- Such a predicate has no other conditions. -/
theorem comparison_of_conjunction : ∀ {predicate : Predicate}, predicate.IsConjunction →
    ∀ test ∈ predicate.conditions, test.comparison = .equal
  | .condition _, conjunction, _, member => List.mem_singleton.mp member ▸ conjunction
  | .group .all _, conjunction, test, member => comparison_of_conjunctions conjunction test member

theorem comparison_of_conjunctions : ∀ {members : List Predicate}, AreConjunctions members →
    ∀ test ∈ conditionsOfAll members, test.comparison = .equal
  | _ :: _, conjunctions, test, member => by
    rcases List.mem_append.mp member with first | later
    · exact comparison_of_conjunction conjunctions.1 test first
    · exact comparison_of_conjunctions conjunctions.2 test later

end

mutual

/-- The equalities of such a predicate are those of its conditions. -/
theorem equalities_of_conjunction : ∀ {predicate : Predicate}, predicate.IsConjunction →
    predicate.equalities = predicate.conditions.flatMap equalityOf
  | .condition _, _ => (List.append_nil _).symm
  | .group .all _, conjunction => equalitiesOfAll_of_conjunctions conjunction
  | .group .any _, conjunction => conjunction.elim
  | .negation _, conjunction => conjunction.elim

theorem equalitiesOfAll_of_conjunctions : ∀ {members : List Predicate}, AreConjunctions members →
    equalitiesOfAll members = (conditionsOfAll members).flatMap equalityOf
  | [], _ => rfl
  | _ :: _, conjunctions => by
    rw [equalitiesOfAll, conditionsOfAll, List.flatMap_append,
      equalities_of_conjunction conjunctions.1, equalitiesOfAll_of_conjunctions conjunctions.2]

end

mutual

/-- **A field is fixed by one of the conditions.** -/
theorem exists_of_pins {field : String} : ∀ {predicate : Predicate}, predicate.pins field = true →
    ∃ condition ∈ predicate.conditions, condition.field = field
  | .condition test, pinned => by
    simp only [pins, Bool.and_eq_true, beq_iff_eq] at pinned
    exact ⟨test, List.mem_singleton_self _, pinned.2⟩
  | .group .all _, pinned => exists_of_pinsAny pinned

theorem exists_of_pinsAny {field : String} : ∀ {members : List Predicate},
    pinsAny field members = true → ∃ condition ∈ conditionsOfAll members, condition.field = field
  | member :: rest, pinned => by
    rw [pinsAny, Bool.or_eq_true] at pinned
    rcases pinned with first | later
    · obtain ⟨condition, inside, named⟩ := exists_of_pins first
      exact ⟨condition, List.mem_append_left _ inside, named⟩
    · obtain ⟨condition, inside, named⟩ := exists_of_pinsAny later
      exact ⟨condition, List.mem_append_right _ inside, named⟩

end

/-! ### Filters together -/

/-- The equalities of filters that all have to hold. -/
theorem equalities_all? (filters : List Predicate) :
    ((all? filters).map equalityFields).getD [] = Fields.ofEntries (equalitiesOfAll filters) := by
  match filters with
  | [] => rfl
  | [filter] =>
    rw [equalitiesOfAll, equalitiesOfAll, List.append_nil]
    rfl
  | _ :: _ :: _ => rfl

/-- A field that the filters fix together is fixed by one of them. -/
theorem pinsAny_of_all? {filters : List Predicate} {predicate : Predicate}
    (together : all? filters = some predicate) (field : String) :
    predicate.pins field = pinsAny field filters := by
  match filters with
  | [] => cases together
  | [filter] =>
    cases together
    rw [pinsAny, pinsAny, Bool.or_false]
  | _ :: _ :: _ =>
    cases together
    rfl

end Predicate

end TwinStore
