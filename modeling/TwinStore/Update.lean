/-
**Updates.** Operations on fields, at most one per field, and what they make of a record.

* `UpdateOperation.apply` is the value of a field after an operation. A null field counts as absent,
  and so does a field whose kind does not suit the operation.
* `UpdateSet.applyTo` applies every operation to its own field.
* `UpdateSet.stamped` drops what concerns the id and the creation stamp, and sets the stamp of the
  last change.
-/

import TwinStore.Record

namespace TwinStore

/-- An operation on a field. -/
inductive UpdateOperation where
  /-- Sets the field; null removes it. -/
  | set (value : Value)
  /-- Adds to the field, which counts as zero if it is absent. -/
  | increment (amount : Number)
  /-- Multiplies the field, which counts as zero if it is absent. -/
  | multiply (factor : Number)
  /-- Keeps the greater of the field and the operand. -/
  | max (value : Value)
  /-- Keeps the smaller of the field and the operand. -/
  | min (value : Value)
  /-- Appends to an array. -/
  | push (value : Value)
  /-- Removes all items of an array that equal an item of the operand. -/
  | removeAll (values : Value)
  /-- Removes the first item of an array. -/
  | popFirst
  /-- Removes the last item of an array. -/
  | popLast

/-- The kinds of operations, in the order in which stores receive them. -/
inductive UpdateKind where
  | set
  | unset
  | increment
  | multiply
  | max
  | min
  | push
  | removeAll
  | pop
  deriving DecidableEq

/-- All kinds in order. -/
def UpdateKind.all : List UpdateKind :=
  [.set, .unset, .increment, .multiply, .max, .min, .push, .removeAll, .pop]

namespace UpdateOperation

def kind : UpdateOperation → UpdateKind
  | .set .null => .unset
  | .set _ => .set
  | .increment _ => .increment
  | .multiply _ => .multiply
  | .max _ => .max
  | .min _ => .min
  | .push _ => .push
  | .removeAll _ => .removeAll
  | .popFirst => .pop
  | .popLast => .pop

/-- A value that is there and not null. -/
def presentValue? : Option Value → Option Value
  | some .null => none
  | current => current

/-- The sum with a number, which stands alone if the field holds no number. -/
def incremented (amount : Number) : Option Value → Number
  | some (.number base) => base.plus amount
  | _ => amount

/-- The product with a number, zero if the field holds no number. -/
def multiplied (factor : Number) : Option Value → Number
  | some (.number base) => base.times factor
  | _ => factor.zeroLike

/-- The operand if it compares to the field as wanted, else the field. -/
def preferred (wanted : Ordering) (value : Value) : Option Value → Value
  | some base => if value.compare base = wanted then value else base
  | none => value

/-- The items of an array field. -/
def arrayItems : Option Value → List Value
  | some (.array items) => items
  | _ => []

/-- The items of an array that equal none of the removed ones; anything else stays. -/
def without (removed : Value) : Option Value → Option Value
  | some (.array items) =>
    match removed with
    | .array removed =>
      some (.array (items.filter fun item => !removed.any fun other => other.equal item))
    | _ => some (.array items)
  | current => current

/-- Changes the items of an array; anything else stays. -/
def changeItems (change : List Value → List Value) : Option Value → Option Value
  | some (.array items) => some (.array (change items))
  | current => current

/-- The field after the operation. -/
def apply (operation : UpdateOperation) (current : Option Value) : Option Value :=
  let current := presentValue? current
  match operation with
  | .set .null => none
  | .set value => some value
  | .increment amount => some (.number (incremented amount current))
  | .multiply factor => some (.number (multiplied factor current))
  | .max value => some (preferred .gt value current)
  | .min value => some (preferred .lt value current)
  | .push value => some (.array (arrayItems current ++ [value]))
  | .removeAll removed => without removed current
  | .popFirst => changeItems (·.drop 1) current
  | .popLast => changeItems List.dropLast current

/-- What the operation makes of an absent field. -/
def seedValue (operation : UpdateOperation) : Option Value := operation.apply none

end UpdateOperation

/-- Operations by the names of their fields. -/
abbrev UpdateSet := Fields UpdateOperation

namespace UpdateSet

/-- Sets every field to its value. -/
def ofValues (values : Fields Value) : UpdateSet :=
  values.map fun (field, value) => (field, .set value)

/-- Drops operations on the id and the creation stamp, and sets the stamp of the last change. -/
def stamped (update : UpdateSet) (now : Instant) : UpdateSet :=
  let kept := ((update.erase idName).erase documentIdName).erase createdName
  kept.insert updatedName (.set (.ofInstant now))

/-- The operations of a kind, in the order of their fields. -/
def ofKind (update : UpdateSet) (kind : UpdateKind) : List (String × UpdateOperation) :=
  update.filter fun entry => entry.2.kind = kind

/-- The kinds that occur, each with its operations. -/
def groups (update : UpdateSet) : List (UpdateKind × List (String × UpdateOperation)) :=
  (UpdateKind.all.map fun kind => (kind, update.ofKind kind)).filter fun group => group.2 ≠ []

/-- Applies one operation to its field. -/
def applyOne (fields : Fields Value) (field : String) (operation : UpdateOperation) :
    Fields Value :=
  match operation.apply (fields.get? field) with
  | some value => fields.insert field value
  | none => fields.erase field

/-- Applies every operation to its field. -/
def applyTo (update : UpdateSet) (fields : Fields Value) : Fields Value :=
  update.foldl (fun fields entry => applyOne fields entry.1 entry.2) fields

/-- What the operations make of no fields. -/
def seedValues (update : UpdateSet) : Fields Value := update.applyTo []

end UpdateSet

end TwinStore
