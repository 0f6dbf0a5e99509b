/-
**What assignments do to a record.** The record of an upsert is computed by applying the operations;
every later update is computed by the server, from the expressions of the assignments. Both agree.

* `columnContent`: what the column of a field holds.
* `Value.Comparable`: two values of one ordered kind, of instants none in a leap second that is
  counted as the second of the other. Their data are in the same order.
* `UpdateOperation.Suits`: the field is absent, null or of the kind that an operation expects.
* `UpdateOperation.value?_formula`, with one lemma for each kind of operation: its formula comes to
  what the operation makes of the field.
* `UpdateSet.assignments_compute` is the main result.
-/

import TwinStore.Proofs.Query.Refusal
import TwinStore.Proofs.Sql.Computation
import TwinStore.Proofs.Value.Arithmetic
import TwinStore.Proofs.Value.Order

namespace TwinStore

open Sql Draft

open Value (storedItems storedItems_eq_map)

namespace Sql

/-! ### Columns -/

/-- What the column of a field holds: nothing if the field is absent. -/
def columnContent (current : Option Value) : Content :=
  current.bind fun value => Datum.ofArgument (.ofColumn value)

theorem columnContent_number {number : Number} {x : ℚ} (denoted : number.toRat? = some x) :
    columnContent (some (.number number)) = some (.number x) :=
  congrArg some (Datum.ofNumber_of_toRat? denoted)

theorem columnContent_array (items : List Value) :
    columnContent (some (.array items)) = some (.document (.array (storedItems items))) := rfl

/-- A null field and an absent one are the same in a column. -/
theorem columnContent_present (current : Option Value) :
    columnContent (UpdateOperation.presentValue? current) = columnContent current := by
  match current with
  | none | some .null => rfl
  | some (.boolean _) | some (.text _) | some (.number _) | some (.instant _) | some (.date _)
  | some (.time _) | some (.binary _) | some (.array _) | some (.object _) => rfl

end Sql

/-! ### Ordered kinds -/

/-- Two values of one ordered kind. Of instants neither is in a leap second that a column holds as
the second of the other. -/
inductive Value.Comparable : Value → Value → Prop where
  | exact {left right : Number} : left.isExact = true → right.isExact = true →
      Comparable (.number left) (.number right)
  | floats {left right : Binary64} : left.isNaN = false → right.isNaN = false →
      Comparable (.number (.float left)) (.number (.float right))
  | text (left right : String) : Comparable (.text left) (.text right)
  | boolean (left right : Bool) : Comparable (.boolean left) (.boolean right)
  | instant {left right : Instant} : ¬left.CountedInto right → ¬right.CountedInto left →
      Comparable (.instant left) (.instant right)
  | date (left right : Date) : Comparable (.date left) (.date right)
  | time (left right : TimeOfDay) : Comparable (.time left) (.time right)
  | binary (left right : List UInt8) : Comparable (.binary left) (.binary right)

/-- **Data of one ordered kind compare like their values.** -/
theorem Value.Comparable.compare? {left right : Value} (comparable : left.Comparable right) :
    ∃ first second, columnContent (some left) = some first ∧
      columnContent (some right) = some second ∧
        first.compare? second = some (left.compare right) := by
  cases comparable with
  | exact one two =>
    obtain ⟨x, denoted⟩ := Number.isExact_iff.mp one
    obtain ⟨y, otherDenoted⟩ := Number.isExact_iff.mp two
    refine ⟨_, _, columnContent_number denoted, columnContent_number otherDenoted, ?_⟩
    rw [Value.compare, Number.compare_of_toRat? denoted otherDenoted]
    rfl
  | @floats left right one two =>
    have ordered : left.compare? right = some (Ord.compare left.rank right.rank) := by
      rw [Binary64.compare?, one, two]
      rfl
    refine ⟨_, _, rfl, rfl, ?_⟩
    show some ((left.compare? right).getD _) = some ((left.compare? right).getD .eq)
    rw [ordered]
    rfl
  | text left right =>
    exact ⟨_, _, rfl, rfl, congrArg some (compareBytes_utf8Bytes left right)⟩
  | instant apart apartToo =>
    exact ⟨_, _, rfl, rfl, congrArg some (Instant.compare_counted apart apartToo)⟩
  | boolean | date | time | binary => exact ⟨_, _, rfl, rfl, rfl⟩

namespace UpdateOperation

/-! ### What operations expect -/

/-- The field is absent, null or of the kind that the operation expects, and so is the operand. -/
def Suits (current : Option Value) : UpdateOperation → Prop
  | .set _ => True
  | .increment amount | .multiply amount =>
    amount.isExact = true ∧ (summand? current).isSome = true
  | .max operand | .min operand => ∀ value ∈ presentValue? current, operand.Comparable value
  | .push _ | .popFirst | .popLast => ∀ value ∈ presentValue? current, ∃ items, value = .array items
  | .removeAll removed => ∀ value ∈ presentValue? current, ∃ items others,
      value = .array items ∧ removed = .array others ∧
        Value.EveryItem Value.SingleForm items ∧ Value.EveryItem Value.SingleForm others

section Formulas

variable {bound : List Argument} {scope : Scope} {rows : Option (List Scope)}
  {cell operand : Formula} {current : Option Value}

/-! ### Arithmetic -/

/-- A null column counts as zero. -/
theorem content_of_summand? {start : ℚ} (starts : summand? current = some start) :
    (columnContent current <|> some (.number 0)) = some (.number start) := by
  have zero (null : some 0 = some start) : some (Datum.number 0) = some (.number start) :=
    congrArg (some ∘ Datum.number) (Option.some.inj null)
  cases current with
  | none => exact zero starts
  | some value =>
    cases value with
    | null => exact zero starts
    | number base =>
      rw [columnContent_number starts]
      rfl
    | _ => cases starts

/-- An exact amount is bound as the number it denotes. -/
theorem exists_operands {amount : Number}
    (suits : amount.isExact = true ∧ (summand? current).isSome = true)
    (binds : operand.value? bound scope rows =
      some (Datum.ofArgument (.typed (.number amount)))) :
    ∃ start x, summand? current = some start ∧ amount.toRat? = some x ∧
      operand.value? bound scope rows = some (some (.number x)) := by
  obtain ⟨x, denoted⟩ := Number.isExact_iff.mp suits.1
  obtain ⟨start, starts⟩ := Option.isSome_iff_exists.mp suits.2
  rw [Datum.ofArgument, Datum.ofValue?, Datum.ofNumber_of_toRat? denoted] at binds
  exact ⟨start, x, starts, denoted, binds⟩

/-- The current number, zero if there is none, with an operator and an amount behind it. -/
theorem arithmetic_value? {operator : Operator} {start x : ℚ}
    (reads : cell.value? bound scope rows = some (columnContent current))
    (starts : summand? current = some start)
    (binds : operand.value? bound scope rows = some (some (.number x))) :
    (Formula.combine operator (.coalesce cell (.number 0)) operand).value? bound scope rows =
      operator.combine? (some (.number start)) (some (.number x)) := by
  have zero : (Formula.number 0).value? bound scope rows = some (some (.number 0)) := by
    rw [Formula.value?, Nat.cast_zero]
  have base := coalesce_value? reads zero
  rw [content_of_summand? starts] at base
  exact combine_value? operator base binds

/-! ### Extrema -/

/-- A server chooses the greater and the smaller of two values as the operations do. -/
theorem extremum?_content (wanted : Ordering) {value : Value}
    (comparable : ∀ base ∈ presentValue? current, value.Comparable base) :
    Datum.extremum? wanted (columnContent current) (columnContent (some value)) =
      some (columnContent (some (preferred wanted value (presentValue? current)))) := by
  rw [← columnContent_present current]
  cases found : presentValue? current with
  | none => rfl
  | some base =>
    obtain ⟨first, second, one, two, order⟩ := (comparable base found).compare?
    rw [two, one, Datum.extremum?, order, preferred]
    by_cases chosen : value.compare base = wanted
    · rw [if_pos chosen, one]
      simp [chosen]
    · rw [if_neg chosen, two]
      simp [chosen]

/-! ### Arrays -/

/-- A field that may hold an array is absent in its column, or the documents of its items are
there. -/
theorem array_cases (expects : ∀ value ∈ presentValue? current, ∃ items, value = .array items) :
    (presentValue? current = none ∧ columnContent current = none) ∨
      ∃ items, presentValue? current = some (.array items) ∧
        columnContent current = some (.document (.array (storedItems items))) := by
  rw [← columnContent_present current]
  cases found : presentValue? current with
  | none => exact .inl ⟨rfl, rfl⟩
  | some value =>
    obtain ⟨items, rfl⟩ := expects value found
    exact .inr ⟨items, rfl, columnContent_array items⟩

theorem push_value? {value : Value}
    (expects : ∀ value ∈ presentValue? current, ∃ items, value = .array items)
    (reads : cell.value? bound scope rows = some (columnContent current))
    (binds : operand.value? bound scope rows = some (some (.document value.tagged.toJson))) :
    (Formula.combine .concatenate (.coalesce cell (.cast (.literal "[]")))
        (.buildArray (.cast operand))).value? bound scope rows =
      some (columnContent ((push value).apply current)) := by
  have items : (columnContent current <|> some (.document (.array []))) =
      some (.document (.array (storedItems (arrayItems (presentValue? current))))) := by
    rcases array_cases expects with ⟨absent, content⟩ | ⟨items, present, content⟩
    · rw [absent, content]
      rfl
    · rw [present, content]
      rfl
  have base := coalesce_value? reads emptyArray_value?
  rw [items] at base
  have item : (Formula.buildArray (.cast operand)).value? bound scope rows =
      some (some (.document (.array [value.tagged.toJson]))) := by
    rw [Formula.value?, cast_value? binds]
    rfl
  have after : (push value).apply current =
      some (.array (arrayItems (presentValue? current) ++ [value])) := rfl
  rw [combine_value? .concatenate base item, after, columnContent_array, storedItems_eq_map,
    storedItems_eq_map, List.map_append]
  rfl

/-- Deleting an item of a column is an operation on the items of the field. -/
theorem delete_value? {index : Formula} {place : Int} {change : List Value → List Value}
    (changes : ∀ items, Datum.deleteAt (storedItems items) place = storedItems (change items))
    (expects : ∀ value ∈ presentValue? current, ∃ items, value = .array items)
    (reads : cell.value? bound scope rows = some (columnContent current))
    (indexes : index.value? bound scope rows = some (some (.number place))) :
    (Formula.combine .minus cell index).value? bound scope rows =
      some (columnContent (changeItems change (presentValue? current))) := by
  rw [combine_value? .minus reads indexes]
  rcases array_cases expects with ⟨absent, content⟩ | ⟨items, present, content⟩
  · rw [absent, content]
    rfl
  · rw [present, content, changeItems, columnContent_array, ← changes]
    simp [Operator.combine?, Operator.result?]

/-- The first item has the index zero. -/
theorem deleteAt_zero (items : List Value) :
    Datum.deleteAt (storedItems items) 0 = storedItems (items.drop 1) := by
  rw [storedItems_eq_map, storedItems_eq_map, List.map_drop]
  cases items <;> rfl

/-- The last item has the index minus one. -/
theorem deleteAt_last (items : List Value) :
    Datum.deleteAt (storedItems items) (-1) = storedItems items.dropLast := by
  rw [storedItems_eq_map, storedItems_eq_map, List.map_dropLast]
  generalize items.map (fun item => item.tagged.toJson) = documents
  cases documents with
  | nil => rfl
  | cons first rest =>
    have last : (((first :: rest).length : Int) + -1).toNat = (first :: rest).length - 1 := by
      omega
    rw [Datum.deleteAt, if_neg (by decide), if_pos (by simp), last, List.eraseIdx_length_sub_one]

/-! ### Removals -/

/-- The document is none of the removed ones. -/
def isKept (removed : List Json) (document : Json) : Bool :=
  !removed.any fun other => other.equal document

theorem storedItems_withoutStored (removed items : List Value) :
    storedItems (Value.withoutStored removed items) =
      (storedItems items).filter (isKept (storedItems removed)) := by
  rw [storedItems_eq_map, storedItems_eq_map, storedItems_eq_map, Value.withoutStored,
    List.filter_map]
  congr 2
  funext item
  rw [Function.comp_apply, isKept, List.any_map]
  rfl

theorem removal_value? {removed : Value} (suits : (removeAll removed).Suits current)
    (reads : ∀ rows, cell.value? bound scope rows = some (columnContent current))
    (binds : ∀ scope rows,
      operand.value? bound scope rows = some (some (.document removed.tagged.toJson))) :
    (removalFormula cell (.cast operand)).value? bound scope rows =
      some (columnContent ((removeAll removed).apply current)) := by
  have tested : (Formula.isNull cell).value? bound scope rows =
      some (some (.boolean (columnContent current).isNone)) := by
    rw [Formula.value?, reads]
    rfl
  have after : (removeAll removed).apply current = without removed (presentValue? current) := rfl
  rw [removalFormula, Formula.value?, tested, after]
  simp only [← columnContent_present current] at reads ⊢
  cases found : presentValue? current with
  | none => rfl
  | some value =>
    obtain ⟨items, others, rfl, rfl, single, othersSingle⟩ := suits value found
    rw [found, columnContent_array] at reads
    have judges : ∀ entry, (Formula.notIn (.column "e" "value") (.cast operand)).value? bound
        (scope.beside "e" "value" "ord" entry) none =
        some (some (.boolean (isKept (storedItems others) entry.1))) := by
      intro entry
      rw [Formula.value?, cast_value? (binds _ _), Formula.value?, Scope.beside_item]
      rfl
    have apart : "ord" ≠ "value" := by decide
    have query := query_value? apart (reads none) rfl judges rows
    rw [← storedItems_withoutStored] at query
    rw [Value.without_stored_of_single othersSingle single]
    exact query

/-! ### All operations -/

/-- **The formula of an operation comes to what the operation makes of the field.** -/
theorem value?_formula {operation : UpdateOperation} (suits : operation.Suits current)
    (reads : ∀ rows, cell.value? bound scope rows = some (columnContent current))
    (binds : ∀ argument ∈ operation.arguments, ∀ scope rows,
      operand.value? bound scope rows = some (Datum.ofArgument argument)) :
    (operation.formula cell operand).value? bound scope rows =
      some (columnContent (operation.apply current)) := by
  cases operation with
  | set value =>
    cases value with
    | null => rfl
    | _ => exact binds _ (List.mem_singleton_self _) scope rows
  | increment amount =>
    obtain ⟨start, x, starts, denoted, bindsNumber⟩ :=
      exists_operands suits (binds _ (List.mem_singleton_self _) scope rows)
    obtain ⟨result, after, total⟩ := apply_increment starts denoted
    rw [after, columnContent_number total]
    exact arithmetic_value? (reads rows) starts bindsNumber
  | multiply factor =>
    obtain ⟨start, x, starts, denoted, bindsNumber⟩ :=
      exists_operands suits (binds _ (List.mem_singleton_self _) scope rows)
    obtain ⟨result, after, total⟩ := apply_multiply starts denoted
    rw [after, columnContent_number total]
    exact arithmetic_value? (reads rows) starts bindsNumber
  | max value | min value =>
    rw [formula, Formula.value?, reads, binds _ (List.mem_singleton_self _)]
    exact extremum?_content _ suits
  | push value =>
    exact push_value? suits (reads rows) (binds _ (List.mem_singleton_self _) scope rows)
  | removeAll removed =>
    exact removal_value? suits reads (binds _ (List.mem_singleton_self _))
  | popFirst =>
    refine delete_value? deleteAt_zero suits (reads rows) ?_
    rw [Formula.value?, Nat.cast_zero, Int.cast_zero]
  | popLast =>
    refine delete_value? deleteAt_last suits (reads rows) ?_
    rw [Formula.value?, Formula.value?]
    simp [Operator.combine?, Operator.result?]

end Formulas

/-! ### Assignments -/

/-- To the column of a field an expression is assigned that comes to what the operation makes of the
field, whatever the other columns of the row hold. -/
def Computes (bound : List Argument) (table : Identifier) (entry : String × UpdateOperation)
    (assigned : String × List Piece) : Prop :=
  ∃ column formula, columnName entry.1 = .ok column ∧ assigned.1 = column.text ∧
    formula? assigned.2 = some formula ∧
      ∀ (scope : Scope) (current : Option Value),
        scope table.text column.text = some (columnContent current) → entry.2.Suits current →
          formula.value? bound scope none = some (columnContent (entry.2.apply current))

/-- A placeholder stands for the operand of the operation. -/
theorem argument_value? {operation : UpdateOperation} {argument : Argument}
    (member : argument ∈ operation.arguments) (before behind : List Argument) (scope : Scope)
    (rows : Option (List Scope)) :
    (Formula.argument (before.length + 1)).value? (before ++ (operation.arguments ++ behind)) scope
      rows = some (Datum.ofArgument argument) := by
  have single : operation.arguments = [argument] := by
    unfold arguments at member ⊢
    split at member <;> simp_all
  rw [Formula.value?, single]
  simp

end UpdateOperation

namespace UpdateSet

/-- By induction on the assignments, each computes its operation. -/
theorem Assigns.computes {table : Identifier} {bound : Nat}
    {update : List (String × UpdateOperation)} {assigned : List (String × List Piece)}
    (assigns : Assigns table bound update assigned) :
    ∀ {before : List Argument}, before.length = bound →
      List.Forall₂ (UpdateOperation.Computes (before ++ UpdateSet.arguments update) table) update
        assigned := by
  induction assigns with
  | nil => exact fun _ => .nil
  | @cons bound field operation column expression rest others named drafted _ _ step =>
    rintro before rfl
    have split : UpdateSet.arguments ((field, operation) :: rest) =
        operation.arguments ++ UpdateSet.arguments rest := List.flatMap_cons
    have later := @step (before ++ operation.arguments) List.length_append
    rw [List.append_assoc, ← split] at later
    refine .cons ⟨column, _, named, rfl, UpdateOperation.formula?_draft drafted _, ?_⟩ later
    intro scope current reads suits
    refine UpdateOperation.value?_formula suits (fun _ => reads) ?_
    intro argument member scope rows
    rw [split]
    exact UpdateOperation.argument_value? member before _ scope rows

/-- An update of identifiers with no malformed operation is written as one assignment for each
operation. -/
theorem exists_assigned {update : UpdateSet} (some_ : update ≠ []) (addressed : update.Addressed)
    (formed : ∀ entry ∈ update, entry.2.malformed? = none) (generator : Generator)
    (table : Identifier) :
    ∃ text assigned, generator.run (.setClause update table) =
        (⟨generator.arguments ++ update.arguments⟩, .ok text) ∧
      assignments? text.toList = some assigned ∧
        Assigns table generator.arguments.length update assigned := by
  have faultless : (update.draft table).fault = none := by
    rw [fault_draft addressed, refusal?, List.findSome?_eq_none_iff]
    intro entry member
    rw [UpdateOperation.refusal?, formed entry member]
    rfl
  obtain ⟨tokens, drafted⟩ : ∃ tokens, update.draft table = ofTokens tokens :=
    ⟨(update.draft table).tokens, by rw [ofTokens, ← faultless]⟩
  have writes := update.draft_writes table
  rw [drafted] at writes
  have binds : Token.arguments tokens = update.arguments := writes.binds rfl
  obtain ⟨assigned, read, assigns⟩ :=
    assignments?_render drafted some_ generator.arguments.length
  refine ⟨_, assigned, ?_, read, assigns⟩
  rw [← binds, Generator.run]
  simp only [GeneratorCall.draft, drafted]
  rfl

/-- **Assignments compute what the operations make of a record.** An update of identifiers with no
malformed operation is written as one assignment for each operation. With the arguments that are
bound then, and the field in its column, the expression comes to the column of what the operation
makes of the field: for any field where it is set or removed, for an absent, null or exact one where
a number is added or multiplied, for one of the operand's ordered kind where an extremum is kept,
and for arrays otherwise. Only from arrays in which numbers and instants are written in one way
items are removed by their values. -/
theorem assignments_compute {update : UpdateSet} (some_ : update ≠ [])
    (addressed : update.Addressed) (formed : ∀ entry ∈ update, entry.2.malformed? = none)
    (generator : Generator) (table : Identifier) :
    ∃ next text assigned, generator.run (.setClause update table) = (next, .ok text) ∧
      assignments? text.toList = some assigned ∧
        List.Forall₂ (UpdateOperation.Computes next.arguments table) update assigned := by
  obtain ⟨text, assigned, run, read, assigns⟩ :=
    exists_assigned some_ addressed formed generator table
  exact ⟨_, text, assigned, run, read, assigns.computes rfl⟩

/-- An amount to add, and a number and a null to remove from an array. -/
def trimming : UpdateSet :=
  [("level", .increment (.decimal ⟨15, 1⟩)),
    ("tags", .removeAll (.array [.number (.signed 5), .null]))]

/-- The number twice, a null, and an object and a text that look like the number. -/
def fivefold : List Value :=
  [.number (.signed 5), .object [("$signed", .text "5")], .null, .number (.signed 5), .text "5"]

/-- What looks like the number stays, in its order. -/
theorem assignments_compute_trimming :
    trimming ≠ [] ∧ trimming.Addressed ∧ (∀ entry ∈ trimming, entry.2.malformed? = none) ∧
      ∃ next text level tags formula,
        (⟨[.json .null]⟩ : Generator).run (.setClause trimming ⟨"person", by decide⟩) =
          (next, .ok text) ∧
        assignments? text.toList = some [("level", level), ("tags", tags)] ∧
        formula? tags = some formula ∧
        formula.value? next.arguments (fun _ _ => some (columnContent (some (.array fivefold))))
            none =
          some (columnContent (some (.array [.object [("$signed", .text "5")], .text "5"]))) := by
  have addressed : trimming.Addressed := by
    unfold Addressed
    decide
  have formed : ∀ entry ∈ trimming, entry.2.malformed? = none := by decide
  have single : Value.EveryItem Value.SingleForm fivefold ∧
      Value.EveryItem Value.SingleForm [.number (.signed 5), .null] := by
    simp [Value.EveryItem, fivefold, Value.partsOfItems, Value.parts, Value.partsOfFields,
      Value.SingleForm]
  obtain ⟨next, text, assigned, run, read, computes⟩ :=
    assignments_compute (by decide) addressed formed ⟨[.json .null]⟩ ⟨"person", by decide⟩
  obtain _ | @⟨_, ⟨_, level⟩, _, _, ⟨_, _, named, rfl, -, -⟩, others⟩ := computes
  obtain _ | @⟨_, ⟨_, tags⟩, _, _, ⟨_, formula, alsoNamed, rfl, reads, comes⟩, ⟨⟩⟩ := others
  rw [columnName_eq_ok, if_neg (by decide)] at named alsoNamed
  rw [named, alsoNamed] at read
  refine ⟨by decide, addressed, formed, next, text, level, tags, formula, run, read, reads, ?_⟩
  refine (comes _ (some (.array fivefold)) rfl ?_).trans ?_
  · rintro _ ⟨⟩
    exact ⟨_, _, rfl, rfl, single⟩
  · rfl

/-- Half of the second behind a leap second, to remove from an array. -/
def leaping : UpdateSet :=
  [("moments", .removeAll (.array [.instant Instant.leapSecond.counted]))]

/-- Half of the leap second is another instant but is written alike, so the server removes it, and
the operation leaves it. -/
theorem not_assignments_compute_leapSecond :
    Value.EveryItem Value.MillisecondInstant
        [.instant .leapSecond, .instant Instant.leapSecond.counted] ∧
      ∃ next text moments formula,
        Generator.empty.run (.setClause leaping ⟨"person", by decide⟩) = (next, .ok text) ∧
        assignments? text.toList = some [("moments", moments)] ∧
        formula? moments = some formula ∧
        formula.value? next.arguments
            (fun _ _ => some (columnContent (some (.array [.instant .leapSecond])))) none =
          some (columnContent (some (.array []))) ∧
        (UpdateOperation.removeAll (.array [.instant Instant.leapSecond.counted])).apply
            (some (.array [.instant .leapSecond])) =
          some (.array [.instant .leapSecond]) := by
  have addressed : leaping.Addressed := by
    unfold Addressed
    decide
  have formed : ∀ entry ∈ leaping, entry.2.malformed? = none := by decide
  obtain ⟨text, assigned, run, read, assigns⟩ :=
    exists_assigned (by decide) addressed formed .empty ⟨"person", by decide⟩
  obtain _ | @⟨_, _, _, column, expression, _, _, named, drafted, _, ⟨⟩⟩ := assigns
  rw [columnName_eq_ok, if_neg (by decide)] at named
  rw [named] at read
  refine ⟨?_, _, text, _, _, run, read, UpdateOperation.formula?_draft drafted _, rfl, rfl⟩
  simp [Value.EveryItem, Value.partsOfItems, Value.parts, Value.MillisecondInstant]
  decide

end UpdateSet

end TwinStore
