/-
**What an expression computes.** The data that columns hold, and what the expression of an
assignment comes to.

* `Datum`: exact numbers are their values, whatever type they are sent with, and a leap second is
  the second that it is counted as. `Content` may be null.
* `Datum.compare?` orders data of one kind, texts by their bytes.
* `Formula.value?` evaluates. What a server refuses has no value, and neither has a function of
  kinds of data that no assignment applies it to.
* `query_value?`: a query collects the items of an array that meet its condition, in their order.
-/

import TwinStore.Json.Reader
import TwinStore.Proofs.Json.Comparison
import TwinStore.Proofs.Sql.Formula
import TwinStore.Proofs.Text.Utf8
import TwinStore.Proofs.Value.Equality

namespace TwinStore.Sql

/-! ### Data -/

/-- What is in a column that is not null. -/
inductive Datum where
  /-- An integer or a numeric, by its value. -/
  | number (value : ℚ)
  | double (value : Binary64)
  | text (value : String)
  | boolean (value : Bool)
  | instant (value : Instant)
  | date (value : Date)
  | time (value : TimeOfDay)
  | bytes (content : List UInt8)
  | document (content : Json)

/-- What a column holds: nothing if it is null. -/
abbrev Content := Option Datum

namespace Datum

def ofNumber (number : Number) : Datum :=
  match number.toRat? with
  | some value => .number value
  | none => .double number.toFloat

theorem ofNumber_of_toRat? {number : Number} {x : ℚ} (denoted : number.toRat? = some x) :
    ofNumber number = .number x := by
  rw [ofNumber, denoted]

/-- The datum of a value in a column of its type. -/
def ofValue? : Value → Content
  | .null => none
  | .boolean value => some (.boolean value)
  | .text value => some (.text value)
  | .number value => some (ofNumber value)
  | .instant value => some (.instant value.counted)
  | .date value => some (.date value)
  | .time value => some (.time value)
  | .binary content => some (.bytes content)
  | .array items => some (.document (Value.array items).toJson)
  | .object fields => some (.document (Value.object fields).toJson)

def ofArgument : Argument → Content
  | .typed value => ofValue? value
  | .json content => some (.document content)

/-! ### Order -/

/-- The order of double precision numbers. What is not a number equals itself and is greater than
all numbers. -/
def compareDoubles (left right : Binary64) : Ordering :=
  (left.compare? right).getD (compare left.isNaN right.isNaN)

/-- The order of data of one kind. -/
def compare? : Datum → Datum → Option Ordering
  | .number left, .number right => some (compare left right)
  | .double left, .double right => some (compareDoubles left right)
  | .text left, .text right => some (Value.compareBytes (utf8Bytes left) (utf8Bytes right))
  | .boolean left, .boolean right => some (compare left right)
  | .instant left, .instant right => some (left.compare right)
  | .date left, .date right => some (left.compare right)
  | .time left, .time right => some (left.compare right)
  | .bytes left, .bytes right => some (Value.compareBytes left right)
  | _, _ => none

/-- The second of two data if it compares to the first as wanted, else the first. Null is passed
over. -/
def extremum? (wanted : Ordering) : Content → Content → Option Content
  | some first, some second => do
    let order ← second.compare? first
    return some (if order = wanted then second else first)
  | first, second => some (first <|> second)

/-! ### Documents -/

/-- The document that a document is, or that a text says. -/
def asDocument? : Content → Option Content
  | none => some none
  | some (.document content) => some (some (.document content))
  | some (.text source) => (Json.ofText? source).map fun content => some (.document content)
  | some _ => none

/-- The item of an array that a document becomes. -/
def asItem? : Content → Option Json
  | none => some .null
  | some (.document content) => some content
  | some _ => none

/-- The rows that an array becomes, one for each item, and none for null. -/
def elements? : Content → Option (List Json)
  | none => some []
  | some (.document (.array items)) => some items
  | some _ => none

/-- The items without the one at an index. Negative indexes count from the end, and beyond either
end there is none. -/
def deleteAt (items : List Json) (index : Int) : List Json :=
  if 0 ≤ index then items.eraseIdx index.toNat
  else if -index ≤ items.length then items.eraseIdx (items.length + index).toNat
  else items

/-- The documents in the order of their keys, null if there are none. -/
def collected (entries : List (ℚ × Json)) : Content :=
  if entries = [] then none
  else
    let sorted := entries.mergeSort fun left right => left.1 ≤ right.1
    some (.document (.array (sorted.map Prod.snd)))

/-! ### Tests -/

/-- A condition that is not known counts as false. -/
def asTruth? : Content → Option Bool
  | none => some false
  | some (.boolean value) => some value
  | some _ => none

/-- A document equals none of the items. Of null that is known only if there are no items. -/
def noneOf? (items : List Json) : Content → Option Content
  | none => some (if items = [] then some (.boolean true) else none)
  | some (.document content) =>
    some (some (.boolean !(items.any fun other => other.equal content)))
  | some _ => none

def number? : Content → Option ℚ
  | some (.number value) => some value
  | _ => none

end Datum

/-! ### Operators -/

/-- What an operator makes of two data. -/
def Operator.result? : Operator → Datum → Datum → Option Datum
  | .times, .number left, .number right => some (.number (left * right))
  | .plus, .number left, .number right => some (.number (left + right))
  | .minus, .number left, .number right => some (.number (left - right))
  | .minus, .document (.array items), .number index =>
    if index.den = 1 then some (.document (.array (Datum.deleteAt items index.num))) else none
  | .concatenate, .document (.array left), .document (.array right) =>
    some (.document (.array (left ++ right)))
  | _, _, _ => none

/-- With null an operator makes null. -/
def Operator.combine? (operator : Operator) : Content → Content → Option Content
  | some left, some right => (operator.result? left right).map some
  | _, _ => some none

/-! ### Evaluation -/

/-- What the columns hold that may be read, by their tables. -/
abbrev Scope := String → String → Option Content

/-- A scope with a table of one row beside it, which holds an item and its position. It hides other
tables of its name. -/
def Scope.beside (scope : Scope) (table item position : String) (entry : Json × Nat) : Scope :=
  fun other name =>
    if other = table then
      if name = item then some (some (.document entry.1))
      else if name = position then some (some (.number entry.2))
      else none
    else scope other name

/-- The rows that meet a condition. -/
def keepRows (condition : Scope → Option Content) : List Scope → Option (List Scope)
  | [] => some []
  | row :: rest => do
    let meets ← Datum.asTruth? (← condition row)
    let kept ← keepRows condition rest
    return if meets then row :: kept else kept

/-- An item of each row with its key. -/
def keyed? (item key : Scope → Option Content) (row : Scope) : Option (ℚ × Json) := do
  return (← Datum.number? (← key row), ← Datum.asItem? (← item row))

namespace Formula

/-- The expression collects something of all rows. -/
def isAggregate : Formula → Bool
  | .collect _ _ => true
  | .coalesce first second => first.isAggregate || second.isAggregate
  | _ => false

/-- What an expression comes to, with the arguments that are bound, in a scope, and over the rows of
a query if it is inside of one. -/
def value? (bound : List Argument) : Formula → Scope → Option (List Scope) → Option Content
  | .null, _, _ => some none
  | .column table name, scope, _ => scope table name
  | .argument 0, _, _ => none
  | .argument (index + 1), _, _ => bound[index]?.map Datum.ofArgument
  | .literal text, _, _ => some (some (.text text))
  | .number value, _, _ => some (some (.number value))
  | .negative inner, scope, rows => do
    Operator.minus.combine? (some (.number 0)) (← value? bound inner scope rows)
  | .cast inner, scope, rows => do Datum.asDocument? (← value? bound inner scope rows)
  | .coalesce first second, scope, rows => do
    match ← value? bound first scope rows with
    | some datum => return some datum
    | none => value? bound second scope rows
  | .greatest left right, scope, rows => do
    Datum.extremum? .gt (← value? bound left scope rows) (← value? bound right scope rows)
  | .least left right, scope, rows => do
    Datum.extremum? .lt (← value? bound left scope rows) (← value? bound right scope rows)
  | .buildArray item, scope, rows => do
    return some (.document (.array [← Datum.asItem? (← value? bound item scope rows)]))
  | .combine operator left right, scope, rows => do
    operator.combine? (← value? bound left scope rows) (← value? bound right scope rows)
  | .isNull inner, scope, rows => do
    return some (.boolean (← value? bound inner scope rows).isNone)
  | .choose condition yes no, scope, rows => do
    if ← Datum.asTruth? (← value? bound condition scope rows) then value? bound yes scope rows
    else value? bound no scope rows
  | .notIn item source, scope, rows => do
    let items ← Datum.elements? (← value? bound source scope none)
    Datum.noneOf? items (← value? bound item scope rows)
  | .collect item key, _, rows => do
    let entries ← (← rows).mapM
      (keyed? (fun row => value? bound item row none) (fun row => value? bound key row none))
    return Datum.collected entries
  | .select output source table item position condition, scope, _ => do
    let documents ← Datum.elements? (← value? bound source scope none)
    let kept ← keepRows (fun row => value? bound condition row none)
      ((documents.zipIdx 1).map (scope.beside table item position))
    -- A query that collects nothing has as many rows as there are items.
    if output.isAggregate then value? bound output scope (some kept) else none

end Formula

/-! ### Queries -/

section Query

variable {α : Type} {row : α → Scope}

theorem keepRows_map {condition : Scope → Option Content} {keep : α → Bool}
    (judges : ∀ entry, condition (row entry) = some (some (.boolean (keep entry))))
    (entries : List α) :
    keepRows condition (entries.map row) = some ((entries.filter keep).map row) := by
  induction entries with
  | nil => rfl
  | cons entry rest step =>
    rw [List.map_cons, keepRows, judges, step, List.filter_cons]
    cases keep entry <;> rfl

theorem mapM_keyed? {item key : Scope → Option Content} {document : α → Json} {place : α → ℚ}
    (items : ∀ entry, item (row entry) = some (some (.document (document entry))))
    (keys : ∀ entry, key (row entry) = some (some (.number (place entry)))) (entries : List α) :
    (entries.map row).mapM (keyed? item key) =
      some (entries.map fun entry => (place entry, document entry)) := by
  have each : keyed? item key ∘ row = fun entry => some (place entry, document entry) := by
    funext entry
    simp only [Function.comp_apply, keyed?, items, keys]
    rfl
  rw [List.mapM_map, each]
  exact List.mapM_pure

/-- Documents that are in the order of their keys are collected as they are. -/
theorem collected_of_pairwise {entries : List (ℚ × Json)}
    (ordered : entries.Pairwise fun left right => left.1 ≤ right.1) (some_ : entries ≠ []) :
    Datum.collected entries = some (.document (.array (entries.map Prod.snd))) := by
  have sorted : entries.Pairwise fun left right => decide (left.1 ≤ right.1) = true :=
    ordered.imp decide_eq_true
  simp only [Datum.collected, if_neg some_, List.mergeSort_of_pairwise sorted]

end Query

namespace Scope

variable {scope : Scope} {table item position : String}

theorem beside_item (entry : Json × Nat) :
    scope.beside table item position entry table item = some (some (.document entry.1)) := by
  rw [beside, if_pos rfl, if_pos rfl]

theorem beside_position (apart : position ≠ item) (entry : Json × Nat) :
    scope.beside table item position entry table position = some (some (.number entry.2)) := by
  rw [beside, if_pos rfl, if_neg apart, if_pos rfl]

end Scope

section Functions

variable {bound : List Argument} {scope : Scope} {rows : Option (List Scope)}
  {first second : Formula} {content other : Content}

/-- `COALESCE` is the first content that is not null. -/
theorem coalesce_value? (one : first.value? bound scope rows = some content)
    (two : second.value? bound scope rows = some other) :
    (Formula.coalesce first second).value? bound scope rows = some (content <|> other) := by
  rw [Formula.value?, one]
  cases content with
  | none => exact two
  | some datum => rfl

theorem combine_value? (operator : Operator) (one : first.value? bound scope rows = some content)
    (two : second.value? bound scope rows = some other) :
    (Formula.combine operator first second).value? bound scope rows =
      operator.combine? content other := by
  rw [Formula.value?, one, two]
  rfl

theorem cast_value? {document : Json}
    (read : first.value? bound scope rows = some (some (.document document))) :
    (Formula.cast first).value? bound scope rows = some (some (.document document)) := by
  rw [Formula.value?, read]
  rfl

/-- The text of an empty array is an empty array. -/
theorem emptyArray_value? :
    (Formula.cast (.literal "[]")).value? bound scope rows =
      some (some (.document (.array []))) := by
  have read : Json.ofText? "[]" = some (.array []) := by
    unfold Json.ofText?
    rw [String.toList_ofList]
    rfl
  simp [Formula.value?, Datum.asDocument?, read]

end Functions

/-! ### The items that meet a condition -/

section Numbered

variable (documents : List Json) (keep : Json → Bool)

/-- The documents that are kept, with their places. -/
def keptEntries : List (Json × Nat) := (documents.zipIdx 1).filter fun entry => keep entry.1

theorem keptEntries_map_fst :
    (keptEntries documents keep).map Prod.fst = documents.filter keep := by
  rw [keptEntries, ← List.zipIdx_map_fst 1 documents, List.filter_map, List.zipIdx_map_fst]
  rfl

/-- They are in the order of their places. -/
theorem keptEntries_pairwise :
    ((keptEntries documents keep).map fun entry => ((entry.2 : ℚ), entry.1)).Pairwise
      fun left right => left.1 ≤ right.1 := by
  have places : ((documents.zipIdx 1).map Prod.snd).Pairwise (· ≤ ·) := by
    rw [List.zipIdx_map_snd]
    exact List.pairwise_le_range' _
  rw [List.pairwise_map] at places ⊢
  exact (places.filter _).imp Nat.cast_le.mpr

end Numbered

/-- **A query collects the items that meet its condition**, in their order. -/
theorem query_value? {bound : List Argument} {scope : Scope} {table item position : String}
    {source condition : Formula} {content : Content} {documents : List Json} {keep : Json → Bool}
    (apart : position ≠ item) (reads : source.value? bound scope none = some content)
    (elements : Datum.elements? content = some documents)
    (judges : ∀ entry, condition.value? bound (scope.beside table item position entry) none =
      some (some (.boolean (keep entry.1)))) (rows : Option (List Scope)) :
    (Formula.select
        (.coalesce (.collect (.column table item) (.column table position)) (.cast (.literal "[]")))
        source table item position condition).value? bound scope rows =
      some (some (.document (.array (documents.filter keep)))) := by
  have kept : keepRows (fun row => condition.value? bound row none)
      ((documents.zipIdx 1).map (scope.beside table item position)) =
      some ((keptEntries documents keep).map (scope.beside table item position)) :=
    keepRows_map judges _
  have entries : ((keptEntries documents keep).map (scope.beside table item position)).mapM
      (keyed? (fun row => (Formula.column table item).value? bound row none)
        (fun row => (Formula.column table position).value? bound row none)) =
      some ((keptEntries documents keep).map fun entry => ((entry.2 : ℚ), entry.1)) :=
    mapM_keyed? Scope.beside_item (Scope.beside_position apart) _
  have collects : (Formula.collect (.column table item) (.column table position)).value? bound scope
      (some ((keptEntries documents keep).map (scope.beside table item position))) =
      some (Datum.collected
        ((keptEntries documents keep).map fun entry => ((entry.2 : ℚ), entry.1))) := by
    rw [Formula.value?, Option.bind_eq_bind, Option.bind_some, entries]
    rfl
  rw [Formula.value?, reads, Option.bind_eq_bind, Option.bind_some, elements,
    Option.bind_eq_bind, Option.bind_some, kept, Option.bind_eq_bind, Option.bind_some,
    Formula.isAggregate, Formula.isAggregate, Bool.true_or, if_pos rfl,
    coalesce_value? collects emptyArray_value?, ← keptEntries_map_fst documents keep]
  by_cases empty : keptEntries documents keep = []
  · rw [empty]
    rfl
  · rw [collected_of_pairwise (keptEntries_pairwise documents keep), List.map_map]
    · rfl
    · simpa using empty

end TwinStore.Sql
