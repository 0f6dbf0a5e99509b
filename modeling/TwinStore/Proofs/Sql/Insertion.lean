/-
**The statement of an insertion.** Which columns it writes, with which arguments, and what a row
holds when it is read back.

* `Statement.columns`: the names that an insertion lists behind its table.
* `insert_writes`: a statement for a class of a valid name lists one column and one argument for
  each entry, in their order.
* `readBack_ofColumn`: an argument read back is the value that it was made from.
-/

import TwinStore.Proofs.Sql.Draft
import TwinStore.Proofs.Value.Column
import TwinStore.Sql.Statement

namespace TwinStore

/-! ### Columns and arguments -/

/-- The identifier between double quotes that a token is. -/
def Token.name? : Token → Option Identifier
  | .name identifier => some identifier
  | _ => none

/-- The columns of an insertion: the names behind that of the table. -/
def Statement.columns (statement : Statement) : List String :=
  ((statement.tokens.filterMap Token.name?).drop 1).map Identifier.text

/-- The value of a column that an argument was written to: an array or object goes through a JSON
document, anything else stays as it is. -/
def Argument.readBack : Argument → Value
  | .typed (.array items) => (Value.ofJson (Value.array items).toJson).ofColumnForm
  | .typed (.object fields) => (Value.ofJson (Value.object fields).toJson).ofColumnForm
  | .typed scalar => scalar.ofColumnForm
  | .json document => (Value.ofJson document).ofColumnForm

/-- The entries of the row that an insertion writes. -/
def Statement.rowEntries (statement : Statement) : List (String × Value) :=
  statement.columns.zip (statement.arguments.map Argument.readBack)

theorem columnName_of_isIdentifier {field : String} (valid : IsIdentifier field)
    (column : field ≠ documentIdName) : columnName field = .ok ⟨field, valid⟩ := by
  rw [columnName, if_neg column, Identifier.ofText, dif_pos valid]

/-- The names of a list of entries, as tokens. -/
theorem columnDrafts_eq {entries : List (String × Value)}
    (valid : ∀ entry ∈ entries, IsIdentifier entry.1 ∧ entry.1 ≠ documentIdName) :
    ∃ names : List Identifier, names.map Identifier.text = entries.map Prod.fst ∧
      (entries.map fun entry => Draft.withIdentifier (columnName entry.1) Draft.name) =
        (names.map fun name => [Token.name name]).map Draft.ofTokens := by
  induction entries with
  | nil => exact ⟨[], rfl, rfl⟩
  | cons entry rest step =>
    obtain ⟨names, texts, drafts⟩ :=
      step fun other member => valid other (List.mem_cons_of_mem _ member)
    obtain ⟨identifier, column⟩ := valid entry List.mem_cons_self
    refine ⟨⟨entry.1, identifier⟩ :: names, by rw [List.map_cons, texts, List.map_cons], ?_⟩
    rw [List.map_cons, drafts, columnName_of_isIdentifier identifier column]
    rfl

/-- A statement of parts without a fault. -/
theorem Statement.ofParts_ofTokens (parts : List (List Token)) :
    Statement.ofParts (parts.map Draft.ofTokens) =
      .ok ⟨List.intercalate [.keyword .space] (parts.filter fun part => !part.isEmpty)⟩ := by
  rw [Statement.ofParts, Draft.spaced_ofTokens]
  rfl

/-- The parts of an insertion. -/
def insertParts (table : Identifier) (names : List Identifier) (bound : List Argument) :
    List (List Token) :=
  [[.keyword .insertInto], [.name table],
    .keyword .leftParenthesis ::
      List.intercalate [.keyword .comma] (names.map fun name => [Token.name name]) ++
        [.keyword .rightParenthesis],
    [.keyword .values],
    .keyword .leftParenthesis ::
      List.intercalate [.keyword .comma] (bound.map fun argument => [Token.argument argument]) ++
        [.keyword .rightParenthesis],
    [.keyword .returningAll]]

/-- The tokens of an insertion. -/
def insertTokens (table : Identifier) (names : List Identifier) (bound : List Argument) :
    List Token :=
  List.intercalate [.keyword .space] (insertParts table names bound)

/-- What is picked from tokens that stand alone. -/
theorem flatMap_singles {α β : Type} (pick : Token → Option β) (make : α → Token)
    (parts : List α) :
    (parts.map fun part => [make part]).flatMap (fun part => part.filterMap pick) =
      parts.filterMap fun part => pick (make part) := by
  have alone : ∀ part, [make part].filterMap pick = (pick (make part)).toList := by
    intro part
    rw [List.filterMap_cons]
    cases pick (make part) <;> rfl
  simp only [List.flatMap_map, alone]
  exact (List.filterMap_eq_flatMap_toList _ _).symm

/-- The tokens of an insertion hold its names and its arguments. -/
theorem filterMap_insertTokens {β : Type} {pick : Token → Option β}
    (skipped : ∀ word, pick (.keyword word) = none) (table : Identifier) (names : List Identifier)
    (bound : List Argument) :
    (insertTokens table names bound).filterMap pick =
      (table :: names).filterMap (fun name => pick (.name name)) ++
        bound.filterMap fun argument => pick (.argument argument) := by
  rw [insertTokens, insertParts, Draft.filterMap_intercalate (skipped _)]
  simp only [List.flatMap_cons, List.flatMap_nil, List.filterMap_append, List.cons_append,
    List.filterMap_cons_none (skipped _), List.filterMap_nil, List.append_nil, List.nil_append,
    Draft.filterMap_intercalate (skipped _), flatMap_singles]
  rw [← List.append_assoc, show table :: names = [table] ++ names from rfl, List.filterMap_append]
  rfl

/-- **The tokens of an insertion**: the names of the entries and their values. -/
theorem insert_eq {className : String} {plan : InsertPlan} (named : IsIdentifier className)
    (valid : ∀ entry ∈ Statement.insertEntries plan,
      IsIdentifier entry.1 ∧ entry.1 ≠ documentIdName) :
    ∃ names, names.map Identifier.text = (Statement.insertEntries plan).map Prod.fst ∧
      Statement.insert className plan =
        .ok ⟨insertTokens ⟨className, named⟩ names
          ((Statement.insertEntries plan).map fun entry => Argument.ofColumn entry.2)⟩ := by
  obtain ⟨names, texts, drafts⟩ := columnDrafts_eq valid
  have table : tableOf className = .ok ⟨className, named⟩ := by
    rw [tableOf, Identifier.ofText, dif_pos named]
    rfl
  have bound : ((Statement.insertEntries plan).map fun entry => columnArgument entry.2) =
      (((Statement.insertEntries plan).map fun entry => Argument.ofColumn entry.2).map
        fun argument => [Token.argument argument]).map Draft.ofTokens := by
    rw [List.map_map, List.map_map]
    rfl
  refine ⟨names, texts, ?_⟩
  rw [Statement.insert, table]
  show Statement.ofParts _ = _
  rw [drafts, bound, Draft.listed, Draft.listed, Draft.joined_ofTokens, Draft.joined_ofTokens]
  exact Statement.ofParts_ofTokens (insertParts _ _ _)

/-- **What an insertion writes**: its columns and its arguments are those of the entries. -/
theorem insert_writes {className : String} {plan : InsertPlan} (named : IsIdentifier className)
    (valid : ∀ entry ∈ Statement.insertEntries plan,
      IsIdentifier entry.1 ∧ entry.1 ≠ documentIdName) :
    ∃ statement, Statement.insert className plan = .ok statement ∧
      statement.columns = (Statement.insertEntries plan).map Prod.fst ∧
      statement.arguments =
        (Statement.insertEntries plan).map fun entry => Argument.ofColumn entry.2 := by
  obtain ⟨names, texts, written⟩ := insert_eq named valid
  refine ⟨_, written, ?_, ?_⟩
  · rw [Statement.columns, filterMap_insertTokens fun _ => rfl]
    simp only [Token.name?, List.filterMap_some, List.filterMap_eq_nil_iff.mpr, implies_true,
      List.append_nil, List.drop_succ_cons, List.drop_zero]
    exact texts
  · rw [Statement.arguments, Token.arguments, filterMap_insertTokens fun _ => rfl]
    simp only [Token.argument?, List.filterMap_some, List.filterMap_eq_nil_iff.mpr, implies_true,
      List.nil_append]

/-! ### Reading back -/

/-- **An argument is read back as the value that it was made from.** -/
theorem readBack_ofColumn {value : Value} (finite : value.Every Value.FiniteFloat)
    (fits : value.Every Value.FittingDecimal) (whole : value.Every Value.WholeInstant) :
    Value.Alike (Argument.ofColumn value).readBack value := by
  by_cases container : value.IsContainer
  · have read : (Argument.ofColumn value).readBack =
        (Value.ofJson value.columnForm.toJson).ofColumnForm := by
      cases value with
      | array | object => rfl
      | _ => exact container.elim
    rw [read, Value.ofJson_toJson_columnForm finite container]
    have back := Value.alike_ofColumnForm fits container
    rwa [Value.restored, Value.restoredLeaf, Value.mapLeaves_counted_of_whole whole] at back
  · have read : (Argument.ofColumn value).readBack = value := by
      cases value with
      | array | object => exact absurd trivial container
      | _ => rfl
    rw [read]
    exact .refl _

end TwinStore
