/-
**Reading TOML.** A text is a sequence of statements, one to a line: headers of tables, headers of
lists of tables, and keys with values. Lists and the tables inside values may stand on several lines
and end with a comma; at most eighty of them stand inside one another.

* `Toml.scanValue?` reads a value.
* `Toml.ofText?` reads a whole text and gives its table.
-/

import TwinStore.Toml.Draft
import TwinStore.Toml.Scalar
import TwinStore.Toml.Text

namespace TwinStore.Toml

/-- The table of keys with values that stand side by side. -/
def ofAssignments? (assignments : List (List String × Toml)) : Option Toml := do
  let entries ← assignments.foldlM (fun entries (path, document) =>
    Draft.assign? document path entries) ([] : Fields Draft)
  return .table (Draft.finishEntries entries)

/-- How many lists and tables may stand inside one another in a value. -/
def depthLimit : Nat := 80

mutual

/-- Reads a value; the fuel bounds the number of values, the depth the nesting that is left. -/
def scanValue? : Nat → Nat → List Char → Option (Toml × List Char)
  | 0, _, _ => none
  | fuel + 1, depth, source =>
    match source with
    | '[' :: rest =>
      match depth with
      | 0 => none
      | depth + 1 => do
        let (items, rest) ← scanItems? fuel depth (skipGaps rest)
        return (.list items, rest)
    | '\x7b' :: rest =>
      match depth with
      | 0 => none
      | depth + 1 => do
        let (assignments, rest) ← scanAssignments? fuel depth (skipGaps rest)
        return (← ofAssignments? assignments, rest)
    | '"' :: _ => (scanText? source).map fun (chars, rest) => (.text (String.ofList chars), rest)
    | '\'' :: _ => (scanText? source).map fun (chars, rest) => (.text (String.ofList chars), rest)
    | _ => scanScalar? source

/-- Reads the items of a list up to its closing bracket. -/
def scanItems? : Nat → Nat → List Char → Option (List Toml × List Char)
  | 0, _, _ => none
  | _, _, ']' :: rest => some ([], rest)
  | fuel + 1, depth, source => do
    let (item, rest) ← scanValue? fuel depth source
    match skipGaps rest with
    | ',' :: rest =>
      let (items, rest) ← scanItems? fuel depth (skipGaps rest)
      return (item :: items, rest)
    | ']' :: rest => return ([item], rest)
    | _ => none

/-- Reads the keys and values of a table inside a value up to its closing brace. -/
def scanAssignments? : Nat → Nat → List Char → Option (List (List String × Toml) × List Char)
  | 0, _, _ => none
  | _, _, '\x7d' :: rest => some ([], rest)
  | fuel + 1, depth, source => do
    let (path, rest) ← scanPath? source
    match skipGaps rest with
    | '=' :: rest =>
      let (document, rest) ← scanValue? fuel depth (skipGaps rest)
      match skipGaps rest with
      | ',' :: rest =>
        let (assignments, rest) ← scanAssignments? fuel depth (skipGaps rest)
        return ((path, document) :: assignments, rest)
      | '\x7d' :: rest => return ([(path, document)], rest)
      | _ => none
    | _ => none

end

/-- One statement of a text. -/
inductive Statement where
  /-- The header of a table. -/
  | openTable (path : List String)
  /-- The header of one more table of a list. -/
  | appendTable (path : List String)
  | assign (path : List String) (document : Toml)

/-- Reads a statement. -/
def scanStatement? : List Char → Option (Statement × List Char)
  | '[' :: '[' :: rest => do
    let (path, rest) ← scanPath? rest
    match rest with
    | ']' :: ']' :: rest => return (.appendTable path, rest)
    | _ => none
  | '[' :: rest => do
    let (path, rest) ← scanPath? rest
    match rest with
    | ']' :: rest => return (.openTable path, rest)
    | _ => none
  | source => do
    let (path, rest) ← scanPath? source
    match rest with
    | '=' :: rest =>
      let (document, rest) ← scanValue? (2 * rest.length + 2) depthLimit (skipBlanks rest)
      return (.assign path document, rest)
    | _ => none

/-- Reads the statements of a text; the fuel bounds their number. -/
def scanStatements? : Nat → List Char → Option (List Statement)
  | 0, _ => none
  | fuel + 1, source =>
    match skipGaps source with
    | [] => some []
    | source => do
      let (statement, rest) ← scanStatement? source
      let statements ← scanStatements? fuel (← endOfLine? rest)
      return statement :: statements

/-- A document while its statements are followed: the header that was opened last and the entries
so far. -/
structure Progress where
  header : List String
  entries : Fields Draft

/-- Follows a statement. -/
def Progress.follow? (progress : Progress) : Statement → Option Progress
  | .openTable path => do return ⟨path, ← Draft.openTable? path progress.entries⟩
  | .appendTable path => do return ⟨path, ← Draft.appendTable? path progress.entries⟩
  | .assign path document => do
    let entries ← Draft.assignUnder? progress.header path document progress.entries
    return { progress with entries }

/-- Reads a whole text; a byte order mark may open it. -/
def ofText? (source : String) : Option Toml := do
  let chars := source.toList
  let chars := if chars.head? = some '\ufeff' then chars.tail else chars
  let statements ← scanStatements? chars.length.succ chars
  let progress ← statements.foldlM Progress.follow? ⟨[], []⟩
  return .table (Draft.finishEntries progress.entries)

end TwinStore.Toml
