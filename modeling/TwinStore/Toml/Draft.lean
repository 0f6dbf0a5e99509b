/-
**Tables while they are read.** A table is opened by its header, implied by the header of a table
inside it, or made by a dotted key. Each is opened once: a header may open what was only implied,
and a dotted key extends only what dotted keys made.

* `Draft.assign?` gives a dotted key a value, `Draft.openTable?` and `Draft.appendTable?` follow the
  two kinds of header.
* `Draft.table` is what the draft amounts to.
-/

import TwinStore.Toml.Basic

namespace TwinStore.Toml

/-- How a table came to be. -/
inductive Origin where
  | header
  | implied
  | dotted
  deriving DecidableEq

/-- An entry of a table that is being read: a finished value, a table, or a list of tables of which
the last one is still open. -/
inductive Draft where
  | value (value : Toml)
  | table (origin : Origin) (entries : List (String × Draft))
  | tables (finished : List Toml) (current : List (String × Draft))

namespace Draft

mutual

/-- What an entry amounts to. -/
def finish : Draft → Toml
  | value document => document
  | table _ entries => .table (finishEntries entries)
  | tables finished current => .list (finished ++ [.table (finishEntries current)])

/-- What the entries of a table amount to. -/
def finishEntries : List (String × Draft) → List (String × Toml)
  | [] => []
  | (key, entry) :: rest => (key, entry.finish) :: finishEntries rest

end

/-- Gives a dotted key a value. Its last part must be new; the parts before it name tables that
dotted keys made, or pass through implied ones and the open ones of lists on the way to such a
table. -/
def assign? (document : Toml) : List String → Fields Draft → Option (Fields Draft)
  | [], _ => none
  | [key], entries =>
    if entries.contains key then none else some (entries.insert key (.value document))
  | key :: path, entries => do
    match entries.get? key with
    | none => return entries.insert key (.table .dotted (← assign? document path []))
    | some (.table .dotted inner) =>
      return entries.insert key (.table .dotted (← assign? document path inner))
    | some (.table .implied inner) =>
      if path.length ≤ 1 then none
      else return entries.insert key (.table .implied (← assign? document path inner))
    | some (.tables finished current) =>
      if path.length ≤ 1 then none
      else return entries.insert key (.tables finished (← assign? document path current))
    | _ => none

/-- Changes the entry that the path of a header names; parents that are missing become implied. -/
def alter? (change : Option Draft → Option Draft) :
    List String → Fields Draft → Option (Fields Draft)
  | [], _ => none
  | [key], entries => do return entries.insert key (← change (entries.get? key))
  | key :: path, entries => do
    match entries.get? key with
    | none => return entries.insert key (.table .implied (← alter? change path []))
    | some (.table origin inner) =>
      return entries.insert key (.table origin (← alter? change path inner))
    | some (.tables finished current) =>
      return entries.insert key (.tables finished (← alter? change path current))
    | some (.value _) => none

/-- A table whose header is read: new, or only implied so far. -/
def opened? : Option Draft → Option Draft
  | none => some (table .header [])
  | some (table .implied inner) => some (table .header inner)
  | _ => none

/-- A list of tables with one more, open table. -/
def appended? : Option Draft → Option Draft
  | none => some (tables [] [])
  | some (tables finished current) =>
    some (tables (finished ++ [.table (finishEntries current)]) [])
  | _ => none

/-- A table in which a dotted key has a value. -/
def assigned? (path : List String) (document : Toml) : Option Draft → Option Draft
  | some (table origin inner) => (assign? document path inner).map (table origin)
  | some (tables finished current) => (assign? document path current).map (tables finished)
  | _ => none

/-- Opens the table of a header. -/
def openTable? (path : List String) (entries : Fields Draft) : Option (Fields Draft) :=
  alter? opened? path entries

/-- Opens one more table of the list that a header names. -/
def appendTable? (path : List String) (entries : Fields Draft) : Option (Fields Draft) :=
  alter? appended? path entries

/-- Gives a dotted key a value inside the table that a header opened last. -/
def assignUnder? (header path : List String) (document : Toml) (entries : Fields Draft) :
    Option (Fields Draft) :=
  if header = [] then assign? document path entries
  else alter? (assigned? path document) header entries

end Draft

end TwinStore.Toml
