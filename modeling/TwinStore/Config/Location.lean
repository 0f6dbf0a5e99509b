/-
**Finding the configuration.** Its file is named by a variable of the environment, or else by a line
of the file `.env`, or else is the one in the usual place.

* `Folder` is a set of files with their contents.
* `Config.load` finds and reads the configuration.
-/

import TwinStore.Config.Text
import TwinStore.Text.Blank

namespace TwinStore

/-- The files of a folder: their names and contents. -/
structure Folder where
  files : List (String × String)

namespace Folder

/-- A path as the name of a file, without the folder itself before it. -/
def fileName (path : String) : String :=
  match path.toList with
  | '.' :: '/' :: rest => String.ofList rest
  | _ => path

/-- The content of the file at a path. -/
def read? (folder : Folder) (path : String) : Option String :=
  (folder.files.find? fun file => file.1 = fileName path).map (·.2)

end Folder

namespace Config

def usualPath : String := "./polydb.toml"

def pathVariable : String := "POLYDB_CONFIG"

/-- The lines of a text. -/
def linesOf : List Char → List (List Char)
  | [] => [[]]
  | '\n' :: rest => [] :: linesOf rest
  | char :: rest =>
    match linesOf rest with
    | line :: lines => (char :: line) :: lines
    | [] => [[char]]

/-- The name and the value of a line, blanks around them dropped. -/
def assignment? (line : List Char) : Option (String × String) :=
  match line.span (· ≠ '=') with
  | (name, _ :: value) =>
    some (String.ofList (Blank.trim name), String.ofList (Blank.trim value))
  | (_, []) => none

/-- The value that a text of assignments gives a name; the first one counts. -/
def assigned? (source name : String) : Option String :=
  let assignments := (linesOf source.toList).filterMap assignment?
  (assignments.find? fun assignment => assignment.1 = name).map (·.2)

/-- The path that the environment, or else the file `.env`, names. -/
def namedPath? (folder : Folder) (environment : Option String) : Option String :=
  environment <|> (folder.read? ".env").bind fun source => assigned? source pathVariable

/-- The configuration at a path. -/
def ofFile (folder : Folder) (path : String) : Except ConfigError Config :=
  match folder.read? path with
  | none => .error .unreadable
  | some source => ofText source

/-- Finds and reads the configuration; the environment may hold the variable that names its file. -/
def load (folder : Folder) (environment : Option String) : Except ConfigError Config :=
  match namedPath? folder environment with
  | some path => ofFile folder path
  | none =>
    if (folder.read? usualPath).isSome then ofFile folder usualPath
    else .error (.invalid .noLocation)

end Config

end TwinStore
