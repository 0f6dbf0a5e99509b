/-
**TOML documents.** The values of a configuration text.

* `Toml.text?`, `Toml.integer?` and `Toml.entries?` take a value of one kind.
* `Toml.field?` is the value of a key in a table.
* `Toml.fitsWords` says that no integer inside a value needs more than sixty-four bits.
-/

import TwinStore.Binary64.Basic
import TwinStore.Fields

namespace TwinStore

/-- A value. Dates and times keep their spelling. -/
inductive Toml where
  | text (value : String)
  | integer (value : Int)
  | float (value : Binary64)
  | boolean (value : Bool)
  | moment (spelling : String)
  | list (items : List Toml)
  | table (entries : List (String × Toml))

namespace Toml

instance : Inhabited Toml := ⟨.table []⟩

def text? : Toml → Option String
  | text value => some value
  | _ => none

def integer? : Toml → Option Int
  | integer value => some value
  | _ => none

def entries? : Toml → Option (Fields Toml)
  | table entries => some entries
  | _ => none

def field? (document : Toml) (key : String) : Option Toml :=
  document.entries?.bind fun entries => entries.get? key

mutual

/-- Every integer inside a value fits a signed or an unsigned sixty-four bit word. -/
def fitsWords : Toml → Bool
  | integer value => decide (-2 ^ 63 ≤ value ∧ value < 2 ^ 64)
  | list items => itemsFitWords items
  | table entries => entriesFitWords entries
  | _ => true

/-- Every integer inside the items of a list fits a word. -/
def itemsFitWords : List Toml → Bool
  | [] => true
  | item :: rest => item.fitsWords && itemsFitWords rest

/-- Every integer inside the entries of a table fits a word. -/
def entriesFitWords : List (String × Toml) → Bool
  | [] => true
  | (_, value) :: rest => value.fitsWords && entriesFitWords rest

end

end Toml

end TwinStore
