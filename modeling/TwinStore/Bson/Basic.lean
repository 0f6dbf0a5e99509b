/-
**Documents.** The values of a document store and the documents they form. A document keeps its
entries in the order in which their names first came.

* `Document.insert` replaces the value of a name where it stands, or appends the entry.
* `get?_insert` says what reading sees of it, `names_insert` that a known name keeps its place.
-/

import TwinStore.Decimal.Decimal128
import TwinStore.Binary64.Basic
import TwinStore.Unsupported

namespace TwinStore

/-- A value of a document store. Of the kinds that no value corresponds to only the kind is kept. -/
inductive Bson where
  | null
  | undefined
  | boolean (value : Bool)
  | text (value : String)
  | int32 (value : Int32)
  | int64 (value : Int64)
  | double (value : Binary64)
  | decimal128 (value : Decimal128)
  /-- Milliseconds from 1970-01-01T00:00:00Z. -/
  | instant (milliseconds : Int64)
  | binary (subtype : UInt8) (bytes : List UInt8)
  | objectId (bytes : List UInt8)
  | foreign (kind : ForeignKind)
  | array (items : List Bson)
  | document (entries : List (String × Bson))

instance : Inhabited Bson := ⟨.null⟩

/-- Named values in the order in which their names first came. -/
abbrev Document := List (String × Bson)

namespace Document

/-- The value of a name. -/
def get? (document : Document) (name : String) : Option Bson :=
  match document with
  | [] => none
  | (other, value) :: rest => if other = name then some value else get? rest name

/-- Gives a name a value where it stands, or at the end. -/
def insert (document : Document) (name : String) (value : Bson) : Document :=
  match document with
  | [] => [(name, value)]
  | (other, old) :: rest =>
    if other = name then (name, value) :: rest else (other, old) :: insert rest name value

/-- The document that a list of entries leaves behind. -/
def ofEntries (entries : List (String × Bson)) : Document :=
  entries.foldl (fun document entry => insert document entry.1 entry.2) []

def names (document : Document) : List String := document.map Prod.fst

/-- After an insertion the name has the new value, and every other name the value it had. -/
theorem get?_insert (document : Document) (name : String) (value : Bson) (other : String) :
    (document.insert name value).get? other =
      if name = other then some value else document.get? other := by
  induction document with
  | nil => simp [insert, get?]
  | cons entry rest step =>
    obtain ⟨key, old⟩ := entry
    unfold insert
    split
    · next same => subst same; rw [get?, get?]; split <;> rfl
    · next different =>
      rw [get?, step, get?]
      by_cases wanted : key = other
      · subst wanted
        simp [Ne.symm different]
      · simp [wanted]

/-- A known name keeps its place, a new one comes last. -/
theorem names_insert (document : Document) (name : String) (value : Bson) :
    (document.insert name value).names =
      if name ∈ document.names then document.names else document.names ++ [name] := by
  induction document with
  | nil => simp [insert, names]
  | cons entry rest step =>
    obtain ⟨key, old⟩ := entry
    unfold insert
    split
    · next same => simp [names, same]
    · next different =>
      have apart : ¬name = key := fun same => different same.symm
      change key :: names (insert rest name value) = _
      rw [step]
      by_cases known : name ∈ names rest
      · simp_all [names]
      · simp_all [names]

/-- A document of one entry. -/
def single (name : String) (value : Bson) : Document := [(name, value)]

end Document

end TwinStore
