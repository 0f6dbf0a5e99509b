/-
**Selections.** In which order records come, which of them are skipped, how many are wanted and
which fields of them.

* `Projection.userFields?` are the requested fields of the user in ascending order;
  `Projection.columns?` and `Projection.documentFields?` add the names that the store keeps for
  itself.
-/

import TwinStore.Record

namespace TwinStore

/-- The direction of an order. -/
inductive SortOrder where
  | ascending
  | descending
  deriving DecidableEq

/-- Fields to order by, the first one deciding first. -/
abbrev SortList := List (String × SortOrder)

/-- How many records are skipped, and how many are wanted at most. -/
structure Window where
  skip : Option UInt64
  limit : Option UInt64
  deriving DecidableEq

/-- The requested fields, or all of them. -/
structure Projection where
  /-- The requested names, ascending and without repetition. -/
  includes : Option (List String)
  deriving DecidableEq

namespace Projection

def all : Projection := ⟨none⟩

/-- The given fields only. -/
def only (names : List String) : Projection :=
  ⟨some ((Fields.ofEntries (names.map fun name => (name, ()))).map Prod.fst)⟩

/-- Nothing is left out. -/
def isAll (projection : Projection) : Bool := projection.includes.isNone

/-- The requested fields of the user. -/
def userFields? (projection : Projection) : Option (List String) :=
  projection.includes.map fun names => names.filter fun name => !isReserved name

/-- The requested columns: id and stamps, then the fields of the user. -/
def columns? (projection : Projection) : Option (List String) :=
  projection.userFields?.map fun names => idName :: createdName :: updatedName :: names

/-- The requested fields of a document: id and stamps, then the fields of the user. -/
def documentFields? (projection : Projection) : Option (List String) :=
  projection.userFields?.map fun names => documentIdName :: createdName :: updatedName :: names

end Projection

end TwinStore
