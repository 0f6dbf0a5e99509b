/-
**Queries.** Which records of a class are meant, in which order, which window of them and which
fields.

* `FindQuery.first` is the query for the first match.
-/

import TwinStore.Predicate
import TwinStore.Query.Selection
import TwinStore.StoreError

namespace TwinStore

/-- A query. -/
structure FindQuery where
  className : Option String
  filters : List Predicate
  sort : SortList
  skip : Option UInt64
  limit : Option UInt64
  includes : Option (List String)

namespace FindQuery

/-- A query for everything, of no class yet. -/
def empty : FindQuery := ⟨none, [], [], none, none, none⟩

/-- The same query with one more filter: every one of them has to hold. -/
def filtered (query : FindQuery) (filter : Predicate) : FindQuery :=
  { query with filters := query.filters ++ [filter] }

/-- The class, which a verb needs. -/
def requireClass (query : FindQuery) : Except StoreError String :=
  match query.className with
  | some name => .ok name
  | none => .error .classNotSet

/-- All filters together. -/
def predicate? (query : FindQuery) : Option Predicate := Predicate.all? query.filters

/-- The window of records. -/
def window (query : FindQuery) : Window := ⟨query.skip, query.limit⟩

/-- The requested fields. -/
def projection (query : FindQuery) : Projection :=
  match query.includes with
  | none => .all
  | some names => .only names

/-- The same query for its first match. -/
def first (query : FindQuery) : FindQuery := { query with limit := some 1 }

end FindQuery

end TwinStore
