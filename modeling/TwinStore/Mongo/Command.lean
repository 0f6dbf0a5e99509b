/-
**MongoDB commands.** What a MongoDB server is asked.

* `Command.name`, `Command.target` and `Command.parameters` are the parts of a command as it is
  sent, the parameters in ascending order of their names.
-/

import TwinStore.Bson.Request

namespace TwinStore.Mongo

/-- Which matches are found, in which order and with which fields. -/
structure FindOptions where
  sort : Option Document
  skip : Option Int64
  limit : Option Int64
  projection : Option Document

/-- How the first match is chosen and which of its fields are given back. -/
structure MatchOptions where
  sort : Option Document
  projection : Option Document

/-- A command. -/
inductive Command where
  | count (className : String) (filter : Document)
  | find (className : String) (filter : Document) (options : FindOptions)
  | insert (className : String) (document : Document)
  /-- Changes the first match; without one, an upsert inserts a document. -/
  | findAndUpdate (className : String) (filter update : Document) (options : MatchOptions)
      (returning : Returning) (upsert : Bool)
  | findAndDelete (className : String) (filter : Document) (options : MatchOptions)
  | deleteAll (className : String) (filter : Document)
  /-- Changes all documents. -/
  | updateAll (className : String) (update : Document)
  | listCollections
  | create (className : String)
  | createIndex (className : String) (index : IndexModel)
  | drop (className : String)
  | dropIndex (className index : String)
  | commit
  | abort

namespace Command

def name : Command → String
  | count .. => "aggregate"
  | find .. => "find"
  | insert .. => "insert"
  | findAndUpdate .. => "findAndModify"
  | findAndDelete .. => "findAndModify"
  | deleteAll .. => "delete"
  | updateAll .. => "update"
  | listCollections => "listCollections"
  | create _ => "create"
  | createIndex .. => "createIndexes"
  | drop _ => "drop"
  | dropIndex .. => "dropIndexes"
  | commit => "commitTransaction"
  | abort => "abortTransaction"

/-- The class that a command is about; what is about no class has a one in its place. -/
def target : Command → Bson
  | count className _ => .text className
  | find className _ _ => .text className
  | insert className _ => .text className
  | findAndUpdate className _ _ _ _ _ => .text className
  | findAndDelete className _ _ => .text className
  | deleteAll className _ => .text className
  | updateAll className _ => .text className
  | create className => .text className
  | createIndex className _ => .text className
  | drop className => .text className
  | dropIndex className _ => .text className
  | listCollections => .int32 1
  | commit => .int32 1
  | abort => .int32 1

/-- A parameter that may be missing. -/
def optional (name : String) (value : Option Bson) : Document :=
  (value.map fun value => [(name, value)]).getD []

/-- The number of matches in one group. -/
def countPipeline (filter : Document) : Bson :=
  .array
    [.document [("$match", .document filter)],
      .document [("$group", .document
        [("_id", .int32 1), ("n", .document [("$sum", .int32 1)])])]]

/-- An index in a command. -/
def indexDocument (index : IndexModel) : Document :=
  [("key", .document index.keys), ("name", .text index.name)] ++
    if index.unique then [("unique", .boolean true)] else []

/-- The parameters of a command. -/
def parameters : Command → Document
  | count _ filter => [("cursor", .document []), ("pipeline", countPipeline filter)]
  | find _ filter options =>
    [("filter", .document filter)] ++ optional "limit" (options.limit.map .int64) ++
      optional "projection" (options.projection.map .document) ++
      optional "skip" (options.skip.map .int64) ++ optional "sort" (options.sort.map .document)
  | insert _ document =>
    [("documents", .array [.document document]), ("ordered", .boolean true)]
  | findAndUpdate _ filter update options returning upsert =>
    optional "fields" (options.projection.map .document) ++
      [("new", .boolean (returning == .after)), ("query", .document filter)] ++
      optional "sort" (options.sort.map .document) ++ [("update", .document update)] ++
      optional "upsert" (if upsert then some (.boolean true) else none)
  | findAndDelete _ filter options =>
    optional "fields" (options.projection.map .document) ++
      [("query", .document filter), ("remove", .boolean true)] ++
      optional "sort" (options.sort.map .document)
  | deleteAll _ filter =>
    [("deletes", .array [.document [("q", .document filter), ("limit", .int32 0)]]),
      ("ordered", .boolean true)]
  | updateAll _ update =>
    [("ordered", .boolean true),
      ("updates", .array [.document
        [("q", .document []), ("u", .document update), ("multi", .boolean true)]])]
  | listCollections => [("nameOnly", .boolean true)]
  | create _ => []
  | createIndex _ index => [("indexes", .array [.document (indexDocument index)])]
  | drop _ => []
  | dropIndex _ index => [("index", .text index)]
  | commit => []
  | abort => []

end Command

end TwinStore.Mongo
