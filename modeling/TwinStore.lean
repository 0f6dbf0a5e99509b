import TwinStore.Binary64.Basic
import TwinStore.Binary64.Rounding
import TwinStore.Binary64.Shortest
import TwinStore.Bson.Basic
import TwinStore.Bson.Filter
import TwinStore.Bson.Request
import TwinStore.Bson.Update
import TwinStore.Calendar.Components
import TwinStore.Calendar.Date
import TwinStore.Calendar.Instant
import TwinStore.Calendar.Text
import TwinStore.Calendar.TimeOfDay
import TwinStore.CompileError
import TwinStore.Config.Basic
import TwinStore.Config.Location
import TwinStore.Config.Text
import TwinStore.Decimal.Approximation
import TwinStore.Decimal.Basic
import TwinStore.Decimal.Decimal128
import TwinStore.Decimal.Text
import TwinStore.Fields
import TwinStore.Identifier
import TwinStore.Json.Basic
import TwinStore.Json.Numeral
import TwinStore.Json.Reader
import TwinStore.Mongo.Backend
import TwinStore.Mongo.Command
import TwinStore.Mongo.Script
import TwinStore.Mongo.Server
import TwinStore.Number
import TwinStore.Plan.Write
import TwinStore.Postgres.Backend
import TwinStore.Postgres.Row
import TwinStore.Postgres.Server
import TwinStore.Predicate
import TwinStore.Proofs.Binary64.Rounding
import TwinStore.Proofs.Bson.IdNames
import TwinStore.Proofs.Bson.Insertion
import TwinStore.Proofs.Bson.Reading
import TwinStore.Proofs.Bson.Selector
import TwinStore.Proofs.Bson.Update
import TwinStore.Proofs.Calendar.Bytes
import TwinStore.Proofs.Calendar.Components
import TwinStore.Proofs.Calendar.Order
import TwinStore.Proofs.Calendar.Reading
import TwinStore.Proofs.Calendar.Text
import TwinStore.Proofs.Config.Address
import TwinStore.Proofs.Config.Reading
import TwinStore.Proofs.Decimal.Approximation
import TwinStore.Proofs.Decimal.Decimal128
import TwinStore.Proofs.Decimal.Order
import TwinStore.Proofs.Decimal.Spelling
import TwinStore.Proofs.Decimal.Text
import TwinStore.Proofs.Decimal.Value
import TwinStore.Proofs.Fields
import TwinStore.Proofs.Identifier
import TwinStore.Proofs.Json.Comparison
import TwinStore.Proofs.Mongo.Compilation
import TwinStore.Proofs.Mongo.Definition
import TwinStore.Proofs.Mongo.Exchange
import TwinStore.Proofs.Mongo.IndexHistory
import TwinStore.Proofs.Mongo.Sending
import TwinStore.Proofs.Mongo.Waiting
import TwinStore.Proofs.Path
import TwinStore.Proofs.Plan.Agreement
import TwinStore.Proofs.Plan.Delivery
import TwinStore.Proofs.Plan.IdNames
import TwinStore.Proofs.Plan.Insertion
import TwinStore.Proofs.Plan.Precedence
import TwinStore.Proofs.Plan.Repetition
import TwinStore.Proofs.Plan.Seeding
import TwinStore.Proofs.Plan.SystemFields
import TwinStore.Proofs.Postgres.Compilation
import TwinStore.Proofs.Postgres.Convergence
import TwinStore.Proofs.Postgres.Conversation
import TwinStore.Proofs.Postgres.Definition
import TwinStore.Proofs.Postgres.Exchange
import TwinStore.Proofs.Postgres.IndexHistory
import TwinStore.Proofs.Postgres.Interleaving
import TwinStore.Proofs.Postgres.Isolation
import TwinStore.Proofs.Postgres.Lifetime
import TwinStore.Proofs.Postgres.Operation
import TwinStore.Proofs.Postgres.Schema
import TwinStore.Proofs.Postgres.Search
import TwinStore.Proofs.Postgres.Sending
import TwinStore.Proofs.Postgres.Serializability
import TwinStore.Proofs.Postgres.Upsert
import TwinStore.Proofs.Postgres.Waiting
import TwinStore.Proofs.Predicate
import TwinStore.Proofs.Query.Agreement
import TwinStore.Proofs.Query.Conjunction
import TwinStore.Proofs.Query.IdNames
import TwinStore.Proofs.Query.Order
import TwinStore.Proofs.Query.Overlap
import TwinStore.Proofs.Query.Ranking
import TwinStore.Proofs.Query.Refusal
import TwinStore.Proofs.Query.Returning
import TwinStore.Proofs.Query.Window
import TwinStore.Proofs.Record
import TwinStore.Proofs.Record.Entries
import TwinStore.Proofs.Result
import TwinStore.Proofs.Sql.ArrayLiteral
import TwinStore.Proofs.Sql.Assignment
import TwinStore.Proofs.Sql.Binding
import TwinStore.Proofs.Sql.Clause
import TwinStore.Proofs.Sql.Computation
import TwinStore.Proofs.Sql.Condition
import TwinStore.Proofs.Sql.Draft
import TwinStore.Proofs.Sql.Effect
import TwinStore.Proofs.Sql.Expression
import TwinStore.Proofs.Sql.Formula
import TwinStore.Proofs.Sql.Harmless
import TwinStore.Proofs.Sql.IdNames
import TwinStore.Proofs.Sql.Independence
import TwinStore.Proofs.Sql.Insertion
import TwinStore.Proofs.Sql.Layout
import TwinStore.Proofs.Sql.Lexeme
import TwinStore.Proofs.Sql.Meaning
import TwinStore.Proofs.Sql.Naming
import TwinStore.Proofs.Sql.Order
import TwinStore.Proofs.Sql.Piece
import TwinStore.Proofs.Sql.Placeholder
import TwinStore.Proofs.Sql.Projection
import TwinStore.Proofs.Sql.Reference
import TwinStore.Proofs.Sql.Renumbering
import TwinStore.Proofs.Sql.Request
import TwinStore.Proofs.Sql.Selection
import TwinStore.Proofs.Sql.Snapshot
import TwinStore.Proofs.Store.Action
import TwinStore.Proofs.Store.Compilation
import TwinStore.Proofs.Store.Confinement
import TwinStore.Proofs.Store.Definition
import TwinStore.Proofs.Store.Fault
import TwinStore.Proofs.Store.IndexHistory
import TwinStore.Proofs.Store.Interruption
import TwinStore.Proofs.Store.Iteration
import TwinStore.Proofs.Store.Log
import TwinStore.Proofs.Store.Reading
import TwinStore.Proofs.Store.Stream
import TwinStore.Proofs.Store.Transaction
import TwinStore.Proofs.Store.Waiting
import TwinStore.Proofs.Text.Base64
import TwinStore.Proofs.Text.Mark
import TwinStore.Proofs.Text.Numeral
import TwinStore.Proofs.Text.Order
import TwinStore.Proofs.Text.Utf8
import TwinStore.Proofs.Update
import TwinStore.Proofs.Update.Extremum
import TwinStore.Proofs.Update.Retry
import TwinStore.Proofs.Value.Arithmetic
import TwinStore.Proofs.Value.Column
import TwinStore.Proofs.Value.Document
import TwinStore.Proofs.Value.Equality
import TwinStore.Proofs.Value.Equivalence
import TwinStore.Proofs.Value.Extraction
import TwinStore.Proofs.Value.Interchange
import TwinStore.Proofs.Value.Order
import TwinStore.Proofs.Value.Parts
import TwinStore.Proofs.Value.Rereading
import TwinStore.Proofs.Value.StoredEquality
import TwinStore.Proofs.Value.StoredOrder
import TwinStore.Proofs.Value.Tagged
import TwinStore.Query.FindQuery
import TwinStore.Query.Selection
import TwinStore.Record
import TwinStore.Schema.Table
import TwinStore.Sql.Assignment
import TwinStore.Sql.Clause
import TwinStore.Sql.Definition
import TwinStore.Sql.Draft
import TwinStore.Sql.Field
import TwinStore.Sql.Filter
import TwinStore.Sql.Generator
import TwinStore.Sql.Statement
import TwinStore.Sql.Token
import TwinStore.Store.Action
import TwinStore.Store.Backend
import TwinStore.Store.Connection
import TwinStore.Store.Recording
import TwinStore.Store.Verb
import TwinStore.StoreError
import TwinStore.Text.Base64
import TwinStore.Text.Blank
import TwinStore.Text.Digits
import TwinStore.Text.Hex
import TwinStore.Text.Word
import TwinStore.Toml.Basic
import TwinStore.Toml.Draft
import TwinStore.Toml.Reader
import TwinStore.Toml.Scalar
import TwinStore.Toml.Text
import TwinStore.Unsupported
import TwinStore.Update
import TwinStore.Value.Basic
import TwinStore.Value.Document
import TwinStore.Value.Json
import TwinStore.Value.Tagged
