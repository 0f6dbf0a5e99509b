/-
**Configuration texts.** The table `database` of a TOML document: its entry `backend` says which
server's settings the other entries are. The settings may also stand in a list, the backend first
and each setting in its place.

* `Config.ofToml?` reads the settings of a document, `Config.ofText` a valid configuration.
-/

import TwinStore.Config.Basic
import TwinStore.Toml.Reader

namespace TwinStore.Config

/-! ### Settings -/

def text? (settings : Toml) (key : String) : Option String :=
  (settings.field? key).bind Toml.text?

/-- A setting that may be missing, and is a text if it is not. -/
def optionalText? (settings : Toml) (key : String) : Option (Option String) :=
  match settings.field? key with
  | none => some none
  | some setting => setting.text?.map some

/-- A setting that is a number below a bound. -/
def number? (settings : Toml) (key : String) (bound : Nat) : Option Nat := do
  let value ← (settings.field? key).bind Toml.integer?
  if 0 ≤ value ∧ value < bound then return value.toNat else none

/-- A setting that is a number of seconds. -/
def seconds? (settings : Toml) (key : String) : Option UInt64 :=
  (number? settings key (2 ^ 64)).map UInt64.ofNat

/-- A setting that is a number of connections. -/
def connections? (settings : Toml) (key : String) : Option UInt32 :=
  (number? settings key (2 ^ 32)).map UInt32.ofNat

/-- The settings that every server has. -/
def endpoint? (settings : Toml) : Option Endpoint := do
  return {
    host := ← text? settings "host"
    port := UInt16.ofNat (← number? settings "port" (2 ^ 16))
    database := ← text? settings "database"
    minConnections := ← connections? settings "min_connections"
    maxConnections := ← connections? settings "max_connections"
    connectionTimeout := ← seconds? settings "connection_timeout_seconds" }

/-- The settings of a PostgreSQL server. -/
def postgres? (settings : Toml) : Option PostgresConfig := do
  return {
    toEndpoint := ← endpoint? settings
    username := ← text? settings "username"
    password := ← text? settings "password"
    idleTimeout := ← seconds? settings "idle_timeout_seconds"
    maxLifetime := ← seconds? settings "max_lifetime_seconds" }

/-- The settings of a MongoDB server. -/
def mongo? (settings : Toml) : Option MongoConfig := do
  return {
    toEndpoint := ← endpoint? settings
    username := ← optionalText? settings "username"
    password := ← optionalText? settings "password"
    authSource := ← optionalText? settings "auth_source" }

/-- The configuration that settings make for a backend. -/
def ofSettings? (backend : String) (settings : Toml) : Option Config :=
  if backend = "postgres" then (postgres? settings).map .postgres
  else if backend = "mongo" then (mongo? settings).map .mongo
  else none

/-! ### Settings in a list -/

/-- The places of a backend's settings in a list. -/
def places (backend : String) : List String :=
  if backend = "postgres" then
    ["host", "port", "database", "username", "password", "min_connections", "max_connections",
      "connection_timeout_seconds", "idle_timeout_seconds", "max_lifetime_seconds"]
  else
    ["host", "port", "database", "username", "password", "auth_source", "min_connections",
      "max_connections", "connection_timeout_seconds"]

/-- The configuration of a list: every setting in its place and nothing behind the last one. -/
def ofList? : List Toml → Option Config
  | .text backend :: items =>
    let keys := places backend
    if items.length = keys.length then
      ofSettings? backend (.table (Fields.ofEntries (keys.zip items)))
    else none
  | _ => none

/-! ### Documents -/

/-- The configuration of a document, valid or not. Beside the settings a document may hold anything,
but no integer among them may need more than sixty-four bits. -/
def ofToml? (document : Toml) : Option Config := do
  match ← (document.field? "database").filter Toml.fitsWords with
  | .list items => ofList? items
  | settings => ofSettings? (← text? settings "backend") settings

/-- The configuration of a text. -/
def ofText (source : String) : Except ConfigError Config :=
  match (Toml.ofText? source).bind ofToml? with
  | none => .error .malformed
  | some config => config.validated

end TwinStore.Config
