/-
**Configurations.** Which store is used, where its server is, and how many connections are kept.

* `Config.check` names the first fault of a configuration.
* `Config.connectionString` is the address that a client is given.
-/

import TwinStore.Text.Digits

namespace TwinStore

/-- Why a configuration is not valid. -/
inductive ConfigFault where
  | emptyHost
  | zeroPort
  | emptyDatabase
  | zeroMaximum
  | minimumAboveMaximum
  | zeroTimeout
  | emptyUsername
  | zeroMinimum
  | passwordWithoutUsername
  /-- No configuration file is named and there is none in the usual place. -/
  | noLocation
  deriving DecidableEq

def ConfigFault.reason : ConfigFault → String
  | emptyHost => "Database host cannot be empty"
  | zeroPort => "Database port cannot be zero"
  | emptyDatabase => "Database name cannot be empty"
  | zeroMaximum => "Database max_connections must be greater than 0"
  | minimumAboveMaximum => "Database min_connections cannot be greater than max_connections"
  | zeroTimeout => "Database connection_timeout_seconds must be greater than 0"
  | emptyUsername => "Database username cannot be empty"
  | zeroMinimum => "Database min_connections must be greater than 0"
  | passwordWithoutUsername => "Mongo password given without a username"
  | noLocation =>
    "Config path must be specified in .env file as POLYDB_CONFIG or in ./polydb.toml file"

/-- Why there is no configuration. -/
inductive ConfigError where
  /-- The file cannot be read. -/
  | unreadable
  /-- The text is no configuration. -/
  | malformed
  | invalid (fault : ConfigFault)
  deriving DecidableEq

def ConfigError.message : ConfigError → String
  | unreadable => "IO error: the file cannot be read"
  | malformed => "TOML parsing error: the text is no configuration"
  | invalid fault => "Invalid configuration: " ++ fault.reason

/-- What every server's configuration has; the timeout is in seconds. -/
structure Endpoint where
  host : String
  port : UInt16
  database : String
  minConnections : UInt32
  maxConnections : UInt32
  connectionTimeout : UInt64
  deriving DecidableEq

/-- The configuration of a PostgreSQL server; idle timeout and lifetime are in seconds. -/
structure PostgresConfig extends Endpoint where
  username : String
  password : String
  idleTimeout : UInt64
  maxLifetime : UInt64
  deriving DecidableEq

/-- The configuration of a MongoDB server; the source is the database that holds the credentials. -/
structure MongoConfig extends Endpoint where
  username : Option String
  password : Option String
  authSource : Option String
  deriving DecidableEq

/-- The configuration of a store. -/
inductive Config where
  | postgres (settings : PostgresConfig)
  | mongo (settings : MongoConfig)
  deriving DecidableEq

/-! ### Validity -/

/-- Fails with a fault if there is one. -/
def ConfigFault.reject (fault : ConfigFault) (present : Bool) : Except ConfigFault Unit :=
  if present then .error fault else .ok ()

/-- The first fault that any server's configuration may have. -/
def Endpoint.check (endpoint : Endpoint) : Except ConfigFault Unit := do
  ConfigFault.emptyHost.reject endpoint.host.isEmpty
  ConfigFault.zeroPort.reject (endpoint.port == 0)
  ConfigFault.emptyDatabase.reject endpoint.database.isEmpty
  ConfigFault.zeroMaximum.reject (endpoint.maxConnections == 0)
  ConfigFault.minimumAboveMaximum.reject (endpoint.maxConnections < endpoint.minConnections)
  ConfigFault.zeroTimeout.reject (endpoint.connectionTimeout == 0)

/-- The first fault of a PostgreSQL configuration. -/
def PostgresConfig.check (settings : PostgresConfig) : Except ConfigFault Unit := do
  settings.toEndpoint.check
  ConfigFault.emptyUsername.reject settings.username.isEmpty
  ConfigFault.zeroMinimum.reject (settings.minConnections == 0)

/-- The first fault of a MongoDB configuration. -/
def MongoConfig.check (settings : MongoConfig) : Except ConfigFault Unit := do
  settings.toEndpoint.check
  ConfigFault.passwordWithoutUsername.reject
    (settings.password.isSome && settings.username.isNone)

namespace Config

/-- The first fault of a configuration. -/
def check : Config → Except ConfigFault Unit
  | postgres settings => settings.check
  | mongo settings => settings.check

/-- The configuration itself, if it has no fault. -/
def validated (config : Config) : Except ConfigError Config :=
  (config.check.mapError .invalid).map fun _ => config

/-- What every server's configuration has. -/
def endpoint : Config → Endpoint
  | postgres settings => settings.toEndpoint
  | mongo settings => settings.toEndpoint

end Config

/-! ### Addresses -/

/-- The host and the port behind it. -/
def Endpoint.address (endpoint : Endpoint) : String :=
  endpoint.host ++ ":" ++ String.ofList (Digits.ofNat endpoint.port.toNat)

/-- The address of a PostgreSQL server with credentials and database. -/
def PostgresConfig.connectionString (settings : PostgresConfig) : String :=
  "postgresql://" ++ settings.username ++ ":" ++ settings.password ++ "@" ++ settings.address ++
    "/" ++ settings.database

/-- The credentials in an address; a password counts only behind a name. -/
def MongoConfig.credentials (settings : MongoConfig) : String :=
  match settings.username, settings.password with
  | some username, some password => username ++ ":" ++ password ++ "@"
  | some username, none => username ++ "@"
  | none, _ => ""

/-- The address of a MongoDB server; it names the source of the credentials but no database. -/
def MongoConfig.connectionString (settings : MongoConfig) : String :=
  let source := (settings.authSource.map ("?authSource=" ++ ·)).getD ""
  "mongodb://" ++ settings.credentials ++ settings.address ++ "/" ++ source

/-- The address that a client is given. -/
def Config.connectionString : Config → String
  | .postgres settings => settings.connectionString
  | .mongo settings => settings.connectionString

end TwinStore
