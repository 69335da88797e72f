import TenantStore.Account.Settings
import TenantStore.Config.Problem
import TenantStore.Engine
import TenantStore.Store.Choice

namespace TenantStore

/-!
# Configuration

What a person can set: where the store is and how it is opened, how logging is
set up, and whether metrics are recorded. Settings come from a file
(`Config.Document`) or from the environment (`Config.ofEnvironment`), and
either way `Config.validate` checks them.
-/

/-- How long a connection waits for a locked database unless told otherwise. -/
def defaultBusyTimeout : Span :=
  .ofSeconds 5

/-- How the store is opened. -/
structure StoreConfig where
  /-- The engine; found out when unset. -/
  engine : Option Engine := none
  dataDir : FilePath := "./data"
  /-- How many connections to a database may be open; decided when unset. -/
  maxOpenConns : Option UInt64 := none
  /-- How long a connection waits for a locked database. -/
  busyTimeout : Span := defaultBusyTimeout
  deriving Repr, DecidableEq

/-- How logging is set up. -/
structure LoggingConfig where
  level : String := "info"
  jsonFormat : Bool := false
  withTarget : Bool := true
  deriving Repr, DecidableEq

/-- Whether metrics are recorded. -/
structure MetricsConfig where
  enabled : Bool := true
  deriving Repr, DecidableEq

/-- What a person can set. -/
structure Config where
  store : StoreConfig := {}
  logging : LoggingConfig := {}
  metrics : MetricsConfig := {}
  deriving Repr, DecidableEq

namespace StoreConfig

/-- The fields in the order of declaration. -/
def fieldNames : List String :=
  ["engine", "data_dir", "max_open_conns", "busy_timeout"]

/-- The configuration of the store with all its fields, unset ones as null. -/
def toJson (config : StoreConfig) : Json :=
  .record [
    ("engine", .ofOption Engine.toJson config.engine),
    ("data_dir", .text config.dataDir),
    ("max_open_conns",
      .ofOption (fun number => .nat number.toNat) config.maxOpenConns),
    ("busy_timeout", config.busyTimeout.toJson)
  ]

/-- The configuration of a store that a document spells, with defaults for what it leaves out. -/
def ofJson? (json : Json) : Option StoreConfig := do
  let fields ← json.fields? fieldNames
  let default : StoreConfig := {}
  some {
    engine := ← fields.get "engine" (Json.option? Engine.ofJson?) default.engine
    dataDir := ← fields.get "data_dir" Json.text? default.dataDir
    maxOpenConns := ←
      fields.get "max_open_conns" (Json.option? Json.uint64?)
        default.maxOpenConns
    busyTimeout := ←
      fields.get "busy_timeout" Span.ofJson? default.busyTimeout
  }

end StoreConfig

namespace LoggingConfig

/-- The fields in the order of declaration. -/
def fieldNames : List String :=
  ["level", "json_format", "with_target"]

/-- The configuration of logging with all its fields. -/
def toJson (config : LoggingConfig) : Json :=
  .record [
    ("level", .text config.level),
    ("json_format", .bool config.jsonFormat),
    ("with_target", .bool config.withTarget)
  ]

/-- The configuration of logging that a document spells. The level may be any text: it is checked
later. -/
def ofJson? (json : Json) : Option LoggingConfig := do
  let fields ← json.fields? fieldNames
  let default : LoggingConfig := {}
  some {
    level := ← fields.get "level" Json.text? default.level
    jsonFormat := ← fields.get "json_format" Json.bool? default.jsonFormat
    withTarget := ← fields.get "with_target" Json.bool? default.withTarget
  }

/-- The setup that the configuration asks for. -/
def setup (config : LoggingConfig) : Except ConfigProblem LogSetup :=
  match LogLevel.parse config.level with
  | .ok level =>
      .ok {
        level := level
        withTarget := config.withTarget
        jsonFormat := config.jsonFormat
      }
  | .error unknown => .error (.unknownLevel unknown)

end LoggingConfig

namespace MetricsConfig

/-- The fields in the order of declaration. -/
def fieldNames : List String :=
  ["enabled"]

/-- The configuration of the metrics is their switch. -/
def toJson (config : MetricsConfig) : Json :=
  .record [("enabled", .bool config.enabled)]

/-- The switch of the metrics, which are enabled unless a document says otherwise. -/
def ofJson? (json : Json) : Option MetricsConfig := do
  let fields ← json.fields? fieldNames
  some { enabled := ← fields.get "enabled" Json.bool? true }

end MetricsConfig

namespace Config

/-- The fields in the order of declaration. -/
def fieldNames : List String :=
  ["store", "logging", "metrics"]

/-- A configuration with its three parts. -/
def toJson (config : Config) : Json :=
  .record [
    ("store", config.store.toJson),
    ("logging", config.logging.toJson),
    ("metrics", config.metrics.toJson)
  ]

/-- The configuration that a document spells, with defaults for the parts that it leaves out. -/
def ofJson? (json : Json) : Option Config := do
  let fields ← json.fields? fieldNames
  some {
    store := ← fields.get "store" StoreConfig.ofJson? {}
    logging := ← fields.get "logging" LoggingConfig.ofJson? {}
    metrics := ← fields.get "metrics" MetricsConfig.ofJson? {}
  }

/-- Whether a configuration can be used; if not, what is wrong with it first. -/
def validate (config : Config) : Except ConfigProblem Unit :=
  if config.store.dataDir.isEmpty then
    .error .emptyDataDir
  else if config.store.maxOpenConns = some 0 then
    .error .noConnections
  else if (LogLevel.named.lookup config.logging.level).isNone then
    .error (.unsupportedLevel config.logging.level)
  else
    .ok ()

/-- A configuration that can be used. -/
def validated (config : Config) : Except ConfigProblem Config :=
  config.validate.map (fun _ => config)

/-! ## The environment -/

/-- Environment variables. -/
abbrev Environment := List (String × String)

/-- The variables that count. -/
def variableNames : List String := [
  Store.engineVariable, "MESHPLANE_STORE_DATA_DIR",
  "MESHPLANE_STORE_MAX_OPEN_CONNS", "MESHPLANE_STORE_BUSY_TIMEOUT",
  "MESHPLANE_LOG_LEVEL", "MESHPLANE_LOG_JSON", "MESHPLANE_METRICS_ENABLED"]

/-- One more digit of a number of 64 bits. -/
def addDigit (number : Nat) (char : Char) : Except ConfigProblem.NumberFault Nat :=
  if char.isDigit then
    let longer := number * 10 + (char.toNat - '0'.toNat)
    if longer < UInt64.size then .ok longer else .error .tooLarge
  else
    .error .strangeDigit

/-- The number of 64 bits that a text spells, perhaps after a plus sign. -/
def parseNumber (text : String) : Except ConfigProblem.NumberFault UInt64 :=
  let digits :=
    match text.toList with
    | '+' :: rest => if rest.isEmpty then ['+'] else rest
    | chars => chars
  if digits.isEmpty then
    .error .empty
  else
    (digits.foldlM addDigit 0).map UInt64.ofNat

/-- The truth value that a text spells. -/
def parseFlag? : String → Option Bool
  | "true" => some true
  | "false" => some false
  | _ => none

/-- Take a variable into account, if it is set. -/
def override
    (environment : Environment)
    (variableName : String)
    (change : String → Config → Except ConfigProblem Config)
    (config : Config) :
    Except ConfigProblem Config :=
  match environment.lookup variableName with
  | none => .ok config
  | some text => change text config

/-- Choose an engine by its name, as a person would write it. -/
def setEngine (text : String) (config : Config) : Except ConfigProblem Config :=
  match Engine.parse text with
  | .ok engine =>
      .ok { config with store := { config.store with engine := some engine } }
  | .error problem => .error (.unknownEngine problem)

/-- Choose the directory. An empty one is set too, and refused when the whole is validated. -/
def setDataDir (text : String) (config : Config) : Except ConfigProblem Config :=
  .ok { config with store := { config.store with dataDir := text } }

/-- Set the number of connections. Zero is set too, and refused when the whole is validated. -/
def setConnections (text : String) (config : Config) : Except ConfigProblem Config :=
  match parseNumber text with
  | .ok number =>
      .ok { config with
        store := { config.store with maxOpenConns := some number } }
  | .error fault => .error (.badConnections fault)

/-- Set the time to wait for a busy database. -/
def setTimeout (text : String) (config : Config) : Except ConfigProblem Config :=
  match Span.ofText? text with
  | some span =>
      .ok { config with store := { config.store with busyTimeout := span } }
  | none => .error .badTimeout

/-- Set the level, which is only looked up when the whole is validated. -/
def setLevel (text : String) (config : Config) : Except ConfigProblem Config :=
  .ok { config with logging := { config.logging with level := text } }

/-- Switch between lines of text and lines of JSON. -/
def setJsonFormat (text : String) (config : Config) : Except ConfigProblem Config :=
  match parseFlag? text with
  | some flag =>
      .ok { config with logging := { config.logging with jsonFormat := flag } }
  | none => .error .badJsonFlag

/-- Switch the metrics. -/
def setMetrics (text : String) (config : Config) : Except ConfigProblem Config :=
  match parseFlag? text with
  | some flag => .ok { config with metrics := { enabled := flag } }
  | none => .error .badMetricsFlag

/-- The configuration that the environment describes. -/
def ofEnvironment (environment : Environment) : Except ConfigProblem Config := do
  let config ← override environment Store.engineVariable setEngine {}
  let config ← override environment "MESHPLANE_STORE_DATA_DIR" setDataDir config
  let config ←
    override environment "MESHPLANE_STORE_MAX_OPEN_CONNS" setConnections config
  let config ←
    override environment "MESHPLANE_STORE_BUSY_TIMEOUT" setTimeout config
  let config ← override environment "MESHPLANE_LOG_LEVEL" setLevel config
  let config ← override environment "MESHPLANE_LOG_JSON" setJsonFormat config
  let config ← override environment "MESHPLANE_METRICS_ENABLED" setMetrics config
  config.validated

end Config

end TenantStore
