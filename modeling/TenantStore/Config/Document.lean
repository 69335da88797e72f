import TenantStore.Config
import TenantStore.Toml.Fields
import TenantStore.Toml.Parser

namespace TenantStore

/-!
# The configuration file

The file is a TOML document with a table for each part of the configuration.
`Config.document?` writes one in which nothing but unset options is left out;
`Config.load` reads a file and checks what it says.
-/

/-! ## Reading -/

namespace StoreConfig

/-- The span that a value spells. -/
def spanOfToml? (toml : Toml) : Option Span :=
  toml.text?.bind Span.ofText?

/-- The configuration of a store that a table spells. Numbers of connections are not negative. -/
def ofToml? (toml : Toml) : Option StoreConfig := do
  let entries ← toml.fields? fieldNames
  let default : StoreConfig := {}
  some {
    engine := ←
      Toml.get entries "engine"
        (fun value => (value.variant? Engine.named).map some) default.engine
    dataDir := ← Toml.get entries "data_dir" Toml.text? default.dataDir
    maxOpenConns := ←
      Toml.get entries "max_open_conns"
        (fun value => value.nat?.map (fun number => some (UInt64.ofNat number)))
        default.maxOpenConns
    busyTimeout := ←
      Toml.get entries "busy_timeout" spanOfToml? default.busyTimeout
  }

end StoreConfig

namespace LoggingConfig

/-- The configuration of logging that a table spells. -/
def ofToml? (toml : Toml) : Option LoggingConfig := do
  let entries ← toml.fields? fieldNames
  let default : LoggingConfig := {}
  some {
    level := ← Toml.get entries "level" Toml.text? default.level
    jsonFormat := ← Toml.get entries "json_format" Toml.bool? default.jsonFormat
    withTarget := ← Toml.get entries "with_target" Toml.bool? default.withTarget
  }

end LoggingConfig

namespace MetricsConfig

/-- The configuration of the metrics that a table spells. -/
def ofToml? (toml : Toml) : Option MetricsConfig := do
  let entries ← toml.fields? fieldNames
  some { enabled := ← Toml.get entries "enabled" Toml.bool? true }

end MetricsConfig

namespace Config

/-- The configuration that a document spells. -/
def ofDocument? (document : String) : Option Config := do
  let entries ← Toml.parse? document
  some {
    store := ← Toml.get entries "store" StoreConfig.ofToml? {}
    logging := ← Toml.get entries "logging" LoggingConfig.ofToml? {}
    metrics := ← Toml.get entries "metrics" MetricsConfig.ofToml? {}
  }

/-- Read a file and check what it says. -/
def load (files : Files) (path : FilePath) : Except ConfigProblem Config := do
  let bytes ←
    match files.read path with
    | .ok bytes => .ok bytes
    | .error _ => .error .unreadable
  let document ←
    match String.fromUTF8? bytes with
    | some document => .ok document
    | none => .error .unreadable
  match ofDocument? document with
  | some config => config.validated
  | none => .error .malformed

/-! ## Writing -/

/-- A line of a document. -/
def writeLine (key value : String) : String :=
  key ++ " = " ++ value ++ "\n"

/-- A truth value. -/
def writeFlag (value : Bool) : String :=
  if value then "true" else "false"

/-- A natural number, if it fits a signed one of 64 bits. -/
def writeNumber? (number : UInt64) : Option String :=
  if number.toNat < 0x8000000000000000 then some (Text.showNat number.toNat) else none

/-- The line of an option, which is left out when it is unset. -/
def writeOption? (key : String) (write : α → Option String) :
    Option α → Option String
  | none => some ""
  | some value => (write value).map (writeLine key)

/-- The document of a configuration, unless it holds too large a number. -/
def document? (config : Config) : Option String := do
  let engine ←
    writeOption? "engine" (fun engine => some (Toml.writeText engine.name))
      config.store.engine
  let connections ←
    writeOption? "max_open_conns" writeNumber? config.store.maxOpenConns
  some (String.join [
    "[store]\n",
    engine,
    writeLine "data_dir" (Toml.writeText config.store.dataDir),
    connections,
    writeLine "busy_timeout" (Toml.writeText config.store.busyTimeout.text),
    "\n[logging]\n",
    writeLine "level" (Toml.writeText config.logging.level),
    writeLine "json_format" (writeFlag config.logging.jsonFormat),
    writeLine "with_target" (writeFlag config.logging.withTarget),
    "\n[metrics]\n",
    writeLine "enabled" (writeFlag config.metrics.enabled)])

/-- Write a configuration to a file. -/
def save (files : Files) (path : FilePath) (config : Config) :
    Except ConfigProblem Files :=
  match config.document? with
  | none => .error .unserializable
  | some document =>
      match files.write path document.toUTF8 with
      | .ok files => .ok files
      | .error _ => .error .unwritable

end Config

end TenantStore
