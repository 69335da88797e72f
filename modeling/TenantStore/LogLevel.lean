import TenantStore.Json.Fields
import TenantStore.Text.Case

namespace TenantStore

/-!
# Log levels

How severe a log record must be to be shown, and how logging is set up.
-/

/-- How severe a log record is, from the least severe on. -/
inductive LogLevel where
  | trace
  | debug
  | info
  | warn
  | error
  deriving Repr, DecidableEq

namespace LogLevel

/-- The name of a level. -/
def name : LogLevel → String
  | .trace => "trace"
  | .debug => "debug"
  | .info => "info"
  | .warn => "warn"
  | .error => "error"

/-- The levels under their names. -/
def named : List (String × LogLevel) :=
  [("trace", .trace), ("debug", .debug), ("info", .info), ("warn", .warn),
    ("error", .error)]

/-- Severity as a number. -/
def severity : LogLevel → Nat
  | .trace => 0
  | .debug => 1
  | .info => 2
  | .warn => 3
  | .error => 4

/-- Whether a level is more severe than another one. -/
def isAbove (level other : LogLevel) : Bool :=
  other.severity < level.severity

/-- Whether a log that begins at a level shows records of another one. -/
def admits (least level : LogLevel) : Bool :=
  !least.isAbove level

/-- A name that no level has. -/
structure Unknown where
  name : String
  deriving Repr, DecidableEq

/-- Why a name is no level. -/
def Unknown.message (unknown : Unknown) : String :=
  "unknown log level '" ++ unknown.name ++ "'"

/-- The level that a person names, in any case. -/
def parse (text : String) : Except Unknown LogLevel :=
  match Text.lowerCase text with
  | "trace" => .ok .trace
  | "debug" => .ok .debug
  | "info" => .ok .info
  | "warn" => .ok .warn
  | "warning" => .ok .warn
  | "error" => .ok .error
  | other => .error ⟨other⟩

/-- Which records are shown: those of this program from the level on. -/
def filterText (level : LogLevel) : String :=
  "warn,meshplane_core=" ++ level.name ++ ",meshplane=" ++ level.name

/-- A level is written as its name. -/
def toJson (level : LogLevel) : Json :=
  .text level.name

/-- The level that a document spells. -/
def ofJson? : Json → Option LogLevel :=
  Json.variant? named

end LogLevel

/-- How logging is set up. -/
structure LogSetup where
  level : LogLevel
  /-- Whether records name the module that they come from. -/
  withTarget : Bool := true
  jsonFormat : Bool := false
  deriving Repr, DecidableEq

namespace LogSetup

/-- Where the records of a process go: to the first setup that was installed. -/
abbrev Installed := Option LogSetup

/-- How the message about a setup that cannot be installed begins. -/
def failureHeading : String :=
  "Failed to initialize logging"

/-- Install a setup; only the first one can be installed. -/
def install (setup : LogSetup) : Installed → Option Installed
  | none => some (some setup)
  | some _ => none

end LogSetup

end TenantStore
