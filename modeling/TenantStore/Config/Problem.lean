import TenantStore.LogLevel
import TenantStore.Problem

namespace TenantStore

/-!
# Problems with the configuration

Why a configuration cannot be read, written or used. As with the problems of
stores, causes are kept and `ConfigProblem.message` words them.
-/

namespace ConfigProblem

/-- The kinds of problems. -/
inductive Kind where
  | unreadable
  | unwritable
  | malformed
  | unserializable
  | invalidValue
  | invalid
  deriving Repr, DecidableEq

namespace Kind

/-- How the messages of a kind begin. -/
def heading : Kind → String
  | .unreadable => "Failed to read configuration file"
  | .unwritable => "Failed to write configuration file"
  | .malformed => "Failed to parse configuration"
  | .unserializable => "Failed to serialize configuration"
  | .invalidValue => "Invalid configuration value"
  | .invalid => "Configuration validation failed"

/-- The name of a kind. -/
def name : Kind → String
  | .unreadable => "FileReadError"
  | .unwritable => "FileWriteError"
  | .malformed => "ParseError"
  | .unserializable => "SerializeError"
  | .invalidValue => "InvalidValue"
  | .invalid => "ValidationFailed"

/-- The message of a kind with a detail. -/
def describe (kind : Kind) (detail : String) : String :=
  kind.heading ++ ": " ++ detail

end Kind

/-- Why a text is no natural number. -/
inductive NumberFault where
  | empty
  | strangeDigit
  | tooLarge
  deriving Repr, DecidableEq

/-- The wording of a fault. -/
def NumberFault.text : NumberFault → String
  | .empty => "cannot parse integer from empty string"
  | .strangeDigit => "invalid digit found in string"
  | .tooLarge => "number too large to fit in target type"

end ConfigProblem

/-- Why a configuration cannot be read, written or used. -/
inductive ConfigProblem where
  | unreadable
  | unwritable
  | malformed
  | unserializable
  | unknownEngine (problem : Problem)
  | badConnections (fault : ConfigProblem.NumberFault)
  | badTimeout
  | unknownLevel (unknown : LogLevel.Unknown)
  | badJsonFlag
  | badMetricsFlag
  | emptyDataDir
  | noConnections
  | unsupportedLevel (name : String)
  deriving Repr, DecidableEq

namespace ConfigProblem

/-- The kind of a problem. -/
def kind : ConfigProblem → Kind
  | .unreadable => .unreadable
  | .unwritable => .unwritable
  | .malformed => .malformed
  | .unserializable => .unserializable
  | .unknownEngine _ => .invalidValue
  | .badConnections _ => .invalidValue
  | .badTimeout => .invalidValue
  | .unknownLevel _ => .invalidValue
  | .badJsonFlag => .invalidValue
  | .badMetricsFlag => .invalidValue
  | .emptyDataDir => .invalid
  | .noConnections => .invalid
  | .unsupportedLevel _ => .invalid

/-- What is said about a text that is no truth value. -/
def flagFault : String :=
  "provided string was not `true` or `false`"

/-- What a message says behind its heading, if anything. -/
def detail? : ConfigProblem → Option String
  | .unreadable => none
  | .unwritable => none
  | .malformed => none
  | .unserializable => none
  | .unknownEngine problem => some ("Invalid store engine: " ++ problem.message)
  | .badConnections fault =>
      some ("Invalid max open connections: " ++ fault.text)
  | .badTimeout => some "Invalid busy timeout"
  | .unknownLevel unknown => some unknown.message
  | .badJsonFlag => some ("Invalid JSON flag: " ++ flagFault)
  | .badMetricsFlag => some ("Invalid metrics flag: " ++ flagFault)
  | .emptyDataDir => some "data_dir must not be empty"
  | .noConnections => some "max_open_conns must be greater than 0"
  | .unsupportedLevel name => some ("Invalid log level: " ++ name)

/-- The message of a problem. -/
def message (problem : ConfigProblem) : String :=
  match problem.detail? with
  | none => problem.kind.heading
  | some detail => problem.kind.describe detail

end ConfigProblem

end TenantStore
