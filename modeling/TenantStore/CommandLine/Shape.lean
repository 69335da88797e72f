import TenantStore.Engine
import TenantStore.LogLevel

namespace TenantStore.CommandLine

/-!
# The shape of the command line

Which commands there are, what options and arguments they take, and what is
said about them in the help. `tool` describes the options before a command,
`commands` the commands.
-/

/-- An option of a command. -/
structure OptionShape where
  /-- The name behind two dashes. -/
  long : String
  /-- The letter behind one dash. -/
  short : Option Char := none
  /-- What its value is called; a switch takes none. -/
  value : Option String := none
  about : String
  /-- Whether a text can be its value. -/
  accepts : String → Bool := fun _ => true

/-- An argument of a command, which is not optional. -/
structure ArgumentShape where
  name : String
  about : String

/-- A command. -/
structure CommandShape where
  name : String
  about : String
  /-- How options and arguments follow the name. -/
  synopsis : List String := []
  options : List OptionShape := []
  arguments : List ArgumentShape := []
  /-- The names of commands that may follow, with what is said about them. -/
  subcommands : List (String × String) := []

/-! ## Options -/

/-- The option that every command has. -/
def helpOption : OptionShape where
  long := "help"
  short := some 'h'
  about := "Print help"

/-- The option that prints the version. Only the tool itself has it. -/
def versionOption : OptionShape where
  long := "version"
  short := some 'V'
  about := "Print version"

/-- Whether a text names an engine. -/
def namesEngine (text : String) : Bool :=
  (Engine.parse text).isOk

/-- Whether a text names a log level. -/
def namesLevel (text : String) : Bool :=
  (LogLevel.parse text).isOk

/-- Whether a text can be a path. -/
def canBePath (text : String) : Bool :=
  !text.isEmpty

/-- Which file the configuration is read from. -/
def configOption : OptionShape where
  long := "config"
  short := some 'c'
  value := some "CONFIG"
  about := "TOML configuration file; environment variables are used when absent"
  accepts := canBePath

/-- Which folder holds the store. -/
def dataDirOption : OptionShape where
  long := "data-dir"
  short := some 'd'
  value := some "DATA_DIR"
  about := "Directory holding the store, overrides the configuration"
  accepts := canBePath

/-- Which engine keeps the store. -/
def engineOption : OptionShape where
  long := "engine"
  short := some 'e'
  value := some "ENGINE"
  about := "Store engine (jsonfile, sqlite), overrides the configuration"
  accepts := namesEngine

/-- From which level on there is a log. -/
def logLevelOption : OptionShape where
  long := "log-level"
  short := some 'l'
  value := some "LOG_LEVEL"
  about := "Set the log level (trace, debug, info, warn, error)"
  accepts := namesLevel

/-- The switch for logs in lines of JSON. -/
def jsonLogsOption : OptionShape where
  long := "json-logs"
  about := "Enable JSON formatted logging"

/-- Which engine a store is converted to. -/
def targetOption : OptionShape where
  long := "to"
  value := some "TO"
  about := "Target engine"
  accepts := namesEngine

/-- The installation of a new store. -/
def installationOption : OptionShape where
  long := "installation-id"
  value := some "INSTALLATION_ID"
  about := "Installation ID to record"

/-! ## Commands -/

/-- The command that shows what there is. -/
def inspectShape : CommandShape where
  name := "inspect"
  about := "Print engine, installation ID and entity counts"
  options := [helpOption]

/-- The command that shows an account. -/
def showAccountShape : CommandShape where
  name := "show-account"
  about := "Print one account as JSON"
  synopsis := ["<ID>"]
  options := [helpOption]
  arguments := [{ name := "<ID>", about := "Account ID" }]

/-- The command that copies a store to another engine. -/
def convertShape : CommandShape where
  name := "convert"
  about := "Copy the store into another engine in the same directory"
  synopsis := ["--to <TO>"]
  options := [targetOption, helpOption]

/-- The command that creates a store. -/
def initShape : CommandShape where
  name := "init"
  about := "Create an empty store"
  synopsis := ["[OPTIONS]"]
  options := [installationOption, helpOption]

/-- The command that prints the help of another one. -/
def helpShape : CommandShape where
  name := "help"
  about := "Print this message or the help of the given subcommand(s)"
  synopsis := ["[COMMAND]..."]
  arguments := [{
    name := "[COMMAND]..."
    about := "Print help for the subcommand(s)"
  }]

/-- The commands. -/
def commands : List CommandShape :=
  [inspectShape, showAccountShape, convertShape, initShape]

/-- The tool itself. -/
def tool : CommandShape where
  name := "meshplane"
  about := "Inspect and maintain meshplane account stores"
  synopsis := ["[OPTIONS]", "<COMMAND>"]
  options := [
    configOption, dataDirOption, engineOption, logLevelOption, jsonLogsOption,
    helpOption, versionOption]
  subcommands :=
    (commands ++ [helpShape]).map (fun shape => (shape.name, shape.about))

/-- The version of the tool. -/
def version : String :=
  "0.1.0"

end TenantStore.CommandLine
