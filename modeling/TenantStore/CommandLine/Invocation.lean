import TenantStore.CommandLine.Reading
import TenantStore.Files

namespace TenantStore.CommandLine

/-!
# Invocations

What a command line asks for: one of four commands, with options that override
the configuration.
-/

/-- A command. -/
inductive Command where
  /-- Print engine, installation and numbers of entities. -/
  | inspect
  /-- Print one account. -/
  | showAccount (id : String)
  /-- Copy the store into the other engine. -/
  | convert (target : Engine)
  /-- Create an empty store. -/
  | init (installation : Option String)
  deriving Repr, DecidableEq

/-- What a command line asks for. -/
structure Invocation where
  command : Command
  config : Option FilePath := none
  dataDir : Option FilePath := none
  engine : Option Engine := none
  logLevel : Option LogLevel := none
  jsonLogs : Bool := false
  deriving Repr, DecidableEq

namespace Invocation

/-- The engine that an option names. -/
def engineOf? (reading : Reading) (option : OptionShape) : Option Engine :=
  (reading.value? option).bind (fun text => (Engine.parse text).toOption)

/-- The log level that an option names. -/
def levelOf? (reading : Reading) (option : OptionShape) : Option LogLevel :=
  (reading.value? option).bind (fun text => (LogLevel.parse text).toOption)

/-- A value that must have been given. -/
def required : Option α → Except Stop α
  | some value => .ok value
  | none => .error .misuse

/-- The words behind a command, read by its shape. -/
def readCommand (shape : CommandShape) (words : List String) : Except Stop Reading := do
  let reading ← (commandContext shape).readWords {} words
  reading.settle

/-- The help that is asked for by the names of commands. -/
def helpFor : List String → Stop
  | [] => .shown (helpText [tool.name] tool)
  | [name] =>
      match (commands ++ [helpShape]).find? (fun shape => shape.name = name) with
      | some shape => .shown (helpText [tool.name, name] shape)
      | none => .misuse
  | _ => .misuse

/-- The command of a name and the words behind it. -/
def commandOf (name : String) (words : List String) : Except Stop Command :=
  match name with
  | "inspect" => do
      let _ ← readCommand inspectShape words
      .ok .inspect
  | "show-account" => do
      let reading ← readCommand showAccountShape words
      let id ← required reading.arguments.head?
      .ok (.showAccount id)
  | "convert" => do
      let reading ← readCommand convertShape words
      let target ← required (engineOf? reading targetOption)
      .ok (.convert target)
  | "init" => do
      let reading ← readCommand initShape words
      .ok (.init (reading.value? installationOption))
  | "help" => .error (helpFor words)
  | _ => .error .misuse

/-- What the words of a command line ask for. -/
def ofWords (words : List String) : Except Stop Invocation := do
  let reading ← toolContext.readWords {} words
  let (name, rest) ← required reading.command
  let command ← commandOf name rest
  let reading ← reading.settle
  .ok {
    command := command
    config := reading.value? configOption
    dataDir := reading.value? dataDirOption
    engine := engineOf? reading engineOption
    logLevel := levelOf? reading logLevelOption
    jsonLogs := reading.has jsonLogsOption
  }

end Invocation

end TenantStore.CommandLine
