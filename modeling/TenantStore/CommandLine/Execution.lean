import TenantStore.CommandLine.Invocation
import TenantStore.Config.Document
import TenantStore.Json.Printer
import TenantStore.Store.Conversion

namespace TenantStore.CommandLine

/-!
# Carrying out invocations

`run` carries out a command line on a host: it changes the files there, and
says what is printed and with which code the tool ends. What a command tells the
operator on the way stands in the log, which is printed before its output.
-/

/-- Why an invocation failed. -/
structure Failure where
  message : String
  /-- What was the matter, if the message only says what was being done. -/
  cause : Option String := none
  deriving Repr, DecidableEq

namespace Failure

/-- A failure that is told as it is. -/
def ofProblem (problem : Problem) : Failure where
  message := problem.message

/-- A failure while something was being done. -/
def whileDoing (activity cause : String) : Failure where
  message := activity
  cause := some cause

/-- A text in which blanks stand before every line. -/
def indented (text : String) : String :=
  "\n".intercalate
    ((text.splitOn "\n").map (fun line => "    " ++ line))

/-- What is printed about a failure. -/
def text (failure : Failure) : String :=
  match failure.cause with
  | none => "Error: " ++ failure.message ++ "\n"
  | some cause =>
      "Error: " ++ failure.message ++ "\n\nCaused by:\n" ++ indented cause ++ "\n"

end Failure

/-- A piece of work on a host. -/
abbrev Task := ExceptT Failure (StateM Host)

namespace Task

/-- The value of an attempt, whose problem is the failure of the task. -/
def ofAttempt (describe : ε → Failure) : Except ε α → Task α
  | .ok value => pure value
  | .error problem => throw (describe problem)

/-- Tell the operator something. -/
def tell (notice : Notice) : Task Unit :=
  modify (fun host => host.notify [notice])

/-- Set up logging, which can be done only once. -/
def setUpLogging (setup : LogSetup) : Task Unit := do
  match setup.install (← get).logging with
  | some installed => modify (fun host => { host with logging := installed })
  | none => throw { message := LogSetup.failureHeading }

/-- Open a store. -/
def openStore (describe : Problem → Failure) (opens : Host → Store.Opening) :
    Task Store := do
  let opening := opens (← get)
  set opening.host
  ofAttempt describe opening.store

/-- Carry out a call on a store. -/
def perform (describe : Problem → Failure) (store : Store) (call : Call) :
    Task (Store × Answer) := do
  let reply := store.perform (← get) call
  set reply.host
  let answer ← ofAttempt describe reply.outcome
  pure (reply.store, answer)

/-- The accounts of a store. -/
def accounts (store : Store) : Task (List Account) := do
  ofAttempt .ofProblem (store.accounts (← get))

/-- The identifier of a store's installation. -/
def installation (store : Store) : Task String := do
  ofAttempt .ofProblem (store.installation (← get))

end Task

/-! ## Commands -/

/-- What commands work with. -/
structure Setting where
  store : StoreConfig
  /-- The engine that the environment names. -/
  engineName : Option String

namespace Setting

/-- What is said when the store cannot be opened. -/
def openFailure (setting : Setting) (problem : Problem) : Failure :=
  .whileDoing ("failed to open store in " ++ setting.store.dataDir) problem.message

/-- Open the store of the engine to use. -/
def openStore (setting : Setting) : Task Store :=
  Task.openStore setting.openFailure (fun host =>
    Store.openChosen host setting.store.engine setting.engineName
      setting.store.dataDir (setting.store.maxOpenConns.map UInt64.toNat))

/-- What `inspect` prints. -/
def summary (engine : Engine) (installation : String) (accounts : List Account) :
    Json :=
  .record [
    ("engine", engine.toJson),
    ("installation_id", .text installation),
    ("accounts", .nat accounts.length),
    ("peers", .nat ((accounts.map (·.peers.size)).foldr (· + ·) 0)),
    ("users", .nat ((accounts.map (·.users.size)).foldr (· + ·) 0))
  ]

/-- Say what a store holds. -/
def inspect (setting : Setting) : Task String := do
  let store ← setting.openStore
  let accounts ← Task.accounts store
  let installation ← Task.installation store
  pure ((summary store.engine installation accounts).prettyText ++ "\n")

/-- Print an account. -/
def showAccount (setting : Setting) (id : String) : Task String := do
  let store ← setting.openStore
  let describe := fun problem : Problem =>
    Failure.whileDoing ("account " ++ id ++ " could not be loaded") problem.message
  match ← Task.perform describe store (.get id) with
  | (_, .account account) => pure (account.toJson.prettyText ++ "\n")
  | _ => pure "\n"

/-- The engine of the store to convert. -/
def sourceEngine (setting : Setting) : Task Engine := do
  match setting.store.engine with
  | some engine => pure engine
  | none =>
      match Store.detect? (← get).files setting.store.dataDir with
      | some engine => pure engine
      | none => throw { message := "no store found in " ++ setting.store.dataDir }

/-- Fill the store of an engine from that of the other one. -/
def fillFrom (source : Store) (folder : FilePath) :
    Engine → Host → Store.Opening
  | .sqlite => fun host => Store.tablesFrom host source folder
  | .jsonFile => fun host => Store.fileFrom host source folder

/-- The engine that a store is converted from. -/
def otherEngine : Engine → Engine
  | .sqlite => .jsonFile
  | .jsonFile => .sqlite

/-- What is said after a conversion. -/
def converted (number : Nat) (target : Engine) : String :=
  let hint :=
    match target with
    | .sqlite => ""
    | .jsonFile =>
        "set engine = \"jsonfile\" in the configuration, "
          ++ "store.db takes precedence during detection\n"
  "converted " ++ Text.showNat number ++ " accounts to " ++ target.name ++ "\n" ++ hint

/-- Fill the store of an engine from that of the other one, in the same folder. -/
def convert (setting : Setting) (target : Engine) : Task String := do
  let folder := setting.store.dataDir
  let engine ← setting.sourceEngine
  if engine = target then
    throw {
      message := "store in " ++ folder ++ " already uses the " ++ target.name
        ++ " engine" }
  let source ← Task.openStore .ofProblem (fun host =>
    Store.openWith host folder (otherEngine target))
  let filled ← Task.openStore .ofProblem (fillFrom source folder target)
  let (closed, _) ← Task.perform .ofProblem filled .close
  let accounts ← Task.accounts closed
  Task.tell (.converted accounts.length engine target)
  pure (converted accounts.length target)

/-- Make an empty store, and give it the identifier of an installation. -/
def init (setting : Setting) (installation : Option String) : Task String := do
  let folder := setting.store.dataDir
  let (engine, notices) :=
    Store.choose (← get).files setting.store.engine setting.engineName folder
  modify (fun host => host.notify notices)
  let store ← { setting with
    store := { setting.store with engine := some engine } }.openStore
  let store ←
    match installation with
    | none => pure store
    | some id => do
        let (stamped, _) ← Task.perform .ofProblem store (.saveInstallation id)
        pure stamped
  let _ ← Task.perform .ofProblem store .close
  Task.tell (.initialized engine)
  pure ("initialized " ++ engine.name ++ " store in " ++ folder ++ "\n")

/-- Carry out a command. -/
def perform (setting : Setting) : Command → Task String
  | .inspect => setting.inspect
  | .showAccount id => setting.showAccount id
  | .convert target => setting.convert target
  | .init installation => setting.init installation

end Setting

/-! ## Invocations -/

/-- The configuration before options override it. -/
def baseConfig (files : Files) (environment : Config.Environment) :
    Option FilePath → Except Failure Config
  | some path =>
      match Config.load files path with
      | .ok config => .ok config
      | .error problem =>
          .error (.whileDoing ("failed to load " ++ path) problem.message)
  | none =>
      match Config.ofEnvironment environment with
      | .ok config => .ok config
      | .error problem => .error { message := problem.message }

/-- The configuration with the options of an invocation. -/
def overridden (invocation : Invocation) (config : Config) : Config :=
  { config with
    store :=
      { config.store with
        dataDir := invocation.dataDir.getD config.store.dataDir
        engine := invocation.engine <|> config.store.engine } }

/-- The configuration that an invocation works with. -/
def configOf
    (files : Files)
    (environment : Config.Environment)
    (invocation : Invocation) :
    Except Failure Config :=
  (baseConfig files environment invocation.config).map (overridden invocation)

/-- How an invocation sets up logging. -/
def logSetup (invocation : Invocation) (config : Config) : Except Failure LogSetup :=
  match config.logging.setup with
  | .error problem => .error { message := problem.message }
  | .ok setup =>
      .ok { setup with
        level := invocation.logLevel.getD setup.level
        jsonFormat := invocation.jsonLogs || setup.jsonFormat }

/-- Carry out an invocation. -/
def perform (environment : Config.Environment) (invocation : Invocation) :
    Task String := do
  let config ← Task.ofAttempt id (configOf (← get).files environment invocation)
  Task.setUpLogging (← Task.ofAttempt id (logSetup invocation config))
  Task.tell (.usingFolder config.store.dataDir)
  let setting : Setting := {
    store := config.store
    engineName := environment.lookup Store.engineVariable
  }
  setting.perform invocation.command

/-! ## Paths -/

/-- The configuration file that a command line names. -/
def configPaths (words : List String) : List FilePath :=
  match Invocation.ofWords words with
  | .ok invocation => invocation.config.toList
  | .error _ => []

/-- The files of the store that a command line is about. -/
def storePaths
    (files : Files)
    (environment : Config.Environment)
    (words : List String) :
    List FilePath :=
  match Invocation.ofWords words with
  | .error _ => []
  | .ok invocation =>
      match configOf files environment invocation with
      | .error _ => []
      | .ok config =>
          let folder := config.store.dataDir
          [Store.pathIn folder .jsonFile, Store.pathIn folder .sqlite,
            Store.draftPath folder]

/-! ## Endings -/

/-- How the tool ends: its exit code and what it prints. -/
structure Ending where
  code : UInt32
  output : String := ""
  errors : String := ""
  deriving Repr, DecidableEq

/-- What is printed when the words of a command line are misused. -/
def misuseText : String :=
  "Usage: " ++ " ".intercalate (tool.name :: tool.synopsis)
    ++ "\n\nFor more information, try '--help'.\n"

/-- A host for a process that has not told anything yet. -/
def quieted (host : Host) : Host :=
  { host with logging := none, notices := [] }

/-- Carry out a command line. -/
def run (host : Host) (environment : Config.Environment) (words : List String) :
    Ending × Host :=
  match Invocation.ofWords words with
  | .error .misuse => ({ code := 2, errors := misuseText }, host)
  | .error (.shown text) => ({ code := 0, output := text }, host)
  | .ok invocation =>
      let (result, after) := (perform environment invocation).run (quieted host)
      let left := { after with logging := host.logging, notices := host.notices }
      match result with
      | .ok output => ({ code := 0, output := after.log ++ output }, left)
      | .error failure =>
          ({ code := 1, output := after.log, errors := failure.text }, left)

end TenantStore.CommandLine
