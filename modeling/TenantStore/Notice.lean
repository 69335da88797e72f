import TenantStore.Engine
import TenantStore.FileEngine.Report
import TenantStore.LogLevel
import TenantStore.Problem
import TenantStore.Span

namespace TenantStore

/-!
# Notices

What the program tells its operator beside its answers: entries that were found
stale, what was done while a store was opened, written and closed, and what a
command came to. Each notice has a level and names the part of the program that
it comes from; `LogSetup.shows` decides by the level whether it is shown.
-/

/-- A remark for the operator. -/
inductive Notice where
  /-- An index led to an account that does not hold the key. -/
  | staleEntry (subject : Subject) (key account : String)
  /-- The index of hashes led to a token without that hash. -/
  | staleHash (token : String)
  /-- The index of tokens led to a user without that token. -/
  | staleToken (token user : String)
  /-- An account has no group of all peers. -/
  | noGroupOfAll (account : String)
  /-- The engine that the environment names is unknown. -/
  | ignoredEngine (setting : String) (problem : Problem)
  /-- Accounts were read from a file and brought up to date. -/
  | loaded (accounts : Nat) (path : String) (report : FileEngine.Report)
  /-- There was no file, so there will be a new one. -/
  | newFile (path : String)
  /-- A step of bringing accounts up to date was taken. -/
  | migrated (step : String) (records : Nat)
  /-- A table that the schema has was missing. -/
  | createdTable (table : String)
  /-- A column that the schema has was missing. -/
  | addedColumn (table column : String)
  /-- The binary cells of a column were rewritten. -/
  | appliedMigration (version : Nat) (description : String) (rows : Nat)
  /-- A database was opened and brought up to date. -/
  | openedTables (path : String) (connections : Nat)
  /-- Accounts were written to storage. -/
  | persisted (engine : Engine) (took : Span)
  /-- A store was closed. -/
  | closed (engine : Engine) (path : String)
  /-- The accounts of one store were saved into another one. -/
  | copied (accounts : Nat) (source target : Engine)
  /-- A file was replaced by what a database holds. -/
  | imported (path : String)
  /-- The engine to use was decided on. -/
  | usingEngine (engine : Engine) (folder : String)
  /-- The folder of the store was decided on. -/
  | usingFolder (folder : String)
  /-- A conversion was carried out. -/
  | converted (accounts : Nat) (source target : Engine)
  /-- A store was made ready for use. -/
  | initialized (engine : Engine)
  deriving Repr, DecidableEq

namespace Notice

/-- How severe it is what a notice tells of. -/
def level : Notice → LogLevel
  | .noGroupOfAll _ => .error
  | .staleEntry _ _ _ => .warn
  | .staleHash _ => .warn
  | .staleToken _ _ => .warn
  | .ignoredEngine _ _ => .warn
  | .migrated _ _ => .debug
  | .persisted _ _ => .debug
  | .usingFolder _ => .debug
  | _ => .info

/-- Whether a notice tells of something that should not be so. -/
def isWarning (notice : Notice) : Bool :=
  LogLevel.warn.admits notice.level

/-- Whether a notice tells that what was stored had to be brought up to date. -/
def isUpkeep : Notice → Bool
  | .loaded _ _ _ => true
  | .addedColumn _ _ => true
  | .appliedMigration _ _ _ => true
  | _ => false

/-- The part of the program under which an engine's store is found. -/
def storeTarget : Engine → String
  | .jsonFile => "meshplane_core::core_store::store::file_store"
  | .sqlite => "meshplane_core::core_store::store::sql_store"

/-- The part of the program that a notice comes from. -/
def target : Notice → String
  | .staleEntry _ _ _ => storeTarget .jsonFile
  | .staleHash _ => storeTarget .jsonFile
  | .staleToken _ _ => storeTarget .jsonFile
  | .loaded _ _ _ => storeTarget .jsonFile
  | .newFile _ => storeTarget .jsonFile
  | .openedTables _ _ => storeTarget .sqlite
  | .persisted engine _ => storeTarget engine
  | .closed engine _ => storeTarget engine
  | .noGroupOfAll _ => "meshplane_core::core_store::store::file_migration"
  | .migrated _ _ => "meshplane_core::core_store::store::file_migration"
  | .createdTable _ => "meshplane_core::core_store::store::sql_schema"
  | .addedColumn _ _ => "meshplane_core::core_store::store::sql_schema"
  | .appliedMigration _ _ _ => "meshplane_core::core_store::store::sql_migrations"
  | .ignoredEngine _ _ => "meshplane_core::core_store::store::factory"
  | .usingEngine _ _ => "meshplane_core::core_store::store::factory"
  | .copied _ _ _ => "meshplane_core::core_store::store::convert"
  | .imported _ => "meshplane_core::core_store::store::convert"
  | .converted _ _ _ => "meshplane::commands"
  | .usingFolder _ => "meshplane"
  | .initialized _ => "meshplane"

/-- The noun of the store of an engine. -/
def storeName : Engine → String
  | .jsonFile => "file store"
  | .sqlite => "sqlite store"

/-- The wording of a notice. -/
def text : Notice → String
  | .staleEntry subject key account =>
      "removed stale " ++ subject.name ++ " index entry " ++ key
        ++ " pointing at account " ++ account
  | .staleHash token =>
      "removed stale hashed token index entry for token " ++ token
  | .staleToken token user =>
      "removed stale token index entry " ++ token ++ " pointing at user " ++ user
  | .noGroupOfAll account =>
      "unable to find the All group of account " ++ account
        ++ ", skipping route group migration"
  | .ignoredEngine setting problem =>
      "ignoring " ++ setting ++ ": " ++ problem.message
  | .loaded accounts path report =>
      "loaded " ++ Text.showNat accounts ++ " accounts from " ++ path
        ++ ", migration: " ++ report.text
  | .newFile path => "creating new store file at " ++ path
  | .migrated step records =>
      "migration step '" ++ step ++ "' changed " ++ Text.showNat records
        ++ " records"
  | .createdTable table => "created table " ++ table
  | .addedColumn table column => "added column " ++ table ++ "." ++ column
  | .appliedMigration version description rows =>
      "applied migration v" ++ Text.showNat version ++ ": " ++ description
        ++ " (" ++ Text.showNat rows ++ " rows rewritten)"
  | .openedTables path connections =>
      "opened sqlite store " ++ path ++ " with " ++ Text.showNat connections
        ++ " connections"
  | .persisted .jsonFile took =>
      "took " ++ took.elapsedText ++ " to persist the file store"
  | .persisted .sqlite took =>
      "took " ++ took.elapsedText ++ " to persist to the sqlite store"
  | .closed engine path => "closed " ++ storeName engine ++ " " ++ path
  | .copied accounts source target =>
      "copied " ++ Text.showNat accounts ++ " accounts from " ++ source.name
        ++ " store to " ++ target.name ++ " store"
  | .imported path => "imported sqlite store into " ++ path
  | .usingEngine engine folder =>
      "using " ++ engine.name ++ " store engine in " ++ folder
  | .usingFolder folder => "using data directory " ++ folder
  | .converted accounts source target =>
      "converted " ++ Text.showNat accounts ++ " accounts from " ++ source.name
        ++ " to " ++ target.name
  | .initialized engine => "initialized " ++ engine.name ++ " store"

end Notice

end TenantStore
