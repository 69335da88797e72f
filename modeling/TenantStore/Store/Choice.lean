import TenantStore.Store

namespace TenantStore.Store

/-!
# Choosing an engine

The engine of a store is the configured one; else the one that the environment
names; else the one whose file is there already; else the default.
-/

/-- The environment variable that names an engine. -/
def engineVariable : String :=
  "MESHPLANE_STORE_ENGINE"

/-- The engine whose file stands in a folder. A database comes first. -/
def detect? (files : Files) (folder : FilePath) : Option Engine :=
  if files.holds (pathIn folder .sqlite) then
    some .sqlite
  else if files.holds (pathIn folder .jsonFile) then
    some .jsonFile
  else
    none

/-- The engine that a folder decides on. -/
def detectOrDefault (files : Files) (folder : FilePath) : Engine :=
  (detect? files folder).getD .default

/-- The engine to use, and what there is to notice about it. -/
def choose
    (files : Files)
    (configured : Option Engine)
    (setting : Option String)
    (folder : FilePath) :
    Engine × List Notice :=
  match configured, setting with
  | some engine, _ => (engine, [])
  | none, none => (detectOrDefault files folder, [])
  | none, some text =>
      match Engine.parse text with
      | .ok engine => (engine, [])
      | .error problem =>
          (detectOrDefault files folder,
            [.ignoredEngine engineVariable problem])

/-- Open the store of the engine to use. -/
def openChosen
    (host : Host)
    (configured : Option Engine)
    (setting : Option String)
    (folder : FilePath)
    (connections : Option Nat := none) :
    Opening :=
  let (engine, notices) := choose host.files configured setting folder
  openWith (host.notify (notices ++ [.usingEngine engine folder])) folder engine
    connections

end TenantStore.Store
