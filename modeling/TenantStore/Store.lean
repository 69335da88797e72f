import TenantStore.Engine
import TenantStore.FileEngine.Document
import TenantStore.FileEngine.Migration
import TenantStore.Files
import TenantStore.Locks
import TenantStore.Log
import TenantStore.TableEngine.Queries
import TenantStore.TableEngine.Upkeep

namespace TenantStore

/-!
# Stores

A store keeps accounts in a folder, by one of the two engines. Opening a store
creates what is missing and brings up to date what is old. `Store.perform`
carries out a call, whatever the engine; the file engine holds its accounts in
memory and writes them to its file after each change that has to last, the
table engine changes its database directly.
-/

/-- The world around a store. -/
structure Host where
  files : Files
  arrival : FileEngine.Arrival
  clock : Clock := {}
  /-- How many processors there are. -/
  processors : Nat := 1
  /-- Where notices go, if logging has been set up. -/
  logging : LogSetup.Installed := none
  /-- What the operator has been told, in order. -/
  notices : List Notice := []

namespace Host

/--
Whether a notice reaches the operator: if the log shows it. As long as there is
no log, warnings do, and what tells of upkeep.
-/
def hears (host : Host) (notice : Notice) : Bool :=
  match host.logging with
  | some setup => setup.shows notice
  | none => notice.isWarning || notice.isUpkeep

/-- Tell the operator something. -/
def notify (host : Host) (notices : List Notice) : Host :=
  { host with notices := host.notices ++ notices.filter host.hears }

/-- What the log reads; nothing if there is none. -/
def log (host : Host) : String :=
  match host.logging with
  | some setup => setup.log host.clock host.notices
  | none => ""

end Host

/-- How an open store keeps its accounts. -/
inductive Keeping where
  | memory (memory : FileEngine.Memory)
  | database
  deriving Repr, DecidableEq

/-- An open store. -/
structure Store where
  /-- The folder that the store keeps its files in. -/
  folder : FilePath
  keeping : Keeping
  locks : Locks
  /-- How often accounts were written to storage. -/
  writes : Nat := 0
  deriving Repr, DecidableEq

namespace Store

/-- The name of the file of an engine. -/
def fileName : Engine → String
  | .jsonFile => "store.json"
  | .sqlite => "store.db"

/-- The engine of a store. -/
def engine (store : Store) : Engine :=
  match store.keeping with
  | .memory _ => .jsonFile
  | .database => .sqlite

/-- The path of the file of an engine in a folder. -/
def pathIn (folder : FilePath) (engine : Engine) : FilePath :=
  folder.join (fileName engine)

/-- The path of the file of a store. -/
def path (store : Store) : FilePath :=
  pathIn store.folder store.engine

/-! ## Writing the file -/

/-- The path at which a document is written before it takes its place. -/
def draftPath (folder : FilePath) : FilePath :=
  pathIn folder .jsonFile ++ ".tmp"

/-- The files after a document has been written, and whether that succeeded. -/
def writeDocument
    (files : Files)
    (folder : FilePath)
    (document : FileEngine.Document) :
    Files × Except Problem Unit :=
  match files.write (draftPath folder) document.bytes with
  | .error problem => (files, .error problem)
  | .ok drafted =>
      match drafted.rename (draftPath folder) (pathIn folder .jsonFile) with
      | .error problem => (drafted, .error problem)
      | .ok files => (files, .ok ())

/-- What an operation leads to: the host and the store after it, and its outcome. -/
structure Reply where
  host : Host
  store : Store
  outcome : Outcome

/-- A reply of which the operator is told something, unless it is a failure. -/
def Reply.telling (reply : Reply) (notices : List Notice) : Reply :=
  { reply with
    host := reply.host.notify (if reply.outcome.isOk then notices else []) }

/-- What the operator is told when accounts were written. -/
def persisted (host : Host) (store : Store) : Notice :=
  .persisted store.engine (host.clock.took store.writes)

/-- Write the memory of a store to its file. -/
def persist
    (host : Host)
    (store : Store)
    (memory : FileEngine.Memory) :
    Reply :=
  let (files, written) := writeDocument host.files store.folder memory.document
  let reply : Reply :=
    { host := { host with files := files }
      store :=
        { store with
          keeping := .memory memory
          writes := if written.isOk then store.writes + 1 else store.writes }
      outcome := written.map (fun _ => .done) }
  reply.telling [persisted host store]

/-! ## Calls -/

/-- Whether a call writes a whole account to a database. -/
def writesAccount : Call → Bool
  | .save _ => true
  | .delete _ => true
  | _ => false

/-- Carry out a call on a memory. -/
def performInMemory
    (host : Host)
    (store : Store)
    (memory : FileEngine.Memory)
    (call : Call) :
    Reply :=
  let reply := memory.perform call
  let host := host.notify reply.notices
  if reply.writes then
    persist host store reply.memory
  else
    { host := host
      store := { store with keeping := .memory reply.memory }
      outcome := reply.outcome }

/-- Carry out a call on the database of a store. -/
def performInDatabase (host : Host) (store : Store) (call : Call) : Reply :=
  match host.files.database? store.path with
  | none => { host := host, store := store, outcome := .error .database }
  | some db =>
      let reply := TableEngine.perform db call
      { host :=
          { host with files := host.files.setDatabase store.path reply.db }
        store :=
          { store with
            writes :=
              if writesAccount call && reply.outcome.isOk then
                store.writes + 1
              else
                store.writes }
        outcome := reply.outcome }

/-- What the operator is told when a call has been carried out. -/
def aftermath (host : Host) (store : Store) (call : Call) : List Notice :=
  match store.keeping, call with
  | _, .close => [.closed store.engine store.path]
  | .memory _, _ => []
  | .database, call => if writesAccount call then [persisted host store] else []

/-- Carry out a call. -/
def perform (host : Host) (store : Store) (call : Call) : Reply :=
  let reply :=
    match store.keeping with
    | .memory memory => performInMemory host store memory call
    | .database => performInDatabase host store call
  reply.telling (store.aftermath host call)

/-- The accounts of a store. -/
def accounts (host : Host) (store : Store) : Except Problem (List Account) :=
  match (store.perform host .all).outcome with
  | .ok (.accounts accounts) => .ok accounts
  | .ok _ => .ok []
  | .error problem => .error problem

/-- The identifier of a store's installation. -/
def installation (host : Host) (store : Store) : Except Problem String :=
  match (store.perform host .installation).outcome with
  | .ok (.text id) => .ok id
  | .ok _ => .ok ""
  | .error problem => .error problem

/-! ## Opening -/

/-- What opening leads to: the host after it, and the store. -/
structure Opening where
  host : Host
  store : Except Problem Store

/-- An opening that failed. -/
def Opening.failed (host : Host) (problem : Problem) : Opening where
  host := host
  store := .error problem

/-- Go on with an opened store. -/
def Opening.andThen (opening : Opening) (next : Host → Store → Opening) : Opening :=
  match opening.store with
  | .ok store => next opening.host store
  | .error _ => opening

/-- The opening that ends with a reply. -/
def Opening.ofReply (reply : Reply) : Opening where
  host := reply.host
  store := reply.outcome.map (fun _ => reply.store)

/-- An opening of which the operator is told something, unless it failed. -/
def Opening.telling (opening : Opening) (notices : List Notice) : Opening :=
  { opening with
    host := opening.host.notify (if opening.store.isOk then notices else []) }

/-- The memory of the file in a folder, with what there was to notice. -/
def loadMemory (host : Host) (folder : FilePath) :
    Except Problem (FileEngine.Memory × List Notice) := do
  let path := pathIn folder .jsonFile
  if host.files.holds path then
    let bytes ← host.files.read path
    match FileEngine.Document.ofBytes? bytes with
    | none => .error .document
    | some document =>
        let memory := document.memory.migrate host.arrival
        let report := FileEngine.Migration.report host.arrival document.memory
        .ok (memory,
          FileEngine.Migration.notices host.arrival document.memory
            ++ [.loaded memory.accounts.size path report])
  else
    .ok (.empty, [.newFile path])

/-- Open the store of the file engine in a folder. -/
def openFile (host : Host) (folder : FilePath) : Opening :=
  match host.files.createFolders folder with
  | .error problem => .failed host problem
  | .ok files =>
      let host := { host with files := files }
      match loadMemory host folder with
      | .error problem => .failed host problem
      | .ok (memory, notices) =>
          .ofReply (persist (host.notify notices)
            { folder := folder
              keeping := .memory memory
              locks := { sharedReads := false } }
            memory)

/-- The database in a folder, or an empty one if there is none. -/
def loadDatabase (host : Host) (folder : FilePath) :
    Except Problem Relational.Database :=
  let path := pathIn folder .sqlite
  if host.files.holds path then
    match host.files.database? path with
    | some db => .ok db
    | none => .error .database
  else
    .ok .empty

/--
Open the store of the table engine in a folder, with some number of connections
or, if none is named, one for each processor.
-/
def openTables
    (host : Host)
    (folder : FilePath)
    (connections : Option Nat := none) :
    Opening :=
  match host.files.createFolders folder with
  | .error problem => .failed host problem
  | .ok files =>
      let host := { host with files := files }
      match loadDatabase host folder with
      | .error problem => .failed host problem
      | .ok db =>
          let upkeep := TableEngine.upkeep db host.arrival.now
          let host :=
            { host with
              files := host.files.setDatabase (pathIn folder .sqlite) upkeep.db }
          let host := host.notify upkeep.notices
          match upkeep.failure with
          | some problem => .failed host problem
          | none =>
              let opening : Opening :=
                { host := host
                  store := .ok {
                    folder := folder
                    keeping := .database
                    locks := { sharedReads := true } } }
              opening.telling [.openedTables (pathIn folder .sqlite)
                (max (connections.getD host.processors) 1)]

/-- Open the store of an engine in a folder. -/
def openWith
    (host : Host)
    (folder : FilePath)
    (engine : Engine)
    (connections : Option Nat := none) :
    Opening :=
  match engine with
  | .jsonFile => openFile host folder
  | .sqlite => openTables host folder connections

end Store

end TenantStore
