import Std.Time.DateTime.Timestamp
import TenantStore.CommandLine.Execution
import TenantStore.Relational.Document
import TenantStore.Text.Uuid

/-!
# The command line tool

Reads the files that a command line is about, carries it out on them, writes
back what has changed and prints the outcome.
-/

namespace TenantStore.Main

/-- The environment variables that count. -/
def readEnvironment : IO Config.Environment := do
  let found ← Config.variableNames.mapM (fun name => do
    let value ← IO.getEnv name
    pure (value.map (fun text => (name, text))))
  pure (found.filterMap id)

/-- The present time, in nanoseconds since the start of 1970. -/
def readNanos : IO Nat := do
  let time ← Std.Time.Timestamp.now
  pure time.toNanosecondsSinceUnixEpoch.val.toNat

/-- The present time. -/
def readTime : IO Timestamp := do
  pure ⟨UInt64.ofNat ((← readNanos) / 1000000)⟩

/-- A random number of 64 bits. -/
def readRandom : IO UInt64 := do
  let bytes ← IO.getRandomBytes 8
  pure (bytes.toList.foldl (fun number byte => number * 256 + byte.toUInt64) 0)

/-- The time, and identifiers that differ for peers of different origins. -/
def readArrival : IO FileEngine.Arrival := do
  let now ← readTime
  let high ← readRandom
  let low ← readRandom
  pure {
    now := now
    newId := fun origin =>
      Text.uuid (high ^^^ hash origin.accountSlot) (low ^^^ hash origin.slot)
  }

/-- A clock that stands at the present time. -/
def readClock : IO Clock := do
  let micros := (← readNanos) / 1000
  pure { stamp := fun _ => micros }

/-! ## Files -/

/-- What the bytes of a file are. -/
def nodeOf (bytes : ByteArray) : FileNode :=
  match Relational.Database.ofBytes? bytes with
  | some db => .database db
  | none => .file bytes

/-- What stands under a path, if anything. -/
def readNode (path : FilePath) : IO (Option FileNode) := do
  let place := (← IO.currentDir) / path
  if ← place.isDir then
    pure (some .folder)
  else if ← place.pathExists then
    pure (some (nodeOf (← IO.FS.readBinFile place)))
  else
    pure none

/-- The plain forms of a path and of the folders that it stands in. -/
def ancestry (parts : List String) : List (List String) :=
  (List.range (parts.length + 1)).map (fun count => parts.take count)

/-- Add what stands under a path, and the folders that it stands in. -/
def addPath (files : Files) (path : FilePath) : IO Files :=
  ((ancestry (files.locate path)).filter (fun parts => !parts.isEmpty)).foldlM
    (fun (files : Files) parts => do
      match ← readNode (FilePath.ofParts parts) with
      | some node => pure (files.put parts node)
      | none => pure files)
    files

/-- Add what stands under some paths. -/
def addPaths (files : Files) (paths : List FilePath) : IO Files :=
  paths.foldlM addPath files

/-- The files that a command line is about. -/
def readFiles (environment : Config.Environment) (words : List String) :
    IO Files := do
  let here ← IO.currentDir
  let none : Files := { base := FilePath.follow [] (FilePath.parts here.toString) }
  let files ← addPaths none (CommandLine.configPaths words)
  addPaths files (CommandLine.storePaths files environment words)

/-- Write what stands under a path. -/
def writeNode (path : FilePath) : FileNode → IO Unit
  | .folder => IO.FS.createDirAll path
  | .file bytes => IO.FS.writeBinFile path bytes
  | .database db => IO.FS.writeBinFile path db.bytes

/-- Write what has changed. -/
def writeChanges (before after : Files) : IO Unit := do
  for (path, node) in after.nodes.entries do
    if before.nodes.get? path != some node then
      writeNode path node
  for path in before.nodes.keys do
    if !after.nodes.contains path then
      IO.FS.removeFile path

/-- Carry out a command line. -/
def run (words : List String) : IO UInt32 := do
  let environment ← readEnvironment
  let files ← readFiles environment words
  let host : Host := {
    files := files
    arrival := ← readArrival
    clock := ← readClock }
  let (ending, host) := CommandLine.run host environment words
  writeChanges files host.files
  IO.print ending.output
  IO.eprint ending.errors
  pure ending.code

end TenantStore.Main

/-- Run the tool on the words of its command line. -/
def main (words : List String) : IO UInt32 :=
  TenantStore.Main.run words
