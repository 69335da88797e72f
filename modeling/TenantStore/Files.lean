import TenantStore.Relational.Database

namespace TenantStore

/-!
# Files

A tree of folders and files. What stands under a path is kept under the path
in plain form: from the root, without empty parts and without `.` and `..`.
A database is a file of its own kind, because its bytes do not matter here.
-/

/-- Paths are texts with slashes. -/
abbrev FilePath := String

namespace FilePath

/-- The parts between the slashes of a path. -/
def parts (path : FilePath) : List String :=
  (path.toList.foldr
    (fun char parts =>
      match char, parts with
      | '/', parts => [] :: parts
      | char, part :: rest => (char :: part) :: rest
      | char, [] => [[char]])
    [[]]).map String.ofList

/-- Follow the parts of a path from a folder. -/
def follow (folder : List String) : List String → List String
  | [] => folder
  | part :: rest =>
      if part.isEmpty || part = "." then
        follow folder rest
      else if part = ".." then
        follow folder.dropLast rest
      else
        follow (folder ++ [part]) rest

/-- Whether a path starts at the root. -/
def isAbsolute (path : FilePath) : Bool :=
  path.startsWith "/"

/-- The path of something in a folder. -/
def join (folder name : FilePath) : FilePath :=
  if name.isAbsolute || folder.isEmpty then
    name
  else if folder.endsWith "/" then
    folder ++ name
  else
    folder ++ "/" ++ name

/-- The plain form of the path of some parts. -/
def ofParts (parts : List String) : FilePath :=
  "/" ++ "/".intercalate parts

end FilePath

-- Of the ways to compare bytes, the one that is always there.
instance bytesDecidableEq : DecidableEq ByteArray :=
  ByteArray.instDecidableEq

/-- What can stand under a path. -/
inductive FileNode where
  | folder
  | file (bytes : ByteArray)
  | database (db : Relational.Database)
  deriving DecidableEq

/-- Folders and files. -/
structure Files where
  /-- What stands under each path in plain form. -/
  nodes : Dict FileNode := ∅
  /-- The folder that relative paths start from, as its parts. -/
  base : List String := []
  deriving DecidableEq

namespace Files

/-- The parts of the plain form of a path. -/
def locate (files : Files) (path : FilePath) : List String :=
  FilePath.follow (if path.isAbsolute then [] else files.base) path.parts

/-- What stands under the parts of a path. -/
def nodeAt? (files : Files) (parts : List String) : Option FileNode :=
  if parts.isEmpty then some .folder else files.nodes.get? (FilePath.ofParts parts)

/-- What stands under a path. -/
def node? (files : Files) (path : FilePath) : Option FileNode :=
  files.nodeAt? (files.locate path)

/-- Whether something stands under a path. -/
def holds (files : Files) (path : FilePath) : Bool :=
  (files.node? path).isSome

/-- Put something under the parts of a path. -/
def put (files : Files) (parts : List String) (node : FileNode) : Files :=
  { files with nodes := files.nodes.insert (FilePath.ofParts parts) node }

/-- Whether a folder stands under the parts of a path. -/
def isFolder (files : Files) (parts : List String) : Bool :=
  files.nodeAt? parts = some .folder

/-- Create the folder of some parts in a folder, and those between. -/
def createBelow (files : Files) (folder : List String) :
    List String → Except Problem Files
  | [] => .ok files
  | part :: rest =>
      let parts := folder ++ [part]
      match files.nodeAt? parts with
      | some .folder => files.createBelow parts rest
      | some _ => .error .files
      | none => (files.put parts .folder).createBelow parts rest

/-- Create a folder and the folders that it stands in. -/
def createFolders (files : Files) (path : FilePath) : Except Problem Files :=
  files.createBelow [] (files.locate path)

/-- The bytes of a file. -/
def read (files : Files) (path : FilePath) : Except Problem ByteArray :=
  match files.node? path with
  | some (.file bytes) => .ok bytes
  | _ => .error .files

/-- Write a file, replacing what it held. -/
def write (files : Files) (path : FilePath) (bytes : ByteArray) :
    Except Problem Files :=
  let parts := files.locate path
  if files.isFolder parts || !files.isFolder parts.dropLast then
    .error .files
  else
    .ok (files.put parts (.file bytes))

/-- Give a file another path, replacing a file there. -/
def rename (files : Files) (source target : FilePath) : Except Problem Files :=
  match files.node? source with
  | none => .error .files
  | some node =>
      let parts := files.locate target
      if files.isFolder parts || !files.isFolder parts.dropLast then
        .error .files
      else
        let removed :=
          { files with
            nodes := files.nodes.erase (FilePath.ofParts (files.locate source)) }
        .ok (removed.put parts node)

/-- Remove what stands under a path, with everything in it. -/
def remove (files : Files) (path : FilePath) : Files :=
  let plain := FilePath.ofParts (files.locate path)
  { files with
    nodes := files.nodes.filter (fun other _ =>
      other != plain && !other.startsWith (plain ++ "/")) }

/-- The database under a path. A file without bytes is an empty one. -/
def database? (files : Files) (path : FilePath) : Option Relational.Database :=
  match files.node? path with
  | some (.database db) => some db
  | some (.file bytes) => if bytes.isEmpty then some .empty else none
  | _ => none

/-- Put a database under a path. -/
def setDatabase (files : Files) (path : FilePath) (db : Relational.Database) :
    Files :=
  files.put (files.locate path) (.database db)

end Files

end TenantStore
