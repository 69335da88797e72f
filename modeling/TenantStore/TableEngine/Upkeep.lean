import TenantStore.Account
import TenantStore.Json.Printer
import TenantStore.Notice
import TenantStore.TableEngine.Binary
import TenantStore.TableEngine.Schema

namespace TenantStore.TableEngine

/-!
# Upkeep of a database

When a database is opened it is brought up to date in small steps, each of
which takes effect as a whole or not at all; a step that fails ends the upkeep
and leaves the earlier ones in effect. First come the numbered migrations of
binary cells, each once, then the tables, columns and indices that the schema
has and the database lacks.
-/

open Relational (Cell Row Column Database)

/-- A database under upkeep. -/
structure Upkeep where
  db : Database
  notices : List Notice := []
  failure : Option Problem := none
  deriving Repr, DecidableEq

namespace Upkeep

/-- A step: the database after it and what it noticed, or why it failed. -/
abbrev Step := Database → Except Problem (Database × List Notice)

/-- Take a step, unless an earlier one failed. -/
def andThen (upkeep : Upkeep) (step : Step) : Upkeep :=
  match upkeep.failure with
  | some _ => upkeep
  | none =>
      match step upkeep.db with
      | .ok (db, notices) =>
          { db := db, notices := upkeep.notices ++ notices }
      | .error problem => { upkeep with failure := some problem }

/-- Take several steps. -/
def run (db : Database) (steps : List Step) : Upkeep :=
  steps.foldl andThen { db := db }

end Upkeep

/-! ## Numbered migrations -/

/-- A migration of the binary cells of one column. -/
structure Migration where
  version : Nat
  description : String
  table : String
  column : String
  /-- The document of a binary cell in the row of a number. -/
  decode : Int → List UInt8 → Except Problem Json
  /-- An index that the cells of the column stand in. -/
  dropsIndex : Option String := none

namespace Migration

/-- The document of a cell that must decode. -/
def decoding
    (table column : String)
    (decode : List UInt8 → Option Json)
    (row : Int)
    (bytes : List UInt8) :
    Except Problem Json :=
  match decode bytes with
  | some json => .ok json
  | none => .error (.undecodable table column row)

/-- The document of an address; no bytes are no address. -/
def decodeAddress (_ : Int) (bytes : List UInt8) : Except Problem Json :=
  match Binary.address? bytes with
  | some address => .ok (.ofOption Address.toJson address)
  | none => .error (.addressLength bytes.length)

/-- The migrations in order. -/
def migrations : List Migration := [
  { version := 1
    description := "accounts.network_net from bincode to JSON"
    table := "accounts"
    column := "network_net"
    decode := decoding "accounts" "network_net" (fun bytes =>
      (Binary.text? bytes).map Json.text) },
  { version := 2
    description := "routes.network from bincode to JSON"
    table := "routes"
    column := "network"
    decode := decoding "routes" "network" (fun bytes =>
      (Binary.text? bytes).map Json.text) },
  { version := 3
    description := "routes.peer_groups from bincode to JSON"
    table := "routes"
    column := "peer_groups"
    decode := decoding "routes" "peer_groups" (fun bytes =>
      (Binary.texts? bytes).map Json.texts) },
  { version := 4
    description := "peers.location_connection_ip from raw bytes to JSON"
    table := "peers"
    column := "location_connection_ip"
    decode := decodeAddress },
  { version := 5
    description := "peers.ip from raw bytes to JSON"
    table := "peers"
    column := "ip"
    decode := decodeAddress
    dropsIndex := some Schema.peerAddressIndex }
]

/-- The version of a database that is up to date. -/
def latestVersion : Nat :=
  (migrations.map Migration.version).foldl max 0

/-- The bytes of a cell that is binary. -/
def blob? (column : String) (row : Row) : Option (Int × List UInt8) :=
  match row.cell column with
  | .blob bytes => some (row.number, bytes)
  | _ => none

/-- The rows whose cell in the column is binary, if there is such a column. -/
def pending (migration : Migration) (db : Database) : List (Int × List UInt8) :=
  match db.tables.get? migration.table with
  | some table =>
      if table.hasColumn migration.column then
        table.rows.filterMap (blob? migration.column)
      else
        []
  | none => []

/-- Replace one binary cell by its document. -/
def recodeCell
    (migration : Migration)
    (db : Database)
    (cell : Int × List UInt8) :
    Except Problem Database := do
  let json ← migration.decode cell.1 cell.2
  db.updateRow migration.table
    [(migration.column, .text json.compactText)] cell.1

/-- Replace every binary cell of the column by its document, and count them. -/
def recodeAll
    (migration : Migration)
    (db : Database) :
    Except Problem (Database × Nat) := do
  let db :=
    match migration.dropsIndex with
    | some index => db.dropIndex index
    | none => db
  let cells := migration.pending db
  let recoded ← cells.foldlM migration.recodeCell db
  .ok (recoded, cells.length)

end Migration

/-! ## Versions -/

/-- The greater of two cells: numbers precede texts, and texts precede bytes. -/
def greater (left right : Cell) : Cell :=
  match left, right with
  | .null, cell => cell
  | cell, .null => cell
  | .integer a, .integer b => .integer (max a b)
  | .integer _, cell => cell
  | cell, .integer _ => cell
  | .blob bytes, _ => .blob bytes
  | _, cell => cell

/-- The version that a database has reached, if that is a 32-bit integer. -/
def currentVersion (db : Database) : Except Problem Int := do
  let table ← db.table? Schema.versionsName
  if !table.hasColumn "version" then
    .error .database
  else
    match (table.rows.map (·.cell "version")).foldl greater .null with
    | .null => .ok 0
    | .integer version =>
        if -0x80000000 ≤ version && version < 0x80000000 then
          .ok version
        else
          .error .database
    | _ => .error .database

/-- Make room for versions. -/
def ensureVersions (db : Database) : Database :=
  db.createTable Schema.versionsName Schema.versions

/-- Apply a migration and record its version. -/
def Migration.step (migration : Migration) (now : Timestamp) : Upkeep.Step :=
  fun db => do
    let (recoded, rows) ← migration.recodeAll db
    let recorded ← recoded.insert Schema.versionsName [
      ("version", .integer migration.version),
      ("description", .text migration.description),
      ("applied_at", .integer now.millis.toNat)]
    .ok (recorded,
      [.appliedMigration migration.version migration.description rows])

/-- The migrations that a database of some version still needs. -/
def Migration.after (version : Int) : List Migration :=
  migrations.filter (fun migration => version < migration.version)

/-! ## Tables, columns and indices -/

/-- Create a table that is missing. -/
def createStep (name : String) (table : Relational.Table) : Upkeep.Step :=
  fun db =>
    .ok (db.createTable name table,
      if db.tables.contains name then [] else [.createdTable name])

/-- Add a column that a table is missing. -/
def columnStep (name : String) (column : Column) : Upkeep.Step :=
  fun db => do
    let table ← db.table? name
    if table.hasColumn column.name then
      .ok (db, [])
    else
      let extended ← db.addColumn name column
      .ok (extended, [.addedColumn name column.name])

/-- Create an index that is missing. -/
def indexStep (name : String) (index : Relational.Index) : Upkeep.Step :=
  fun db => (db.createIndex name index).map (·, [])

/-- The steps that give a database the tables, columns and indices of the schema. -/
def schemaSteps : List Upkeep.Step :=
  Schema.tables.flatMap (fun entry =>
    createStep entry.1 entry.2 :: entry.2.columns.map (columnStep entry.1))
  ++ Schema.indices.map (fun entry => indexStep entry.1 entry.2)

/-- The steps that bring a database of some version up to date. -/
def upkeepSteps (version : Int) (now : Timestamp) : List Upkeep.Step :=
  (Migration.after version).map (fun migration => migration.step now)
    ++ schemaSteps

/-- Bring a database up to date. -/
def upkeep (db : Database) (now : Timestamp) : Upkeep :=
  let db := ensureVersions db
  match currentVersion db with
  | .ok version => .run db (upkeepSteps version now)
  | .error problem => { db := db, failure := some problem }

end TenantStore.TableEngine
