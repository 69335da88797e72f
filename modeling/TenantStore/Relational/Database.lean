import TenantStore.Dict
import TenantStore.Problem
import TenantStore.Relational.Table

namespace TenantStore.Relational

/-!
# Databases

Tables with their indices, and the statements that change them. A statement
either succeeds or leaves the database as it was.

References between tables are not enforced row by row where rows are added or
deleted: whoever writes rows of this library also writes the rows that they
refer to, and deletes dependent rows first. What remains of them is that no
row can be added to or deleted from a table whose references lead to a table
without unique identifiers, and that `reassign` leaves no reference astray.
-/

/-- An index on columns of a table. -/
structure Index where
  table : String
  columns : List String
  isUnique : Bool := false
  deriving Repr, DecidableEq

/-- Tables and indices under their names. -/
structure Database where
  tables : Dict Table := ∅
  indices : Dict Index := ∅
  deriving Repr, DecidableEq

namespace Database

instance : Inhabited Database :=
  ⟨{}⟩

/-- A database without tables. -/
def empty : Database :=
  {}

/-- The table with a name. -/
def table? (db : Database) (name : String) : Except Problem Table :=
  match db.tables.get? name with
  | some table => .ok table
  | none => .error .database

/-- The rows of a table that hold a value in a column. -/
def rowsWith (db : Database) (table column : String) (value : Cell) : List Row :=
  match db.tables.get? table with
  | some found => found.rowsWith column value
  | none => []

/-- Put a table in place of the one with its name. -/
def setTable (db : Database) (name : String) (table : Table) : Database :=
  { db with tables := db.tables.insert name table }

/-! ## Conditions -/

/-- The sets of columns that no two rows of a table may agree on. -/
def uniqueSets (db : Database) (name : String) (table : Table) : List (List String) :=
  table.uniqueColumns
    ++ (db.indices.values.filter (fun index =>
      index.isUnique && index.table = name)).map Index.columns

/-- Whether rows of a table can be told apart by their identifiers. -/
def hasIdentity (db : Database) (name : String) : Bool :=
  match db.tables.get? name with
  | some table => (db.uniqueSets name table).contains ["id"]
  | none => false

/-- Whether references from and to a table lead to identifiers. -/
def referencesHold (db : Database) (name : String) : Bool :=
  (match db.tables.get? name with
    | some table =>
        table.references.all (fun reference => db.hasIdentity reference.table)
    | none => true)
  && (db.tables.values.all (fun table =>
    table.references.all (fun reference =>
      reference.table != name || db.hasIdentity name)))

/-- Whether rows of a table can be added or deleted. -/
def changeable (db : Database) (name : String) : Except Problem Unit :=
  if db.referencesHold name then .ok () else .error .database

/-- Whether rows of a table can be added in place of those of equal identifiers. -/
def replaceable (db : Database) (name : String) : Except Problem Unit :=
  if db.referencesHold name && db.hasIdentity name then
    .ok ()
  else
    .error .database

/-- The problem of two rows that agree where they may not. -/
def clash (table : String) (columns : List String) : Problem :=
  if table = "peers" && columns = ["account_id", "ip"] then
    .addressTaken
  else
    .database

/-- The columns on which a row wrongly agrees with another row. -/
def clashing? (sets : List (List String)) (rows : List Row) (row : Row) :
    Option (List String) :=
  sets.find? (fun columns =>
    rows.any (fun other =>
      other.number != row.number && Table.agreeOn columns row other))

/-- Put a row into a table, if it may stand there. -/
def place
    (db : Database)
    (name : String)
    (table : Table)
    (row : Row) :
    Except Problem Database :=
  if table.lacksRequired row then
    .error .database
  else
    match clashing? (db.uniqueSets name table) table.rows row with
    | some columns => .error (clash name columns)
    | none => .ok (db.setTable name (table.place row))

/-! ## Statements -/

/-- Whether a table has all columns that values are given for. -/
def knowsColumns (table : Table) (given : List (String × Cell)) : Bool :=
  given.all (fun entry => table.hasColumn entry.1)

/-- Add a row. -/
def insert
    (db : Database)
    (name : String)
    (given : List (String × Cell)) :
    Except Problem Database := do
  let table ← db.table? name
  if !knowsColumns table given then
    .error .database
  else
    match table.newRow? given with
    | none => .error .database
    | some row =>
        if table.rows.any (fun other => other.number = row.number) then
          .error .database
        else
          db.place name table row

/-- Add a row in place of the one with the same identifier, under its number. -/
def upsert
    (db : Database)
    (name : String)
    (given : List (String × Cell)) :
    Except Problem Database := do
  let table ← db.table? name
  if !knowsColumns table given then
    .error .database
  else
    match table.newRow? given with
    | none => .error .database
    | some row =>
        if table.lacksRequired row then
          .error .database
        else
          match table.rows.find? (fun other =>
              (other.cell "id").sameValue (row.cell "id")) with
          | some replaced =>
              db.place name table
                { number := replaced.number
                  cells := replaced.cells.map (fun entry =>
                    if given.any (fun value => value.1 = entry.1) then
                      (entry.1, row.cell entry.1)
                    else
                      entry) }
          | none => db.place name table row

/-- Delete the rows that satisfy a test. -/
def deleteWhere
    (db : Database)
    (name : String)
    (test : Table → Row → Bool) :
    Except Problem Database := do
  let table ← db.table? name
  db.changeable name
  .ok (db.setTable name (table.deleteWhere (test table)))

/-- Put values into columns of one row. -/
def updateRow
    (db : Database)
    (name : String)
    (values : List (String × Cell))
    (number : Int) :
    Except Problem Database := do
  let table ← db.table? name
  match table.rows.find? (fun row => row.number = number) with
  | none => .ok db
  | some row =>
      db.place name table
        (values.foldl
          (fun row value => row.set value.1 (table.stored value.1 value.2)) row)

/-- Put values into columns of the rows that satisfy a test, and count the rows. -/
def updateWhere
    (db : Database)
    (name : String)
    (values : List (String × Cell))
    (test : Table → Row → Bool) :
    Except Problem (Database × Nat) := do
  let table ← db.table? name
  if !knowsColumns table values then
    .error .database
  else
    let numbers := (table.rows.filter (test table)).map Row.number
    let updated ← numbers.foldlM (fun db number => db.updateRow name values number) db
    .ok (updated, numbers.length)

/-- How many rows of a table refer to rows that are not there. -/
def straysIn (db : Database) (table : Table) : Nat :=
  (table.references.map (fun reference =>
    table.rows.countP (fun row =>
      !(row.cell reference.column).isNull
        && (db.rowsWith reference.table "id"
          (row.cell reference.column)).isEmpty))).foldr (· + ·) 0

/-- How many rows refer to rows that are not there. -/
def strays (db : Database) : Nat :=
  (db.tables.values.map db.straysIn).foldr (· + ·) 0

/-- Put values into columns of rows, identifiers and references among them. -/
def reassign
    (db : Database)
    (name : String)
    (values : List (String × Cell))
    (test : Table → Row → Bool) :
    Except Problem (Database × Nat) := do
  let (updated, count) ← db.updateWhere name values test
  if updated.strays ≤ db.strays then
    .ok (updated, count)
  else
    .error .database

/-! ## Definitions -/

/-- Add a table, unless there is one of its name. -/
def createTable (db : Database) (name : String) (table : Table) : Database :=
  if db.tables.contains name then db else db.setTable name table

/-- Add a column; a primary key cannot be added. -/
def addColumn
    (db : Database)
    (name : String)
    (column : Column) :
    Except Problem Database := do
  let table ← db.table? name
  if column.primary || table.hasColumn column.name then
    .error .database
  else
    .ok (db.setTable name (table.addColumn column))

/-- Whether some two rows agree on all of some columns. -/
def repeats (columns : List String) : List Row → Bool
  | [] => false
  | row :: rest =>
      rest.any (fun other => Table.agreeOn columns row other)
        || repeats columns rest

/-- Add an index, unless there is one of its name. -/
def createIndex
    (db : Database)
    (name : String)
    (index : Index) :
    Except Problem Database :=
  if db.indices.contains name then
    .ok db
  else do
    let table ← db.table? index.table
    if !index.columns.all table.hasColumn then
      .error .database
    else if index.isUnique && repeats index.columns table.rows then
      .error (clash index.table index.columns)
    else
      .ok { db with indices := db.indices.insert name index }

/-- Remove an index, if there is one of its name. -/
def dropIndex (db : Database) (name : String) : Database :=
  { db with indices := db.indices.erase name }

end Database

end TenantStore.Relational
