import TenantStore.Relational.Cell

namespace TenantStore.Relational

/-!
# Tables

A table is a list of rows in ascending order of their numbers. A new row gets
the greatest number yet and one more, so rows stand in the order in which they
were added.
-/

/-- A column of a table. -/
structure Column where
  name : String
  affinity : Affinity := .free
  /-- Whether the column may not be null. -/
  required : Bool := false
  /-- Whether no two rows may hold the same value. -/
  isUnique : Bool := false
  /-- Whether this is the primary key. -/
  primary : Bool := false
  /-- Whether the column shows the numbers of the rows. -/
  showsNumber : Bool := false
  default : Cell := .null
  deriving Repr, DecidableEq

/-- A row. -/
structure Row where
  number : Int
  /-- The cells under the names of their columns. -/
  cells : List (String × Cell)
  deriving Repr, DecidableEq

namespace Row

/-- The cell in a column. -/
def cell (row : Row) (column : String) : Cell :=
  (row.cells.lookup column).getD .null

/-- Put a cell into a column. -/
def set (row : Row) (column : String) (cell : Cell) : Row :=
  { row with
    cells := row.cells.map (fun entry =>
      if entry.1 = column then (column, cell) else entry) }

end Row

/-- A column whose values are identifiers of rows of another table. -/
structure Reference where
  column : String
  /-- The table whose identifiers are meant. -/
  table : String
  deriving Repr, DecidableEq

/-- A table. -/
structure Table where
  columns : List Column
  references : List Reference := []
  rows : List Row := []
  deriving Repr, DecidableEq

namespace Table

instance : Inhabited Table :=
  ⟨{ columns := [] }⟩

/-- The column with a name. -/
def column? (table : Table) (name : String) : Option Column :=
  table.columns.find? (fun column => column.name = name)

/-- Whether there is a column with a name. -/
def hasColumn (table : Table) (name : String) : Bool :=
  (table.column? name).isSome

/-- What a column stores when it is given a cell. -/
def stored (table : Table) (name : String) (cell : Cell) : Cell :=
  match table.column? name with
  | some column => column.affinity.store cell
  | none => cell

/-- Whether a row holds a value in a column, as the column would store it. -/
def holds (table : Table) (name : String) (value : Cell) (row : Row) : Bool :=
  (table.stored name value).sameValue (row.cell name)

/-- The rows that hold a value in a column. -/
def rowsWith (table : Table) (name : String) (value : Cell) : List Row :=
  table.rows.filter (table.holds name value)

/-- The number of the next row. -/
def nextNumber (table : Table) : Int :=
  match table.rows.getLast? with
  | some last => last.number + 1
  | none => 1

/-- The table without the rows that satisfy a test. -/
def deleteWhere (table : Table) (test : Row → Bool) : Table :=
  { table with rows := table.rows.filter (fun row => !test row) }

/-- Put a row at its place, replacing the row of the same number. -/
def placeRow (row : Row) : List Row → List Row
  | [] => [row]
  | head :: rest =>
      if row.number < head.number then
        row :: head :: rest
      else if row.number = head.number then
        row :: rest
      else
        head :: placeRow row rest

/-- The table with a row, in place of the row of the same number. -/
def place (table : Table) (row : Row) : Table :=
  { table with rows := placeRow row table.rows }

/-- The cells of a new row: what is given, and defaults for the rest. -/
def newCells (table : Table) (given : List (String × Cell)) : List (String × Cell) :=
  table.columns.map (fun column =>
    (column.name,
      column.affinity.store ((given.lookup column.name).getD column.default)))

/-- The column that shows the numbers of the rows. -/
def numberColumn? (table : Table) : Option Column :=
  table.columns.find? Column.showsNumber

/-- The row of some cells: it has the number it shows, or else the next one. -/
def newRow? (table : Table) (given : List (String × Cell)) : Option Row :=
  let cells := table.newCells given
  match table.numberColumn? with
  | none => some { number := table.nextNumber, cells := cells }
  | some column =>
      match (cells.lookup column.name).getD .null with
      | .null =>
          some (Row.set { number := table.nextNumber, cells := cells } column.name
            (.integer table.nextNumber))
      | .integer number => some { number := number, cells := cells }
      | _ => none

/-- Whether a row is null where it may not be. -/
def lacksRequired (table : Table) (row : Row) : Bool :=
  table.columns.any (fun column =>
    column.required && (row.cell column.name).isNull)

/-- Whether two rows hold the same values in all of some columns. -/
def agreeOn (columns : List String) (left right : Row) : Bool :=
  columns.all (fun name => (left.cell name).sameValue (right.cell name))

/-- The sets of columns that no two rows may agree on, by the columns alone. -/
def uniqueColumns (table : Table) : List (List String) :=
  (table.columns.filter Column.isUnique).map (fun column => [column.name])

/-- The table with another column, in which every row has its default. -/
def addColumn (table : Table) (column : Column) : Table :=
  { table with
    columns := table.columns ++ [column]
    rows := table.rows.map (fun row =>
      { row with
        cells := row.cells
          ++ [(column.name, column.affinity.store column.default)] }) }

end Table

end TenantStore.Relational
