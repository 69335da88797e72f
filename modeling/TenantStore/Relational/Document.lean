import TenantStore.Json.Fields
import TenantStore.Json.Parser
import TenantStore.Json.Printer
import TenantStore.Relational.Database

namespace TenantStore.Relational

/-!
# Databases as documents

The form in which a database is kept in a file: a JSON document with its
tables, their columns and rows, and its indices.
-/

namespace Cell

/-- A cell; bytes stand in a list, which tells them from a text. -/
def toJson : Cell → Json
  | .null => .null
  | .integer value => .int value
  | .text value => .text value
  | .blob bytes => .array (bytes.map (fun byte => .nat byte.toNat))

/-- A byte. -/
def byte? (json : Json) : Option UInt8 :=
  (json.natBelow? 256).map UInt8.ofNat

/-- The cell that a document stands for. -/
def ofJson? : Json → Option Cell
  | .null => some .null
  | .number (.integer value) => some (.integer value)
  | .string value => value.map .text
  | .array items => (Json.readAll? byte? items).map .blob
  | _ => none

end Cell

namespace Affinity

/-- The affinities under their names. -/
def named : List (String × Affinity) :=
  [("free", .free), ("texts", .texts), ("numbers", .numbers)]

/-- The name of an affinity in a file. -/
def name : Affinity → String
  | .free => "free"
  | .texts => "texts"
  | .numbers => "numbers"

end Affinity

namespace Column

/-- The fields in the order of declaration. -/
def fieldNames : List String :=
  ["name", "affinity", "required", "unique", "primary", "shows_number",
    "default"]

/-- A column with everything that was declared of it. -/
def toJson (column : Column) : Json :=
  .record [
    ("name", .text column.name),
    ("affinity", .text column.affinity.name),
    ("required", .bool column.required),
    ("unique", .bool column.isUnique),
    ("primary", .bool column.primary),
    ("shows_number", .bool column.showsNumber),
    ("default", column.default.toJson)
  ]

/-- The column that a document describes. Only its name has to be given. -/
def ofJson? (json : Json) : Option Column := do
  let fields ← json.fields? fieldNames
  some {
    name := ← fields.require "name" Json.text?
    affinity := ← fields.get "affinity" (Json.variant? Affinity.named) .free
    required := ← fields.get "required" Json.bool? false
    isUnique := ← fields.get "unique" Json.bool? false
    primary := ← fields.get "primary" Json.bool? false
    showsNumber := ← fields.get "shows_number" Json.bool? false
    default := ← fields.get "default" Cell.ofJson? .null
  }

end Column

namespace Reference

/-- A reference from a column to the rows of a table. -/
def toJson (reference : Reference) : Json :=
  .record [("column", .text reference.column), ("table", .text reference.table)]

/-- The reference that a document describes. -/
def ofJson? (json : Json) : Option Reference := do
  let fields ← json.fields? ["column", "table"]
  some {
    column := ← fields.require "column" Json.text?
    table := ← fields.require "table" Json.text?
  }

end Reference

namespace Row

/-- A row: its number, and its cells in the order of the columns. -/
def toJson (row : Row) : Json :=
  .record [
    ("number", .int row.number),
    ("cells", .array (row.cells.map (fun entry => entry.2.toJson)))
  ]

/-- The row that a document describes, if it has as many cells as there are columns. -/
def ofJson? (columns : List Column) (json : Json) : Option Row := do
  let fields ← json.fields? ["number", "cells"]
  let cells ← fields.require "cells" (Json.list? Cell.ofJson?)
  if cells.length = columns.length then
    some {
      number := ← fields.require "number" Json.int?
      cells := (columns.map Column.name).zip cells
    }
  else
    none

end Row

namespace Table

/-- A table with its columns and its rows, which leave the names of the columns out. -/
def toJson (table : Table) : Json :=
  .record [
    ("columns", .array (table.columns.map Column.toJson)),
    ("references", .array (table.references.map Reference.toJson)),
    ("rows", .array (table.rows.map Row.toJson))
  ]

/-- The table that a document describes. Its rows are read by its columns. -/
def ofJson? (json : Json) : Option Table := do
  let fields ← json.fields? ["columns", "references", "rows"]
  let columns ← fields.require "columns" (Json.list? Column.ofJson?)
  some {
    columns := columns
    references := ← fields.get "references" (Json.list? Reference.ofJson?) []
    rows := ← fields.get "rows" (Json.list? (Row.ofJson? columns)) []
  }

end Table

namespace Index

/-- An index on some columns of a table. -/
def toJson (index : Index) : Json :=
  .record [
    ("table", .text index.table),
    ("columns", .texts index.columns),
    ("unique", .bool index.isUnique)
  ]

/-- The index that a document describes. -/
def ofJson? (json : Json) : Option Index := do
  let fields ← json.fields? ["table", "columns", "unique"]
  some {
    table := ← fields.require "table" Json.text?
    columns := ← fields.require "columns" Json.texts?
    isUnique := ← fields.get "unique" Json.bool? false
  }

end Index

namespace Database

/-- A database with its tables and indices under their names. -/
def toJson (db : Database) : Json :=
  .record [
    ("tables", .ofDict Table.toJson db.tables),
    ("indices", .ofDict Index.toJson db.indices)
  ]

/-- The database that a document describes. -/
def ofJson? (json : Json) : Option Database := do
  let fields ← json.fields? ["tables", "indices"]
  some {
    tables := ← fields.require "tables" (Json.dict? Table.ofJson?)
    indices := ← fields.get "indices" (Json.dict? Index.ofJson?) ∅
  }

/-- The bytes of a database in a file. -/
def bytes (db : Database) : ByteArray :=
  db.toJson.compactText.toUTF8

/-- The database that the bytes of a file spell. -/
def ofBytes? (bytes : ByteArray) : Option Database :=
  (Json.ofBytes? bytes).bind ofJson?

end Database

end TenantStore.Relational
