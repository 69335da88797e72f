import Mathlib.Data.List.Forall2
import TenantStore.Proofs.TableEngine.WrittenRows
import TenantStore.TableEngine.Queries

namespace TenantStore.TableEngine

/-!
# Contents of a database

The contents of a database are a list of records for each kind of entities: a
record is an entity with its owner. A row stands for the record that it was
written for, and a table holds the records that its rows stand for.
-/

open Relational (Cell Row Table Index Database)

/-! ## Records -/

/-- An entity with the identifier of its owner. -/
structure Record (kind : Kind) where
  owner : String
  value : kind.Value

namespace Record

variable {kind : Kind}

/-- The identifier of the entity. -/
def key (record : Record kind) : String :=
  kind.key record.value

/-- What a row keeps of the entity. -/
def kept (record : Record kind) : kind.Value :=
  kind.kept record.owner record.value

/-- A row is the one that a record is written to. -/
def StandsIn (record : Record kind) (row : Row) : Prop :=
  ∃ given, kind.cells record.owner record.value = .ok given ∧
    row.cells = kind.schema.newCells given

/-- The entity can be written to a row. -/
def IsStorable (record : Record kind) : Prop :=
  ∃ given, kind.cells record.owner record.value = .ok given

/-- Two records of peers give one address twice in an account. -/
def SharesAddress : {kind : Kind} → Record kind → Record kind → Prop
  | .peer, left, right =>
      left.owner = right.owner ∧ Peer.ip left.value = Peer.ip right.value
  | _, _, _ => False

section Rows

variable {record : Record kind} {row : Row}

theorem StandsIn.exists_cells (stands : record.StandsIn row) :
    ∃ given, kind.cells record.owner record.value = .ok given ∧
      row = rowOf row.number kind.schema given := by
  obtain ⟨given, cells_eq, row_eq⟩ := stands
  refine ⟨given, cells_eq, ?_⟩
  cases row
  simp only at row_eq
  rw [row_eq]

theorem StandsIn.exists_written (stands : record.StandsIn row) :
    ∃ given, kind.Written record.owner record.value given ∧
      row = rowOf row.number kind.schema given := by
  obtain ⟨given, cells_eq, row_eq⟩ := stands.exists_cells
  exact ⟨given, Kind.written_of_cells cells_eq, row_eq⟩

theorem StandsIn.key_cell (stands : record.StandsIn row) :
    row.cell "id" = .text record.key := by
  obtain ⟨given, written, row_eq⟩ := stands.exists_written
  rw [row_eq]
  exact written.key_cell row.number

theorem StandsIn.owner_cell
    (stands : record.StandsIn row)
    (owned : kind ≠ .account) :
    row.cell kind.ownerColumn = .text record.owner := by
  obtain ⟨given, written, row_eq⟩ := stands.exists_written
  rw [row_eq]
  exact written.owner_cell owned row.number

theorem StandsIn.read (stands : record.StandsIn row) :
    kind.read row = some record.kept := by
  obtain ⟨given, written, row_eq⟩ := stands.exists_written
  rw [row_eq]
  exact written.read row.number

end Rows

end Record

/-! ## Tables -/

/-- The records of each kind, in the order in which they were added. -/
abbrev Contents := (kind : Kind) → List (Record kind)

/-- A table of a kind holds records. -/
structure Holds {kind : Kind} (table : Table) (records : List (Record kind)) : Prop where
  columns : table.columns = kind.schema.columns
  references : table.references = kind.schema.references
  ascending : table.Ascending
  distinct : (records.map Record.key).Nodup
  rows : List.Forall₂ (fun row record => record.StandsIn row) table.rows records

namespace Holds

variable {kind : Kind} {table : Table} {records : List (Record kind)}

theorem newCells_eq (holds : Holds table records) (given : Cells) :
    table.newCells given = kind.schema.newCells given := by
  rw [Table.newCells, Table.newCells, holds.columns]

theorem stored_eq (holds : Holds table records) (column : String) (cell : Cell) :
    table.stored column cell = kind.schema.stored column cell := by
  rw [Table.stored, Table.stored, Table.column?, Table.column?, holds.columns]

theorem knowsColumns_eq (holds : Holds table records) (given : Cells) :
    Relational.Database.knowsColumns table given =
      Relational.Database.knowsColumns kind.schema given := by
  rw [Relational.Database.knowsColumns, Relational.Database.knowsColumns]
  simp only [Table.hasColumn, Table.column?, holds.columns]

end Holds

section Matching

variable {kind : Kind} {rows : List Row} {records : List (Record kind)}
  {test : Row → Bool} {keep : Record kind → Bool}

/-- Rows and records that pass the same test stand for each other. -/
theorem forall₂_filter
    (stand : List.Forall₂ (fun row record => Record.StandsIn record row) rows records)
    (agree : ∀ row record, Record.StandsIn record row → test row = keep record) :
    List.Forall₂ (fun row record => Record.StandsIn record row)
      (rows.filter test) (records.filter keep) := by
  induction stand with
  | nil => exact .nil
  | @cons row record others otherRecords stands rest inductionHypothesis =>
      rw [List.filter_cons, List.filter_cons, agree row record stands]
      split
      · exact .cons stands inductionHypothesis
      · exact inductionHypothesis

/-- A search among rows finds the row of the record that a search finds. -/
theorem forall₂_find?
    (stand : List.Forall₂ (fun row record => Record.StandsIn record row) rows records)
    (agree : ∀ row record, Record.StandsIn record row → test row = keep record) :
    (rows.find? test = none ∧ records.find? keep = none) ∨
      ∃ row record, rows.find? test = some row ∧
        records.find? keep = some record ∧ record.StandsIn row := by
  induction stand with
  | nil => exact .inl ⟨rfl, rfl⟩
  | @cons row record others otherRecords stands rest inductionHypothesis =>
      rw [List.find?_cons, List.find?_cons, agree row record stands]
      cases keep record with
      | true => exact .inr ⟨row, record, rfl, rfl, stands⟩
      | false => exact inductionHypothesis

/-- The identifiers in rows are those of the records. -/
theorem forall₂_ids
    (stand : List.Forall₂ (fun row record => Record.StandsIn record row) rows records) :
    rows.map (fun row => row.cell "id") = (records.map Record.key).map Cell.text := by
  induction stand with
  | nil => rfl
  | @cons row record others otherRecords stands rest inductionHypothesis =>
      rw [List.map_cons, List.map_cons, List.map_cons, stands.key_cell,
        inductionHypothesis]

/-- What a reader finds in each row is found in all of them. -/
theorem readRows_map
    {read : Row → Option α}
    {view : Record kind → α}
    (stand : List.Forall₂ (fun row record => Record.StandsIn record row) rows records)
    (reads : ∀ row record, Record.StandsIn record row → read row = some (view record)) :
    readRows read rows = .ok (records.map view) := by
  have all : rows.mapM read = some (records.map view) := by
    induction stand with
    | nil => rfl
    | @cons row record others otherRecords stands rest inductionHypothesis =>
        rw [List.mapM_cons, reads row record stands, inductionHypothesis]
        rfl
  rw [readRows, all]

/-- What rows stand for is read back from them. -/
theorem readRows_eq
    (stand : List.Forall₂ (fun row record => Record.StandsIn record row) rows records) :
    readRows kind.read rows = .ok (records.map Record.kept) :=
  readRows_map stand (fun _ _ stands => stands.read)

end Matching

end TenantStore.TableEngine
