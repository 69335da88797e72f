import TenantStore.Proofs.Relational.Tables
import TenantStore.Proofs.TableEngine.PartialRows

namespace TenantStore.TableEngine

/-!
# Rows that entities are written to

The cells of an entity fill every column of its table, and the entity is read
back from its row without what stands in rows of its own
(`Kind.written_of_cells`).
-/

open Relational (Cell Row Table)

/-! ## Rows of a kind -/

/-- Cells that fill every column of a table and no others. -/
structure FillsColumns (table : Table) (given : Cells) : Prop where
  known : Relational.Database.knowsColumns table given = true
  all : table.columns.all (fun column =>
    given.any (fun entry => entry.1 = column.name)) = true
  required : ∀ number, table.lacksRequired (rowOf number table given) = false

namespace Kind

/-- The row that an entity is written to. -/
structure Written (kind : Kind) (owner : String) (value : kind.Value) (given : Cells) :
    Prop where
  fills : FillsColumns kind.schema given
  key_cell : ∀ number,
    (rowOf number kind.schema given).cell "id" = .text (kind.key value)
  owner_cell : kind ≠ .account → ∀ number,
    (rowOf number kind.schema given).cell kind.ownerColumn = .text owner
  read : ∀ number,
    kind.read (rowOf number kind.schema given) = some (kind.kept owner value)

/-- A new row has all columns. -/
theorem shows_rowOf (kind : Kind) (number : Int) (given : Cells) :
    Shows (fun _ => true) kind.schema given (rowOf number kind.schema given) :=
  fun _ member => Table.cell_newCells kind.columns_distinct member number given

/-- Nothing is replaced by a default where all columns are there. -/
theorem remains_all (kind : Kind) (owner : String) (value : kind.Value) :
    kind.remains (fun _ => true) (kind.kept owner value) = kind.kept owner value := by
  cases kind <;> rfl

theorem read_rowOf
    {kind : Kind}
    {owner : String}
    {value : kind.Value}
    {given : Cells}
    (cells_eq : kind.cells owner value = .ok given)
    (number : Int) :
    kind.read (rowOf number kind.schema given) = some (kind.kept owner value) :=
  (read_shows cells_eq rfl (fun _ => rfl) (shows_rowOf kind number given)).trans
    (congrArg some (remains_all kind owner value))

/-- The cells of an entity fill a row that it is read back from. -/
theorem written_of_cells
    {kind : Kind}
    {owner : String}
    {value : kind.Value}
    {given : Cells}
    (cells_eq : kind.cells owner value = .ok given) :
    kind.Written owner value given := by
  have read := read_rowOf cells_eq
  cases kind with
  | account =>
      simp only [cells, accountCells, Except.bind_eq_ok_iff, timeCell_eq_ok_iff,
        wideCell_eq_ok_iff]
        at cells_eq
      obtain ⟨_, ⟨_, rfl⟩, _, ⟨_, rfl⟩, same⟩ := cells_eq
      cases same
      exact ⟨⟨rfl, rfl, fun _ => rfl⟩, fun _ => rfl, fun other => absurd rfl other, read⟩
  | setupKey =>
      simp only [cells, setupKeyCells, Except.bind_eq_ok_iff, timeCell_eq_ok_iff]
        at cells_eq
      obtain ⟨_, ⟨_, rfl⟩, _, ⟨_, rfl⟩, _, ⟨_, rfl⟩, _, ⟨_, rfl⟩, same⟩ := cells_eq
      cases same
      exact ⟨⟨rfl, rfl, fun _ => rfl⟩, fun _ => rfl, fun _ _ => rfl, read⟩
  | peer =>
      simp only [cells, peerCells, Except.bind_eq_ok_iff, timeCell_eq_ok_iff]
        at cells_eq
      obtain ⟨_, status, _, ⟨_, rfl⟩, same⟩ := cells_eq
      obtain ⟨_, rfl⟩ := statusCells_eq_ok status
      cases same
      exact ⟨⟨rfl, rfl, fun _ => rfl⟩, fun _ => rfl, fun _ _ => rfl, read⟩
  | user =>
      simp only [cells, userCells, Except.bind_eq_ok_iff, timeCell_eq_ok_iff]
        at cells_eq
      obtain ⟨_, ⟨_, rfl⟩, same⟩ := cells_eq
      cases same
      exact ⟨⟨rfl, rfl, fun _ => rfl⟩, fun _ => rfl, fun _ _ => rfl, read⟩
  | token =>
      simp only [cells, tokenCells, Except.bind_eq_ok_iff, timeCell_eq_ok_iff]
        at cells_eq
      obtain ⟨_, ⟨_, rfl⟩, _, ⟨_, rfl⟩, _, ⟨_, rfl⟩, same⟩ := cells_eq
      cases same
      exact ⟨⟨rfl, rfl, fun _ => rfl⟩, fun _ => rfl, fun _ _ => rfl, read⟩
  | group =>
      cases cells_eq
      exact ⟨⟨rfl, rfl, fun _ => rfl⟩, fun _ => rfl, fun _ _ => rfl, read⟩
  | policy =>
      cases cells_eq
      exact ⟨⟨rfl, rfl, fun _ => rfl⟩, fun _ => rfl, fun _ _ => rfl, read⟩
  | rule =>
      cases cells_eq
      exact ⟨⟨rfl, rfl, fun _ => rfl⟩, fun _ => rfl, fun _ _ => rfl, read⟩
  | route =>
      cases cells_eq
      exact ⟨⟨rfl, rfl, fun _ => rfl⟩, fun _ => rfl, fun _ _ => rfl, read⟩
  | nameServerGroup =>
      cases cells_eq
      exact ⟨⟨rfl, rfl, fun _ => rfl⟩, fun _ => rfl, fun _ _ => rfl, read⟩

end Kind

end TenantStore.TableEngine
