import TenantStore.Proofs.Dictionaries
import TenantStore.Proofs.Relational.Tables

namespace TenantStore.Relational

/-!
# Constraints

What a statement checks of the row that it writes holds of every row of a
sound database: no column that must be filled is null, and no two rows agree
where they may not. Statements on single rows keep a database sound
(`Sound.insert`, `Sound.updateRow`), and changing a column that no two rows have
to differ in cannot fail (`Sound.updateRow_eq`).
-/

/-! ## Cells of a changed row -/

namespace Row

variable {row : Row} {column : String} {cell : Cell}

@[simp] theorem number_set : (row.set column cell).number = row.number :=
  rfl

@[simp] theorem names_set :
    (row.set column cell).cells.map Prod.fst = row.cells.map Prod.fst := by
  rw [set, List.map_map]
  apply List.map_congr_left
  intro entry _
  by_cases same : entry.1 = column
  · simp [same]
  · simp [same]

theorem lookup_set (row : Row) (column name : String) (cell : Cell) :
    (row.set column cell).cells.lookup name =
      (row.cells.lookup name).map (fun old => if name = column then cell else old) := by
  rw [set]
  induction row.cells with
  | nil => rfl
  | cons entry rest inductionHypothesis =>
      obtain ⟨key, old⟩ := entry
      rw [List.map_cons, List.lookup_cons, List.lookup_cons]
      by_cases changed : key = column
      · by_cases here : name = key
        · simp [changed, here]
        · have unlike : (name == column) = false := beq_false_of_ne (changed ▸ here)
          simp only [changed, if_true, unlike]
          exact inductionHypothesis
      · by_cases here : name = key
        · simp [changed, here]
        · have unlike : (name == key) = false := beq_false_of_ne here
          simp only [changed, if_false, unlike]
          exact inductionHypothesis

theorem cell_set_of_ne {name : String} (unlike : name ≠ column) :
    (row.set column cell).cell name = row.cell name := by
  simp [Row.cell, lookup_set, unlike]

theorem cell_set_self (present : row.cell column ≠ .null) :
    (row.set column cell).cell column = cell := by
  rw [Row.cell, lookup_set]
  cases found : row.cells.lookup column with
  | none => exact absurd (by rw [Row.cell, found]; rfl) present
  | some old => simp

/-- No cell becomes null unless null is put into it. -/
theorem isNull_of_isNull_set
    (full : cell.isNull = false)
    {name : String}
    (null : ((row.set column cell).cell name).isNull = true) :
    (row.cell name).isNull = true := by
  by_cases same : name = column
  · subst same
    rw [Row.cell, lookup_set] at null
    cases found : row.cells.lookup name with
    | none =>
        rw [Row.cell, found]
        rfl
    | some old =>
        simp [found, full] at null
  · rwa [cell_set_of_ne same] at null

/-- A row has a value in its own columns alone. -/
theorem mem_names_of_cell_ne_null (present : row.cell column ≠ .null) :
    column ∈ row.cells.map Prod.fst := by
  cases found : row.cells.lookup column with
  | none => exact absurd (by rw [Row.cell, found]; rfl) present
  | some old =>
      obtain ⟨before, after, cells_eq, _⟩ := List.lookup_eq_some_iff.mp found
      rw [cells_eq]
      simp

end Row

/-! ## Rows that agree -/

namespace Table

theorem agreeOn_comm {columns : List String} {left right : Row} :
    agreeOn columns left right = agreeOn columns right left := by
  have symm : ∀ first second : Cell, first.sameValue second = second.sameValue first := by
    intro first second
    cases first <;> cases second <;> simp [Cell.sameValue, Cell.isNull, eq_comm]
  simp only [agreeOn, symm (left.cell _)]

theorem agreeOn_congr
    {columns : List String}
    {left changedLeft right changedRight : Row}
    (sameLeft : ∀ column ∈ columns, changedLeft.cell column = left.cell column)
    (sameRight : ∀ column ∈ columns, changedRight.cell column = right.cell column) :
    agreeOn columns changedLeft changedRight = agreeOn columns left right := by
  rw [agreeOn, agreeOn, Bool.eq_iff_iff, List.all_eq_true, List.all_eq_true]
  constructor
  · intro agree column member
    rw [← sameLeft column member, ← sameRight column member]
    exact agree column member
  · intro agree column member
    rw [sameLeft column member, sameRight column member]
    exact agree column member

end Table

/-! ## Sound databases -/

namespace Database

/-- The rows of a table are in order and satisfy what its columns and the indices demand. -/
structure Admits (db : Database) (name : String) (table : Table) : Prop where
  ascending : table.Ascending
  /-- Every row has a cell for each column. -/
  named : ∀ row ∈ table.rows, row.cells.map Prod.fst = table.columns.map Column.name
  filled : ∀ row ∈ table.rows, table.lacksRequired row = false
  apart : ∀ columns ∈ db.uniqueSets name table, ∀ row ∈ table.rows, ∀ other ∈ table.rows,
    other.number ≠ row.number → Table.agreeOn columns row other = false

/-- All tables satisfy what is demanded of them. -/
def Sound (db : Database) : Prop :=
  ∀ name table, db.tables.get? name = some table → db.Admits name table

instance (db : Database) (name : String) (table : Table) : Decidable (db.Admits name table) :=
  have : DecidableRel Row.Precedes := fun left right =>
    inferInstanceAs (Decidable (left.number < right.number))
  decidable_of_iff
    (table.rows.Pairwise Row.Precedes ∧
      (∀ row ∈ table.rows, row.cells.map Prod.fst = table.columns.map Column.name) ∧
      (∀ row ∈ table.rows, table.lacksRequired row = false) ∧
      ∀ columns ∈ db.uniqueSets name table, ∀ row ∈ table.rows, ∀ other ∈ table.rows,
        other.number ≠ row.number → Table.agreeOn columns row other = false)
    ⟨fun ⟨ascending, named, filled, apart⟩ => ⟨ascending, named, filled, apart⟩,
      fun ⟨ascending, named, filled, apart⟩ => ⟨ascending, named, filled, apart⟩⟩

instance (db : Database) : Decidable db.Sound :=
  decidable_of_iff (∀ entry ∈ db.tables.entries, db.Admits entry.1 entry.2)
    ⟨fun all name table found => all (name, table) (Dict.get?_eq_some_iff.mp found),
      fun sound entry member => sound entry.1 entry.2 (Dict.get?_eq_some_iff.mpr member)⟩

section Uniqueness

variable {before after : Database} {name : String}

theorem mem_uniqueSets_iff {db : Database} {table : Table} {columns : List String} :
    columns ∈ db.uniqueSets name table ↔
      columns ∈ table.uniqueColumns ∨
        ∃ key index, db.indices.get? key = some index ∧
          (index.isUnique = true ∧ index.table = name) ∧ index.columns = columns := by
  simp only [uniqueSets, List.mem_append, List.mem_map, List.mem_filter, Dict.mem_values_iff,
    Bool.and_eq_true, decide_eq_true_eq]
  constructor
  · rintro (own | ⟨index, ⟨⟨key, found⟩, unique⟩, same⟩)
    · exact .inl own
    · exact .inr ⟨key, index, found, unique, same⟩
  · rintro (own | ⟨key, index, found, unique, same⟩)
    · exact .inl own
    · exact .inr ⟨index, ⟨⟨key, found⟩, unique⟩, same⟩

/-- Where there are fewer indices, fewer rows may not agree. -/
theorem mem_uniqueSets_of_subset
    (fewer : ∀ key index, after.indices.get? key = some index →
      before.indices.get? key = some index)
    {old new : Table}
    (sameColumns : new.columns = old.columns)
    {columns : List String}
    (member : columns ∈ after.uniqueSets name new) :
    columns ∈ before.uniqueSets name old := by
  rw [mem_uniqueSets_iff, Table.uniqueColumns, sameColumns] at member
  rw [mem_uniqueSets_iff, Table.uniqueColumns]
  rcases member with own | ⟨key, index, found, rest⟩
  · exact .inl own
  · exact .inr ⟨key, index, fewer key index found, rest⟩

theorem Sound.dropIndex {db : Database} (sound : db.Sound) (index : String) :
    (db.dropIndex index).Sound := by
  intro name table found
  have admits := sound name table found
  exact ⟨admits.ascending, admits.named, admits.filled, fun columns member =>
    admits.apart columns (mem_uniqueSets_of_subset
      (fun _ _ => Dict.get?_of_get?_erase) rfl member)⟩

end Uniqueness

variable {db after : Database} {name : String} {table : Table} {row : Row}

/-- A sound table in place of another one of the same columns. -/
theorem Sound.setTable
    (sound : db.Sound)
    (admits : db.Admits name table) :
    (db.setTable name table).Sound := by
  intro other found otherFound
  rw [Database.setTable, Dict.get?_insert] at otherFound
  split at otherFound
  · rename_i same
    cases otherFound
    subst same
    exact ⟨admits.ascending, admits.named, admits.filled, admits.apart⟩
  · have kept := sound other found otherFound
    exact ⟨kept.ascending, kept.named, kept.filled, kept.apart⟩

/-- A row that has passed the checks keeps a database sound. -/
theorem Sound.place
    (sound : db.Sound)
    (found : db.tables.get? name = some table)
    (named : row.cells.map Prod.fst = table.columns.map Column.name)
    (placed : db.place name table row = .ok after) :
    after.Sound := by
  have admits := sound name table found
  rw [Database.place] at placed
  split at placed
  · cases placed
  · rename_i filled
    rw [Bool.not_eq_true] at filled
    split at placed
    · cases placed
    · rename_i fits
      cases placed
      rw [clashing?, List.find?_eq_none] at fits
      have apart : ∀ columns ∈ db.uniqueSets name table, ∀ other ∈ table.rows,
          other.number ≠ row.number → Table.agreeOn columns row other = false := by
        intro columns columnsMember other member unlike
        have fit := fits columns columnsMember
        rw [List.any_eq_true] at fit
        rw [Bool.eq_false_iff]
        intro agree
        exact fit ⟨other, member, by simp [unlike, agree]⟩
      refine sound.setTable ⟨Table.ascending_placeRow admits.ascending, ?_, ?_, ?_⟩
      · intro other member
        rcases Table.mem_placeRow member with rfl | old
        · exact named
        · exact admits.named other old
      · intro other member
        rcases Table.mem_placeRow member with rfl | old
        · exact filled
        · exact admits.filled other old
      · intro columns columnsMember first firstMember second secondMember unlike
        rcases Table.mem_placeRow firstMember with rfl | firstOld <;>
          rcases Table.mem_placeRow secondMember with rfl | secondOld
        · exact absurd rfl unlike
        · exact apart columns columnsMember second secondOld unlike
        · rw [Table.agreeOn_comm]
          exact apart columns columnsMember first firstOld (Ne.symm unlike)
        · exact admits.apart columns columnsMember first firstOld second secondOld unlike

theorem names_newRow?
    {given : List (String × Cell)}
    (new : table.newRow? given = some row) :
    row.cells.map Prod.fst = table.columns.map Column.name := by
  have names : (table.newCells given).map Prod.fst = table.columns.map Column.name := by
    rw [Table.newCells, List.map_map]
    rfl
  rw [Table.newRow?] at new
  split at new
  · cases new
    exact names
  · split at new
    · cases new
      rw [Row.names_set, names]
    · cases new
      exact names
    · cases new

/-- A new row keeps a database sound. -/
theorem Sound.insert
    (sound : db.Sound)
    {given : List (String × Cell)}
    (inserted : db.insert name given = .ok after) :
    after.Sound := by
  rw [Database.insert, Database.table?] at inserted
  cases found : db.tables.get? name with
  | none =>
      rw [found] at inserted
      cases inserted
  | some table =>
      simp only [found, bind, Except.bind] at inserted
      split at inserted
      · cases inserted
      · split at inserted
        · cases inserted
        · rename_i row new
          split at inserted
          · cases inserted
          · exact sound.place found (names_newRow? new) inserted

/-- Values that go into one row keep a database sound. -/
theorem Sound.updateRow
    (sound : db.Sound)
    {values : List (String × Cell)}
    {number : Int}
    (updated : db.updateRow name values number = .ok after) :
    after.Sound := by
  rw [Database.updateRow, Database.table?] at updated
  cases found : db.tables.get? name with
  | none =>
      rw [found] at updated
      cases updated
  | some table =>
      simp only [found, bind, Except.bind] at updated
      split at updated
      · cases updated
        exact sound
      · rename_i row search
        refine sound.place found ?_ updated
        have named := (sound name table found).named row (List.mem_of_find?_eq_some search)
        rw [← named]
        clear updated search named
        induction values generalizing row with
        | nil => rfl
        | cons value rest inductionHypothesis =>
            rw [List.foldl_cons, inductionHypothesis, Row.names_set]

/-- Statements that keep a database sound do so one after the other. -/
theorem Sound.foldlM
    {statement : Database → α → Except Problem Database}
    (keeps : ∀ {db item after}, statement db item = .ok after → db.Sound → after.Sound)
    {items : List α}
    {db after : Database}
    (run : items.foldlM statement db = .ok after)
    (sound : db.Sound) :
    after.Sound := by
  induction items generalizing db with
  | nil =>
      cases run
      exact sound
  | cons item rest inductionHypothesis =>
      rw [List.foldlM_cons] at run
      cases taken : statement db item with
      | error problem =>
          rw [taken] at run
          cases run
      | ok middle =>
          rw [taken] at run
          exact inductionHypothesis run (keeps taken sound)

/--
A value that the column stores as it is goes into any row, if no two rows have
to differ in the column.
-/
theorem Sound.updateRow_eq
    (sound : db.Sound)
    (found : db.tables.get? name = some table)
    (member : row ∈ table.rows)
    {column : String}
    {cell : Cell}
    (stored : table.stored column cell = cell)
    (full : cell.isNull = false)
    (free : ∀ columns ∈ db.uniqueSets name table, column ∉ columns) :
    db.updateRow name [(column, cell)] row.number =
      .ok (db.setTable name
        { table with
          rows := table.rows.map (fun other =>
            if other.number = row.number then row.set column cell else other) }) := by
  have admits := sound name table found
  have filled : table.lacksRequired (row.set column cell) = false := by
    have before := admits.filled row member
    rw [Table.lacksRequired, List.any_eq_false] at before ⊢
    intro required requiredMember null
    rw [Bool.and_eq_true] at null
    exact before required requiredMember
      (Bool.and_eq_true _ _ ▸ ⟨null.1, Row.isNull_of_isNull_set full null.2⟩)
  have fits : clashing? (db.uniqueSets name table) table.rows (row.set column cell) = none := by
    rw [clashing?, List.find?_eq_none]
    intro columns columnsMember clash
    obtain ⟨other, otherMember, both⟩ := List.any_eq_true.mp clash
    rw [Bool.and_eq_true, bne_iff_ne] at both
    have kept : ∀ name ∈ columns, (row.set column cell).cell name = row.cell name := by
      intro name nameMember
      exact Row.cell_set_of_ne (fun same => free columns columnsMember (same ▸ nameMember))
    rw [Table.agreeOn_congr kept (fun _ _ => rfl),
      admits.apart columns columnsMember row member other otherMember both.1] at both
    cases both.2
  have placed : Table.placeRow (row.set column cell) table.rows =
      table.rows.map (fun other =>
        if other.number = row.number then row.set column cell else other) :=
    Table.placeRow_map admits.ascending ⟨row, member, rfl⟩
  rw [Database.updateRow, Database.table?, found]
  simp only [bind, Except.bind, admits.ascending.find?_number member, List.foldl_cons,
    List.foldl_nil, stored, Database.place, filled, if_neg Bool.false_ne_true, fits, Table.place,
    placed]

end Database

end TenantStore.Relational
