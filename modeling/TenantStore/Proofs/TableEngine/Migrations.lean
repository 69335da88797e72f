import TenantStore.Proofs.TableEngine.Recoding

namespace TenantStore.TableEngine

/-!
# Migrations one after the other

Some of the migrations, in their order, make of a database what `Migrated`
says: what the binary cells of their columns encoded is read back from texts,
every other cell is as it was, and the versions are recorded. If all of these
columns are legible, a run of the migrations takes effect (`foldl_migrations`).
-/

open Relational (Cell Row Column Table Index Database)

/-! ## What migrations make of a database -/

/--
A row after some migrations of the tables of a name: what a binary cell of a
migrated column encoded is read back from a text, and all other cells are as
they were.
-/
structure RowMigrated (migrations : List Migration) (name : String) (before after : Row) :
    Prop where
  number : after.number = before.number
  names : after.cells.map Prod.fst = before.cells.map Prod.fst
  recoded : ∀ migration ∈ migrations, migration.table = name →
    ∀ bytes value, before.cell migration.column = .blob bytes →
      migration.encoding.Encodes value bytes →
        (∃ text, after.cell migration.column = .text text) ∧
          migration.encoding.read after migration.column = some value
  kept : ∀ column, (∀ migration ∈ migrations, migration.table = name →
      migration.column = column → ∀ bytes, before.cell column ≠ .blob bytes) →
    after.cell column = before.cell column

/-- A table after some migrations. -/
structure TableMigrated (migrations : List Migration) (name : String) (before after : Table) :
    Prop where
  columns : after.columns = before.columns
  references : after.references = before.references
  rows : List.Forall₂ (RowMigrated migrations name) before.rows after.rows

/-- The versions that a database has recorded. -/
def versionsOf (db : Database) : Table :=
  (db.tables.get? Schema.versionsName).getD Schema.versions

/-- A database after some migrations: they are recorded, and their indices are dropped. -/
structure Migrated (migrations : List Migration) (now : Timestamp) (before after : Database) :
    Prop where
  tables : ∀ name, name ≠ Schema.versionsName →
    Option.Rel (TableMigrated migrations name)
      (before.tables.get? name) (after.tables.get? name)
  versions : after.tables.get? Schema.versionsName =
    some { versionsOf before with
      rows := (versionsOf before).rows ++ migrations.map (versionRow now) }
  indices : ∀ name, after.indices.get? name =
    if ∃ migration ∈ migrations, migration.dropsIndex = some name then none
      else before.indices.get? name

/-! ## Related tables -/

section Related

variable {relation : Table → Table → Prop} {first last : Option Table}

/-- What is related by a stronger relation is related by a weaker one. -/
theorem rel_imp
    {other : Table → Table → Prop}
    (weaker : ∀ before after, relation before after → other before after)
    (related : Option.Rel relation first last) :
    Option.Rel other first last := by
  cases related with
  | none => exact .none
  | some tables => exact .some (weaker _ _ tables)

/-- A change at the start can be made part of the relation. -/
theorem rel_of_rel_map
    {change : Table → Table}
    (related : Option.Rel relation (first.map change) last) :
    Option.Rel (fun before after => relation (change before) after) first last := by
  cases first with
  | none =>
      cases related
      exact .none
  | some table =>
      cases related with
      | some tables => exact .some tables

/-- What related tables have in common is the same on both sides. -/
theorem map_eq_of_rel
    {observe : Table → α}
    (same : ∀ before after, relation before after → observe after = observe before)
    (related : Option.Rel relation first last) :
    last.map observe = first.map observe := by
  cases related with
  | none => rfl
  | some tables => exact congrArg some (same _ _ tables)

end Related

/-! ## One migration after the other -/

section Composition

variable {migration : Migration} {rest : List Migration} {name : String}
  (apart : ∀ other ∈ rest, other.table = migration.table → other.column ≠ migration.column)

/-- Without migrations a row is as it was. -/
theorem RowMigrated.nil (name : String) (row : Row) : RowMigrated [] name row row where
  number := rfl
  names := rfl
  recoded _ none := by cases none
  kept _ _ := rfl

/-- A migration of another table leaves a row. -/
theorem RowMigrated.cons_elsewhere
    {before after : Row}
    (elsewhere : migration.table ≠ name)
    (later : RowMigrated rest name before after) :
    RowMigrated (migration :: rest) name before after where
  number := later.number
  names := later.names
  recoded other member here := by
    rcases List.mem_cons.mp member with rfl | inRest
    · exact absurd here elsewhere
    · exact later.recoded other inRest here
  kept column plain :=
    later.kept column (fun other inRest => plain other (List.mem_cons_of_mem _ inRest))

include apart in
/-- A migration of the table recodes the row before the others do. -/
theorem RowMigrated.cons_here
    (known : migration ∈ Migration.migrations)
    {before after : Row}
    (later : RowMigrated rest migration.table (migration.recodeRow before) after) :
    RowMigrated (migration :: rest) migration.table before after where
  number := later.number.trans Migration.number_recodeRow
  names := later.names.trans Migration.names_recodeRow
  recoded other member here bytes value blob encoded := by
    rcases List.mem_cons.mp member with rfl | inRest
    -- No later migration reads the column, so the document stays.
    · have decoded := (@Migration.decode_eq_ok_iff other known before.number bytes _).mpr
        ⟨value, encoded, rfl⟩
      have kept := later.kept other.column (fun third inRest same sameColumn =>
        absurd sameColumn (apart third inRest same))
      rw [Migration.cell_recodeRow blob decoded] at kept
      exact ⟨⟨_, kept⟩, Encoding.read_eq_some _ value kept⟩
    · refine later.recoded other inRest here bytes value ?_ encoded
      rw [Migration.cell_recodeRow_of_ne (apart other inRest here), blob]
  kept column plain := by
    have same : (migration.recodeRow before).cell column = before.cell column := by
      by_cases here : column = migration.column
      · rw [Migration.recodeRow_of_not_blob]
        intro bytes
        rw [← here]
        exact plain migration List.mem_cons_self rfl here.symm bytes
      · exact Migration.cell_recodeRow_of_ne here
    rw [← same]
    refine later.kept column (fun other inRest here sameColumn bytes => ?_)
    rw [same]
    exact plain other (List.mem_cons_of_mem _ inRest) here sameColumn bytes

/-- Without migrations a table is as it was. -/
theorem TableMigrated.nil (name : String) (table : Table) : TableMigrated [] name table table where
  columns := rfl
  references := rfl
  rows := List.forall₂_same.mpr (fun row _ => .nil name row)

/-- A migration of another table leaves a table. -/
theorem TableMigrated.cons_elsewhere
    {before after : Table}
    (elsewhere : migration.table ≠ name)
    (later : TableMigrated rest name before after) :
    TableMigrated (migration :: rest) name before after where
  columns := later.columns
  references := later.references
  rows := later.rows.imp (fun _ _ row => row.cons_elsewhere elsewhere)

include apart in
/-- A migration recodes its table before the others do. -/
theorem TableMigrated.cons_here
    (known : migration ∈ Migration.migrations)
    {before after : Table}
    (later : TableMigrated rest migration.table (migration.recodeTable before) after) :
    TableMigrated (migration :: rest) migration.table before after where
  columns := later.columns
  references := later.references
  rows := (List.forall₂_map_left_iff.mp later.rows).imp
    (fun _ _ row => row.cons_here apart known)

/-- The recorded versions, if there is a table of them. -/
theorem versionsOf_eq {db : Database} {table : Table}
    (found : db.tables.get? Schema.versionsName = some table) :
    versionsOf db = table := by
  rw [versionsOf, found, Option.getD_some]

theorem Migrated.nil
    {db : Database}
    {table : Table}
    (found : db.tables.get? Schema.versionsName = some table)
    (now : Timestamp) :
    Migrated [] now db db where
  tables name _ := by
    cases db.tables.get? name with
    | none => exact .none
    | some table => exact .some (.nil name table)
  versions := by
    rw [versionsOf_eq found, List.map_nil, List.append_nil, found]
  indices name := by simp

include apart in
/-- The first migration and the later ones are all of them. -/
theorem Migrated.cons
    (known : migration ∈ Migration.migrations)
    {now : Timestamp}
    {before middle after : Database}
    {table : Table}
    (found : before.tables.get? Schema.versionsName = some table)
    (applies : migration.Applies now before middle)
    (later : Migrated rest now middle after) :
    Migrated (migration :: rest) now before after where
  tables name notVersions := by
    have related := later.tables name notVersions
    by_cases here : name = migration.table
    · subst here
      rw [applies.table] at related
      exact rel_imp (fun _ _ table => table.cons_here apart known) (rel_of_rel_map related)
    · rw [applies.others name here notVersions] at related
      exact rel_imp (fun _ _ table => table.cons_elsewhere (Ne.symm here)) related
  versions := by
    have appended := applies.versions table found
    rw [later.versions, versionsOf_eq appended, versionsOf_eq found, List.map_cons,
      List.append_assoc]
    rfl
  indices name := by
    rw [later.indices, applies.indices, Migration.dropped]
    simp only [List.exists_mem_cons_iff]
    cases drops : migration.dropsIndex with
    | none => simp
    | some index =>
        by_cases here : index = name
        · simp [Database.dropIndex, here]
        · simp [Database.dropIndex, here]

end Composition

/-! ## Databases that can be migrated -/

/--
A sound database in whose migrated columns no two rows have to differ, but for
the index that the migration drops, and whose versions are in order.
-/
structure Migratable (db : Database) : Prop where
  sound : db.Sound
  inOrder : VersionsInOrder db
  unconstrained : ∀ migration ∈ Migration.migrations, migration.Unconstrained db

instance (db : Database) : Decidable (Migratable db) :=
  decidable_of_iff
    (db.Sound ∧ VersionsInOrder db ∧
      ∀ migration ∈ Migration.migrations, migration.Unconstrained db)
    ⟨fun ⟨sound, inOrder, unconstrained⟩ => ⟨sound, inOrder, unconstrained⟩,
      fun ⟨sound, inOrder, unconstrained⟩ => ⟨sound, inOrder, unconstrained⟩⟩

/-- Columns stay unconstrained where the tables keep their columns and no index is new. -/
theorem Migration.Unconstrained.mono
    {migration : Migration}
    {before after : Database}
    (unconstrained : migration.Unconstrained before)
    (columns : (after.tables.get? migration.table).map Table.columns =
      (before.tables.get? migration.table).map Table.columns)
    (fewer : ∀ key index, after.indices.get? key = some index →
      before.indices.get? key = some index) :
    migration.Unconstrained after := by
  intro table found names unique
  rw [found, Option.map_some, eq_comm, Option.map_eq_some_iff] at columns
  obtain ⟨old, oldFound, sameColumns⟩ := columns
  refine unconstrained old oldFound names
    (Database.mem_uniqueSets_of_subset ?_ sameColumns.symm unique)
  intro key index has
  rw [dropped] at has ⊢
  split at has
  · rw [Database.dropIndex, Dict.get?_erase] at has ⊢
    split at has
    · cases has
    · rename_i unlike
      rw [if_neg unlike]
      exact fewer key index has
  · exact fewer key index has

/-- A migration creates no index. -/
theorem Migration.Applies.fewer
    {migration : Migration}
    {now : Timestamp}
    {before after : Database}
    (applies : migration.Applies now before after) :
    ∀ key index, after.indices.get? key = some index →
      before.indices.get? key = some index := by
  intro key index has
  rw [applies.indices] at has
  exact dropped_indices has

/-- A migration leaves a database that can be migrated. -/
theorem Migration.Applies.migratable
    {migration : Migration}
    {now : Timestamp}
    {before after : Database}
    {notices : List Notice}
    (taken : migration.step now before = .ok (after, notices))
    (applies : migration.Applies now before after)
    {table : Table}
    (found : before.tables.get? Schema.versionsName = some table)
    (migratable : Migratable before) :
    Migratable after where
  sound := step_sound taken migratable.sound
  inOrder := by
    have appended := applies.versions table found
    have standard := migratable.inOrder.standard table found
    have numbers := migratable.inOrder.numbers table found
    refine ⟨?_, ?_, ?_⟩
    · intro other otherFound
      rw [appended, Option.some.injEq] at otherFound
      rw [← otherFound]
      exact standard
    · intro other otherFound
      rw [appended, Option.some.injEq] at otherFound
      rw [← otherFound]
      intro row member
      rcases List.mem_append.mp member with old | new
      · exact numbers row old
      · rw [List.mem_singleton.mp new]
        rfl
    · intro key index has
      exact migratable.inOrder.indices key index (applies.fewer key index has)
  unconstrained other known := by
    refine (migratable.unconstrained other known).mono ?_ applies.fewer
    by_cases here : other.table = migration.table
    · rw [here, applies.table, Option.map_map]
      rfl
    · rw [applies.others _ here (migration_elsewhere other known)]

/-! ## Columns that are not migrated -/

namespace Migration

/-- The cells in the column of a migration, under the numbers of their rows. -/
def cells (migration : Migration) (db : Database) : Option (List (Int × Cell)) :=
  (db.tables.get? migration.table).map (fun table =>
    table.rows.map (fun row => (row.number, row.cell migration.column)))

/-- A migration can read its cells if all bytes in them encode something. -/
theorem legible_iff_cells {migration : Migration} {db : Database} :
    migration.Legible db ↔
      ∀ cells ∈ migration.cells db, ∀ cell ∈ cells, ∀ bytes, cell.2 = .blob bytes →
        ∃ value, migration.encoding.Encodes value bytes := by
  simp only [Legible, cells, Option.mem_def, Option.map_eq_some_iff, forall_exists_index,
    and_imp, forall_apply_eq_imp_iff₂, List.forall_mem_map]

/-- The bytes of a numbered cell that is binary. -/
def bytes? (cell : Int × Cell) : Option (Int × List UInt8) :=
  match cell.2 with
  | .blob bytes => some (cell.1, bytes)
  | _ => none

/-- What is pending depends on the columns of the table and on the cells of one of them. -/
theorem pending_congr
    {migration : Migration}
    {before after : Database}
    (columns : (after.tables.get? migration.table).map Table.columns =
      (before.tables.get? migration.table).map Table.columns)
    (sameCells : migration.cells after = migration.cells before) :
    migration.pending after = migration.pending before := by
  have ofCells : ∀ rows : List Row, rows.filterMap (blob? migration.column) =
      (rows.map (fun row => (row.number, row.cell migration.column))).filterMap bytes? := by
    intro rows
    rw [List.filterMap_map]
    rfl
  simp only [cells] at sameCells
  simp only [pending]
  generalize after.tables.get? migration.table = last at columns sameCells ⊢
  generalize before.tables.get? migration.table = first at columns sameCells ⊢
  cases first with
  | none =>
      rw [Option.map_none, Option.map_eq_none_iff] at columns
      rw [columns]
  | some old =>
      rw [Option.map_some, Option.map_eq_some_iff] at columns sameCells
      obtain ⟨new, rfl, sameColumns⟩ := columns
      obtain ⟨other, same, rows⟩ := sameCells
      cases same
      simp only [Table.hasColumn, Table.column?, sameColumns, ofCells, rows]

end Migration

section Frame

variable {taken : List Migration} {migration : Migration} {now : Timestamp}
  {before after : Database}
  (migrated : Migrated taken now before after)
  (known : migration ∈ Migration.migrations)

include migrated known

/-- A migration leaves the columns of its table. -/
theorem Migrated.columns_eq :
    (after.tables.get? migration.table).map Table.columns =
      (before.tables.get? migration.table).map Table.columns :=
  map_eq_of_rel (fun _ _ table => table.columns)
    (migrated.tables _ (migration_elsewhere migration known))

/-- A column that is not migrated keeps all of its cells. -/
theorem Migrated.cells_eq
    (apart : ∀ other ∈ taken, other.table = migration.table →
      other.column ≠ migration.column) :
    migration.cells after = migration.cells before := by
  refine map_eq_of_rel ?_ (migrated.tables _ (migration_elsewhere migration known))
  intro old new table
  have rows := table.rows
  clear table
  generalize old.rows = oldRows at rows ⊢
  generalize new.rows = newRows at rows ⊢
  induction rows with
  | nil => rfl
  | cons row _ inductionHypothesis =>
      have kept := row.kept migration.column (fun other member here same =>
        absurd same (apart other member here))
      rw [List.map_cons, List.map_cons, inductionHypothesis, row.number, kept]

end Frame

/-! ## Runs -/

/-- Migrations are in the order of their versions. -/
theorem migrations_ascending :
    Migration.migrations.Pairwise (fun left right => left.version < right.version) := by
  decide

/-- No two migrations recode the same column. -/
theorem migrations_apart :
    Migration.migrations.Pairwise (fun left right =>
      right.table = left.table → right.column ≠ left.column) := by
  decide

/-- What is noticed of a migration of a database. -/
def Migration.applied (migration : Migration) (db : Database) : Notice :=
  .appliedMigration migration.version migration.description (migration.pending db).length

/-- Migrations of legible columns take effect one after the other. -/
theorem foldl_migrations
    {taken : List Migration}
    (sublist : taken.Sublist Migration.migrations)
    {now : Timestamp}
    {db : Database}
    (migratable : Migratable db)
    {table : Table}
    (found : db.tables.get? Schema.versionsName = some table)
    (later : ∀ row ∈ table.rows, ∀ migration ∈ taken, row.number < migration.version)
    (legible : ∀ migration ∈ taken, migration.Legible db)
    (notices : List Notice) :
    ∃ after,
      (taken.map (fun migration => migration.step now)).foldl Upkeep.andThen
          { db := db, notices := notices } =
        { db := after
          notices := notices ++ taken.map (fun migration => migration.applied db) } ∧
        Migrated taken now db after ∧ Migratable after := by
  induction taken generalizing db table notices with
  | nil => exact ⟨db, by simp, .nil found now, migratable⟩
  | cons migration rest inductionHypothesis =>
      have known : migration ∈ Migration.migrations := sublist.subset List.mem_cons_self
      have restKnown : ∀ other ∈ rest, other ∈ Migration.migrations :=
        fun other member => sublist.subset (List.mem_cons_of_mem _ member)
      have restLater := (List.pairwise_cons.mp (migrations_ascending.sublist sublist)).1
      have apart := (List.pairwise_cons.mp (migrations_apart.sublist sublist)).1
      obtain ⟨middle, taken, applies⟩ := @Migration.step_eq migration db now known
        migratable.sound (migratable.unconstrained migration known) migratable.inOrder _ found
        (fun row member => later row member migration List.mem_cons_self)
        (legible migration List.mem_cons_self)
      -- The first migration is a run of its own, so it leaves the columns of the rest alone.
      have alone : Migrated [migration] now db middle :=
        .cons (fun _ none => by cases none) known found applies
          (.nil (applies.versions table found) now)
      have sameCells : ∀ other ∈ rest, other.cells middle = other.cells db := by
        intro other member
        refine alone.cells_eq (restKnown other member) (fun third isFirst same => ?_)
        rw [List.mem_singleton.mp isFirst] at same ⊢
        exact Ne.symm (apart other member same.symm)
      have middleLater : ∀ row ∈ table.rows ++ [versionRow now migration], ∀ other ∈ rest,
          row.number < other.version := by
        intro row member other inRest
        rcases List.mem_append.mp member with old | new
        · exact later row old other (List.mem_cons_of_mem _ inRest)
        · rw [List.mem_singleton.mp new]
          exact Int.ofNat_lt.mpr (restLater other inRest)
      have middleLegible : ∀ other ∈ rest, other.Legible middle := by
        intro other inRest
        rw [Migration.legible_iff_cells, sameCells other inRest, ← Migration.legible_iff_cells]
        exact legible other (List.mem_cons_of_mem _ inRest)
      obtain ⟨after, run, migrated, afterMigratable⟩ :=
        inductionHypothesis ((List.sublist_cons_self _ _).trans sublist)
          (applies.migratable taken found migratable) (applies.versions table found)
          middleLater middleLegible (notices ++ [migration.applied db])
      refine ⟨after, ?_, .cons apart known found applies migrated, afterMigratable⟩
      have samePending : rest.map (fun other => other.applied middle) =
          rest.map (fun other => other.applied db) := by
        apply List.map_congr_left
        intro other member
        rw [Migration.applied, Migration.applied,
          Migration.pending_congr (alone.columns_eq (restKnown other member))
            (sameCells other member)]
      rw [List.map_cons, List.foldl_cons, Upkeep.andThen]
      simp only [taken]
      rw [← Migration.applied, run, samePending, List.append_assoc]
      rfl

end TenantStore.TableEngine
