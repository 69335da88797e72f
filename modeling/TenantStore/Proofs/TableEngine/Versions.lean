import TenantStore.Proofs.Relational.Constraints
import TenantStore.Proofs.TableEngine.Definitions

namespace TenantStore.TableEngine

/-!
# Versions of the schema

The version of a database is the greatest one that is recorded. As long as the
rows of the versions have the versions as their numbers, a later version can
always be recorded (`VersionsInOrder.insert_version`).
-/

open Relational (Cell Row Column Table Index Database)

/-! ## The greatest version -/

/-- A cell that is null or an integer up to some limit. -/
def AtMost (limit : Int) (cell : Cell) : Prop :=
  cell = .null ∨ ∃ value ≤ limit, cell = .integer value

/-- The greater of two is bounded if both are. -/
theorem atMost_greater_iff {limit : Int} {left right : Cell} :
    AtMost limit (greater left right) ↔ AtMost limit left ∧ AtMost limit right := by
  cases left <;> cases right <;> (simp [AtMost, greater]; try omega)

/-- The greater of two reaches the bound if one of them does. -/
theorem greater_eq_limit_iff {limit : Int} {left right : Cell}
    (leftAtMost : AtMost limit left)
    (rightAtMost : AtMost limit right) :
    greater left right = .integer limit ↔
      left = .integer limit ∨ right = .integer limit := by
  rcases leftAtMost with rfl | ⟨first, firstLess, rfl⟩ <;>
    rcases rightAtMost with rfl | ⟨second, secondLess, rfl⟩ <;>
      (simp [greater]; try omega)

/-- The greatest of several is the bound if one reaches it and none goes beyond. -/
theorem foldl_greater_eq_iff {limit : Int} {cells : List Cell} {start : Cell} :
    cells.foldl greater start = .integer limit ↔
      (start = .integer limit ∨ .integer limit ∈ cells) ∧
        AtMost limit start ∧ ∀ cell ∈ cells, AtMost limit cell := by
  induction cells generalizing start with
  | nil =>
      simp only [List.foldl_nil, List.not_mem_nil, or_false, false_implies, implies_true,
        and_true]
      constructor
      · rintro rfl
        exact ⟨rfl, .inr ⟨limit, Int.le_refl limit, rfl⟩⟩
      · exact And.left
  | cons cell rest inductionHypothesis =>
      rw [List.foldl_cons, inductionHypothesis, atMost_greater_iff, List.forall_mem_cons,
        List.mem_cons]
      constructor
      · rintro ⟨greatest, ⟨startAtMost, cellAtMost⟩, restAtMost⟩
        refine ⟨?_, startAtMost, cellAtMost, restAtMost⟩
        rcases greatest with here | later
        · rcases (greater_eq_limit_iff startAtMost cellAtMost).mp here with same | same
          · exact .inl same
          · exact .inr (.inl same.symm)
        · exact .inr (.inr later)
      · rintro ⟨greatest, startAtMost, cellAtMost, restAtMost⟩
        refine ⟨?_, ⟨startAtMost, cellAtMost⟩, restAtMost⟩
        rcases greatest with same | same | later
        · exact .inl ((greater_eq_limit_iff startAtMost cellAtMost).mpr (.inl same))
        · exact .inl ((greater_eq_limit_iff startAtMost cellAtMost).mpr (.inr same.symm))
        · exact .inr later

/-- The greatest of several is null if all are. -/
theorem foldl_greater_eq_null {cells : List Cell} {start : Cell}
    (null : cells.foldl greater start = .null) :
    start = .null ∧ ∀ cell ∈ cells, cell = .null := by
  induction cells generalizing start with
  | nil => exact ⟨null, fun _ member => by cases member⟩
  | cons cell rest inductionHypothesis =>
      obtain ⟨both, restNull⟩ := inductionHypothesis null
      have parts : start = .null ∧ cell = .null := by
        cases start <;> cases cell <;> simp [greater] at both ⊢
      exact ⟨parts.1, List.forall_mem_cons.mpr ⟨parts.2, restNull⟩⟩

/-! ## Recorded versions -/

/-- The versions that are recorded are numbers up to a limit. -/
def VersionsUpTo (limit : Int) (db : Database) : Prop :=
  ∃ table, db.tables.get? Schema.versionsName = some table ∧
    table.columns = Schema.versions.columns ∧
      ∀ row ∈ table.rows, AtMost limit (row.cell "version")

/-- The greatest version that is recorded. -/
def Reaches (limit : Int) (db : Database) : Prop :=
  ∃ table, db.tables.get? Schema.versionsName = some table ∧
    table.columns = Schema.versions.columns ∧
      (∀ row ∈ table.rows, AtMost limit (row.cell "version")) ∧
        ∃ row ∈ table.rows, row.cell "version" = .integer limit

/-- The current version is the one that was reached. -/
theorem Reaches.currentVersion_eq
    {limit : Int}
    {db : Database}
    (reaches : Reaches limit db)
    (small : -0x80000000 ≤ limit ∧ limit < 0x80000000) :
    currentVersion db = .ok limit := by
  obtain ⟨table, found, columns, atMost, row, member, same⟩ := reaches
  have has : table.hasColumn "version" = true := by
    rw [Table.hasColumn, Table.column?, columns]
    rfl
  have greatest : (table.rows.map (·.cell "version")).foldl greater .null =
      .integer limit := by
    rw [foldl_greater_eq_iff]
    refine ⟨.inr (List.mem_map.mpr ⟨row, member, same⟩), .inl rfl, ?_⟩
    exact List.forall_mem_map.mpr atMost
  simp only [currentVersion, Database.table?, found, bind, Except.bind, has, greatest,
    Bool.not_true, if_neg Bool.false_ne_true]
  rw [if_pos]
  simpa using small

/-- The table of versions, where there is one, has the columns that upkeep gives it. -/
def StandardVersions (db : Database) : Prop :=
  ∀ table, db.tables.get? Schema.versionsName = some table →
    table.columns = Schema.versions.columns

/-- An empty database has no other table of versions. -/
theorem StandardVersions.empty : StandardVersions .empty := by
  intro table found
  cases found

/-- The table of versions is made as it should be. -/
theorem StandardVersions.ensureVersions {db : Database} (standard : StandardVersions db) :
    StandardVersions (ensureVersions db) := by
  intro table found
  rw [TableEngine.ensureVersions, Database.createTable] at found
  split at found
  · exact standard table found
  · rw [Database.setTable, Dict.get?_insert, if_pos rfl, Option.some.injEq] at found
    rw [← found]

/-- A database of some version records no greater one. -/
theorem versionsUpTo_of_currentVersion
    {db : Database}
    {version : Int}
    (current : currentVersion db = .ok version)
    (standard : StandardVersions db) :
    VersionsUpTo version db := by
  obtain ⟨table, found, rest⟩ := Except.bind_eq_ok_iff.mp current
  have stored := table?_eq_ok_iff.mp found
  refine ⟨table, stored, standard table stored, ?_⟩
  split at rest
  · cases rest
  · split at rest
    · rename_i null
      intro row member
      exact .inl ((foldl_greater_eq_null null).2 _ (List.mem_map_of_mem member))
    · rename_i greatest
      split at rest
      · cases rest
        exact List.forall_mem_map.mp (foldl_greater_eq_iff.mp greatest).2.2
      · cases rest
    · cases rest

/-- The version depends on the recorded versions alone. -/
theorem currentVersion_congr
    {before after : Database}
    (same : after.tables.get? Schema.versionsName = before.tables.get? Schema.versionsName) :
    currentVersion after = currentVersion before := by
  rw [currentVersion, currentVersion, Database.table?, Database.table?, same]

/-! ## Recording a version -/

/-- The row that records a migration. -/
def versionRow (now : Timestamp) (migration : Migration) : Row where
  number := migration.version
  cells := [
    ("version", .integer migration.version),
    ("description", .text migration.description),
    ("applied_at", .integer now.millis.toNat)]

/-- A row of versions shows the version of its migration. -/
theorem versionRow_cell (now : Timestamp) (migration : Migration) :
    (versionRow now migration).cell "version" = .integer migration.version :=
  rfl

/-- What a migration records is the row of its version. -/
theorem newRow?_version
    {table : Table}
    (columns : table.columns = Schema.versions.columns)
    (now : Timestamp)
    (migration : Migration) :
    table.newRow? [
        ("version", .integer migration.version),
        ("description", .text migration.description),
        ("applied_at", .integer now.millis.toNat)] = some (versionRow now migration) := by
  simp only [Table.newRow?, Table.newCells, Table.numberColumn?, columns]
  rfl

/-- The rows of versions have the versions as their numbers, and only these are unique. -/
structure VersionsInOrder (db : Database) : Prop where
  standard : StandardVersions db
  numbers : ∀ table, db.tables.get? Schema.versionsName = some table →
    ∀ row ∈ table.rows, row.cell "version" = .integer row.number
  indices : ∀ key index, db.indices.get? key = some index → index.isUnique = true →
    index.table ≠ Schema.versionsName

instance (db : Database) : Decidable (VersionsInOrder db) :=
  decidable_of_iff
    ((∀ table ∈ db.tables.get? Schema.versionsName,
        table.columns = Schema.versions.columns ∧
          ∀ row ∈ table.rows, row.cell "version" = .integer row.number) ∧
      ∀ entry ∈ db.indices.entries, entry.2.isUnique = true →
        entry.2.table ≠ Schema.versionsName)
    ⟨fun ⟨tables, indices⟩ =>
        ⟨fun table found => (tables table found).1, fun table found => (tables table found).2,
          fun key index found => indices (key, index) (Dict.get?_eq_some_iff.mp found)⟩,
      fun ⟨standard, numbers, indices⟩ =>
        ⟨fun table found => ⟨standard table found, numbers table found⟩,
          fun entry member => indices entry.1 entry.2 (Dict.get?_eq_some_iff.mpr member)⟩⟩

/-- Where the versions are the same and no index is new, they are still in order. -/
theorem VersionsInOrder.of_same
    {before after : Database}
    (inOrder : VersionsInOrder before)
    (same : after.tables.get? Schema.versionsName = before.tables.get? Schema.versionsName)
    (fewer : ∀ key index, after.indices.get? key = some index →
      before.indices.get? key = some index) :
    VersionsInOrder after where
  standard table found := inOrder.standard table (same ▸ found)
  numbers table found := inOrder.numbers table (same ▸ found)
  indices key index found := inOrder.indices key index (fewer key index found)

/-- A later version than those that are there can be recorded. -/
theorem VersionsInOrder.insert_version
    {db : Database}
    (inOrder : VersionsInOrder db)
    {table : Table}
    (found : db.tables.get? Schema.versionsName = some table)
    (now : Timestamp)
    {migration : Migration}
    (later : ∀ row ∈ table.rows, row.number < migration.version) :
    db.insert Schema.versionsName [
        ("version", .integer migration.version),
        ("description", .text migration.description),
        ("applied_at", .integer now.millis.toNat)] =
      .ok (db.setTable Schema.versionsName
        { table with rows := table.rows ++ [versionRow now migration] }) := by
  have columns := inOrder.standard table found
  have known : Database.knowsColumns table [
      ("version", .integer migration.version),
      ("description", .text migration.description),
      ("applied_at", .integer now.millis.toNat)] = true := by
    simp only [Database.knowsColumns, Table.hasColumn, Table.column?, columns]
    rfl
  have fresh : table.rows.any (fun other =>
      other.number = (versionRow now migration).number) = false := by
    rw [List.any_eq_false]
    intro row member
    have less := later row member
    rw [decide_eq_true_eq]
    exact Int.ne_of_lt less
  have filled : table.lacksRequired (versionRow now migration) = false := by
    simp only [Table.lacksRequired, columns]
    rfl
  have apart : Database.clashing? (db.uniqueSets Schema.versionsName table) table.rows
      (versionRow now migration) = none := by
    rw [Database.clashing?, List.find?_eq_none]
    intro names unique clash
    have names_eq : names = ["version"] := by
      rcases Database.mem_uniqueSets_iff.mp unique with own | ⟨key, index, has, both, _⟩
      · rw [Table.uniqueColumns, columns] at own
        exact List.mem_singleton.mp own
      · exact absurd both.2 (inOrder.indices key index has both.1)
    obtain ⟨row, member, agree⟩ := List.any_eq_true.mp clash
    rw [names_eq, Bool.and_eq_true, Table.agreeOn, List.all_eq_true] at agree
    have same := agree.2 "version" List.mem_cons_self
    rw [versionRow_cell, inOrder.numbers table found row member] at same
    have less := later row member
    simp [Cell.sameValue] at same
    omega
  have placed : Table.placeRow (versionRow now migration) table.rows =
      table.rows ++ [versionRow now migration] := Table.placeRow_append later
  rw [Database.insert, Database.table?, found]
  simp only [bind, Except.bind, known, newRow?_version columns, fresh, Database.place, filled,
    apart, Table.place, placed, Bool.not_true, if_neg Bool.false_ne_true]

end TenantStore.TableEngine
