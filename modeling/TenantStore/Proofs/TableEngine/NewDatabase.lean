import TenantStore.Proofs.TableEngine.MissingColumns
import TenantStore.Proofs.TableEngine.Representation
import TenantStore.Proofs.TableEngine.Versions
import TenantStore.TableEngine.Upkeep

namespace TenantStore.TableEngine

/-!
# A new database

The upkeep of an empty database cannot fail. Every migration finds nothing to
recode and records its version, and the schema is created from nothing, so the
result holds no records at all.
-/

open Relational (Cell Row Column Table Index Database)

/-! ## Migrations -/

/-- The table of the versions that some migrations have recorded. -/
def versionTable (now : Timestamp) (migrations : List Migration) : Table :=
  { Schema.versions with rows := migrations.map (versionRow now) }

/-- A database that has nothing but versions. -/
def versioned (now : Timestamp) (migrations : List Migration) : Database where
  tables := (∅ : Dict Table).insert Schema.versionsName (versionTable now migrations)

/-- A migration of a database without rows records its version. -/
theorem migration_step
    (now : Timestamp)
    {migration : Migration}
    {earlier : List Migration}
    (elsewhere : migration.table ≠ Schema.versionsName)
    (later : ∀ other ∈ earlier, other.version < migration.version) :
    ∃ noticed, migration.step now (versioned now earlier) =
      .ok (versioned now (earlier ++ [migration]), noticed) := by
  have nothing : migration.pending (versioned now earlier) = [] := by
    have noTable : (versioned now earlier).tables.get? migration.table = none := by
      rw [versioned, Dict.get?_insert, if_neg (fun same => elsewhere same.symm)]
      rfl
    rw [Migration.pending, noTable]
  have recoded : migration.recodeAll (versioned now earlier) =
      .ok (versioned now earlier, 0) := by
    cases index : migration.dropsIndex with
    | none =>
        simp only [Migration.recodeAll, index, nothing]
        rfl
    | some name =>
        have same : (versioned now earlier).dropIndex name = versioned now earlier := rfl
        simp only [Migration.recodeAll, index, same, nothing]
        rfl
  have found : (versioned now earlier).tables.get? Schema.versionsName =
      some (versionTable now earlier) := by
    rw [versioned, Dict.get?_insert, if_pos rfl]
  have inOrder : VersionsInOrder (versioned now earlier) := by
    refine ⟨?_, ?_, fun _ _ none => by cases none⟩
    · intro table isTable
      rw [found, Option.some.injEq] at isTable
      rw [← isTable]
      rfl
    · intro table isTable row member
      rw [found, Option.some.injEq] at isTable
      rw [← isTable] at member
      obtain ⟨other, _, rfl⟩ := List.mem_map.mp member
      rfl
  have greatest : ∀ row ∈ (versionTable now earlier).rows, row.number < migration.version := by
    intro row member
    obtain ⟨other, otherMember, rfl⟩ := List.mem_map.mp member
    exact Int.ofNat_lt.mpr (later other otherMember)
  have inserted := inOrder.insert_version found now greatest
  have recorded : (versioned now earlier).setTable Schema.versionsName
      { versionTable now earlier with
        rows := (versionTable now earlier).rows ++ [versionRow now migration] } =
        versioned now (earlier ++ [migration]) := by
    rw [Database.setTable, versioned, versioned, Dict.insert_insert]
    simp [versionTable]
  rw [recorded] at inserted
  simp only [Migration.step, recoded, bind, Except.bind, inserted]
  exact ⟨_, rfl⟩

/-- Migrations of a database without rows record their versions one by one. -/
theorem leads_migrations
    (now : Timestamp)
    (earlier : List Migration)
    {later : List Migration}
    (elsewhere : ∀ migration ∈ later, migration.table ≠ Schema.versionsName)
    (ascending : (earlier ++ later).Pairwise
      (fun left right => left.version < right.version)) :
    Leads (versioned now earlier) (later.map (fun migration => migration.step now))
      (versioned now (earlier ++ later)) := by
  induction later generalizing earlier with
  | nil =>
      rw [List.append_nil]
      exact leads_nil _
  | cons migration rest inductionHypothesis =>
      have before : ∀ other ∈ earlier, other.version < migration.version :=
        fun other member =>
          (List.pairwise_append.mp ascending).2.2 other member migration
            List.mem_cons_self
      obtain ⟨noticed, taken⟩ :=
        migration_step now (elsewhere migration List.mem_cons_self) before
      have appended : earlier ++ migration :: rest = earlier ++ [migration] ++ rest := by
        simp
      rw [appended] at ascending ⊢
      exact .cons taken (inductionHypothesis (earlier ++ [migration])
        (fun other member => elsewhere other (List.mem_cons_of_mem _ member)) ascending)

/-! ## The schema -/

/-- A database with some more tables. -/
def addTables (entries : List (String × Table)) (db : Database) : Database :=
  entries.foldl (fun db entry => db.setTable entry.1 entry.2) db

/-- A database with some more indices. -/
def addIndices (entries : List (String × Index)) (db : Database) : Database :=
  { db with
    indices := entries.foldl (fun indices entry => indices.insert entry.1 entry.2)
      db.indices }

/-- Where all tables are missing, they are added as they are declared. -/
theorem completeTables_of_missing
    {db : Database}
    {entries : List (String × Table)}
    (distinct : (entries.map Prod.fst).Nodup)
    (missing : ∀ entry ∈ entries, db.tables.get? entry.1 = none) :
    completeTables entries db = addTables entries db := by
  induction entries generalizing db with
  | nil => rfl
  | cons entry rest inductionHypothesis =>
      obtain ⟨headApart, restDistinct⟩ := List.nodup_cons.mp distinct
      rw [completeTables, List.foldl_cons, missing entry List.mem_cons_self, completed]
      refine inductionHypothesis restDistinct (fun other member => ?_)
      have apart : entry.1 ≠ other.1 :=
        fun same => headApart (same ▸ List.mem_map_of_mem member)
      rw [Database.setTable, Dict.get?_insert, if_neg apart]
      exact missing other (List.mem_cons_of_mem _ member)

/-- Where all indices are missing, they are added. -/
theorem completeIndices_of_missing
    {indices : Dict Index}
    {entries : List (String × Index)}
    (distinct : (entries.map Prod.fst).Nodup)
    (missing : ∀ entry ∈ entries, indices.get? entry.1 = none) :
    completeIndices entries indices =
      entries.foldl (fun indices entry => indices.insert entry.1 entry.2) indices := by
  apply Dict.ext_get?
  intro name
  rw [get?_completeIndices, Dict.get?_foldl_insert distinct]
  by_cases listed : name ∈ entries.map Prod.fst
  · obtain ⟨entry, member, rfl⟩ := List.mem_map.mp listed
    rw [missing entry member, Option.none_or, Option.or_none]
  · rw [Dict.valueIn?_eq_none listed, Option.or_none, Option.none_or]

theorem get?_addTables
    {db : Database}
    {entries : List (String × Table)}
    {name : String}
    {table : Table}
    (found : (addTables entries db).tables.get? name = some table) :
    (name, table) ∈ entries ∨ db.tables.get? name = some table := by
  induction entries generalizing db with
  | nil => exact .inr found
  | cons entry rest inductionHypothesis =>
      rcases @inductionHypothesis (db.setTable entry.1 entry.2) found with later | before
      · exact .inl (List.mem_cons_of_mem _ later)
      · simp only [Database.setTable, Dict.get?_insert] at before
        split at before
        · rename_i same
          cases before
          exact .inl (same ▸ List.mem_cons_self)
        · exact .inr before

/-! ## The upkeep of an empty database -/

/-- The database that is made from nothing. -/
def newDatabase (now : Timestamp) : Database :=
  addIndices Schema.indices
    (addTables Schema.tables (versioned now Migration.migrations))

theorem newDatabase_tables (now : Timestamp) (kind : Kind) :
    (newDatabase now).tables.get? kind.tableName = some kind.schema := by
  cases kind <;>
    simp [newDatabase, addIndices, addTables, Schema.tables, Database.setTable,
      Kind.tableName, Kind.schema]

/-- The new database holds no records and no installation. -/
theorem newDatabase_represents (now : Timestamp) :
    Represents (newDatabase now) (fun _ => []) none where
  tables kind := ⟨kind.schema, newDatabase_tables now kind,
    { columns := rfl
      references := rfl
      ascending := by cases kind <;> exact .nil
      distinct := List.nodup_nil
      rows := by cases kind <;> exact .nil }⟩
  installations := by
    simp [newDatabase, addIndices, addTables, Schema.tables, Database.setTable,
      installationTable]
    rfl
  indices := rfl
  references := by
    have ofSchema : ∀ entry ∈ Schema.tables, ∀ reference ∈ entry.2.references,
        reference.table = Kind.account.tableName ∨
          reference.table = Kind.user.tableName ∨
            reference.table = Kind.policy.tableName := by
      decide
    intro name table found reference member
    have origin := @get?_addTables (versioned now Migration.migrations) Schema.tables
      name table found
    rcases origin with schema | version
    · rcases ofSchema (name, table) schema reference member with same | same | same
      · exact ⟨_, same⟩
      · exact ⟨_, same⟩
      · exact ⟨_, same⟩
    · rw [versioned, Dict.get?_insert] at version
      split at version
      · cases version
        cases member
      · cases version
  addresses := .nil

theorem versioned_tables_none
    (now : Timestamp)
    {entry : String × Table}
    (member : entry ∈ Schema.tables) :
    (versioned now Migration.migrations).tables.get? entry.1 = none := by
  have elsewhere : ∀ entry ∈ Schema.tables, Schema.versionsName ≠ entry.1 := by decide
  rw [versioned, Dict.get?_insert, if_neg (elsewhere entry member)]
  rfl

/-- The schema is added to a database that has nothing but versions. -/
theorem withSchema_versioned (now : Timestamp) :
    withSchema (versioned now Migration.migrations) = newDatabase now := by
  rw [newDatabase, addIndices,
    ← completeTables_of_missing tableNames_distinct (fun _ => versioned_tables_none now),
    completeTables_indices, withSchema,
    completeIndices_of_missing indexNames_distinct (fun _ _ => rfl)]

/-- The upkeep of an empty database succeeds with a new database. -/
theorem upkeep_empty (now : Timestamp) :
    (upkeep .empty now).failure = none ∧ (upkeep .empty now).db = newDatabase now := by
  have ensured : ensureVersions .empty = versioned now [] := rfl
  have version : currentVersion (versioned now []) = .ok 0 := rfl
  have pending : Migration.after 0 = Migration.migrations := rfl
  have migrated : Leads (versioned now [])
      (Migration.migrations.map (fun migration => migration.step now))
      (versioned now Migration.migrations) :=
    leads_migrations now [] (by decide) (by decide)
  have ofKinds : ∀ entry ∈ Schema.indices, ∃ kind ∈ Kind.all,
      entry.2.table = kind.tableName ∧
        entry.2.columns.all kind.schema.hasColumn = true := by
    decide
  have schema : Leads (versioned now Migration.migrations) schemaSteps (newDatabase now) := by
    rw [← withSchema_versioned]
    apply leads_schemaSteps
    · intro entry member table found
      rw [versioned_tables_none now member] at found
      cases found
    · intro entry member
      obtain ⟨kind, _, table, columns⟩ := ofKinds entry member
      refine ⟨kind.schema, ?_, columns, fun _ => by cases kind <;> rfl⟩
      rw [table, withSchema_versioned]
      exact newDatabase_tables now kind
  obtain ⟨noticed, run_eq⟩ := migrated.append schema []
  rw [upkeep]
  simp only [ensured, version, upkeepSteps, pending, Upkeep.run, run_eq]
  exact ⟨trivial, trivial⟩

end TenantStore.TableEngine
