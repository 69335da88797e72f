import TenantStore.Proofs.TableEngine.NewDatabase

namespace TenantStore.TableEngine

/-!
# Opening a database again

Upkeep that succeeds leaves nothing to do: it has recorded the latest version
and made every table, column and index of the schema (`upkeep_upToDate`). Calls
keep it so, and upkeep of a database that is up to date changes nothing at all
(`UpToDate.upkeep_eq`).
-/

open Relational (Cell Row Column Table Index Database)

/-! ## Steps -/

/-- A step that succeeds keeps a property of databases. -/
def StepKeeps (step : Upkeep.Step) (property : Database → Prop) : Prop :=
  ∀ {db after notices}, step db = .ok (after, notices) → property db → property after

section Steps

variable {steps : List Upkeep.Step} {step : Upkeep.Step} {start : Upkeep}
  {assumed : Database → Prop} (property : Database → Prop)

/-- What a step keeps is kept when it is taken. -/
theorem andThen_keeps
    (keeps : StepKeeps step property)
    (holds : property start.db) :
    property (start.andThen step).db := by
  rw [Upkeep.andThen]
  split
  · exact holds
  · split
    · rename_i run
      exact keeps run holds
    · exact holds

/-- What every step keeps is kept by all of them. -/
theorem foldl_keeps
    (keeps : ∀ step ∈ steps, StepKeeps step property)
    (holds : property start.db) :
    property (steps.foldl Upkeep.andThen start).db := by
  induction steps generalizing start with
  | nil => exact holds
  | cons step rest inductionHypothesis =>
      exact inductionHypothesis
        (fun other member => keeps other (List.mem_cons_of_mem _ member))
        (andThen_keeps property (keeps step List.mem_cons_self) holds)

/-- A failure ends everything. -/
theorem foldl_of_failure {problem : Problem} (failed : start.failure = some problem) :
    steps.foldl Upkeep.andThen start = start := by
  induction steps generalizing start with
  | nil => rfl
  | cons step rest inductionHypothesis =>
      have kept : start.andThen step = start := by
        rw [Upkeep.andThen, failed]
      rw [List.foldl_cons, kept]
      exact inductionHypothesis failed

/-- Steps that succeed begin after success. -/
theorem failure_none_of_foldl
    (succeeds : (steps.foldl Upkeep.andThen start).failure = none) :
    start.failure = none := by
  cases failed : start.failure with
  | none => rfl
  | some problem =>
      rw [foldl_of_failure failed, failed] at succeeds
      cases succeeds

/-- If all steps succeed, what one of them brings about holds in the end. -/
theorem foldl_establishes
    (member : step ∈ steps)
    (establishes : ∀ {db after notices}, step db = .ok (after, notices) →
      assumed db → property after)
    (keepsAssumed : ∀ step ∈ steps, StepKeeps step assumed)
    (keeps : ∀ step ∈ steps, StepKeeps step property)
    (assumes : assumed start.db)
    (succeeds : (steps.foldl Upkeep.andThen start).failure = none) :
    property (steps.foldl Upkeep.andThen start).db := by
  induction steps generalizing start with
  | nil => cases member
  | cons head rest inductionHypothesis =>
      have restKeeps : ∀ step ∈ rest, StepKeeps step property :=
        fun other later => keeps other (List.mem_cons_of_mem _ later)
      rcases List.mem_cons.mp member with rfl | later
      · show property (rest.foldl Upkeep.andThen (start.andThen step)).db
        refine foldl_keeps property restKeeps ?_
        have headSucceeds : (start.andThen step).failure = none :=
          failure_none_of_foldl succeeds
        rw [Upkeep.andThen] at headSucceeds ⊢
        split at headSucceeds
        · rename_i failed
          rw [failed] at headSucceeds
          cases headSucceeds
        · split at headSucceeds
          · rename_i run
            exact establishes run assumes
          · cases headSucceeds
      · exact inductionHypothesis later
          (fun other restMember => keepsAssumed other (List.mem_cons_of_mem _ restMember))
          restKeeps (andThen_keeps assumed (keepsAssumed head List.mem_cons_self) assumes) succeeds

end Steps

/-! ## Recorded versions -/

/-- Recoding cells leaves the versions alone. -/
theorem recodeAll_versions
    {migration : Migration}
    (elsewhere : migration.table ≠ Schema.versionsName)
    {db after : Database}
    {rows : Nat}
    (run : migration.recodeAll db = .ok (after, rows)) :
    after.tables.get? Schema.versionsName = db.tables.get? Schema.versionsName := by
  obtain ⟨recoded, folded, same⟩ := Except.bind_eq_ok_iff.mp run
  cases same
  have changes : ∀ {db cell after}, migration.recodeCell db cell = .ok after →
      ChangesRows migration.table db after := by
    intro db cell after run
    obtain ⟨_, _, updated⟩ := Except.bind_eq_ok_iff.mp run
    exact updateRow_changesRows updated
  rw [(foldlM_changesRows changes folded).others _ elsewhere]
  split <;> rfl

/-- A migration that succeeds adds the row of its version to those that are there. -/
theorem migration_step_versions
    {migration : Migration}
    {now : Timestamp}
    (elsewhere : migration.table ≠ Schema.versionsName)
    {db after : Database}
    {notices : List Notice}
    (run : migration.step now db = .ok (after, notices))
    {table : Table}
    (found : db.tables.get? Schema.versionsName = some table)
    (columns : table.columns = Schema.versions.columns) :
    after.tables.get? Schema.versionsName =
        some (table.place (versionRow now migration)) ∧
      ∀ row ∈ table.rows, row.number ≠ (versionRow now migration).number := by
  obtain ⟨⟨recoded, count⟩, recodes, rest⟩ := Except.bind_eq_ok_iff.mp run
  obtain ⟨recorded, inserted, same⟩ := Except.bind_eq_ok_iff.mp rest
  cases same
  obtain ⟨other, otherFound, insertion⟩ := Except.bind_eq_ok_iff.mp inserted
  have isTable := table?_eq_ok_iff.mp otherFound
  rw [recodeAll_versions elsewhere recodes, found, Option.some.injEq] at isTable
  subst isTable
  split at insertion
  · cases insertion
  · rw [newRow?_version columns] at insertion
    simp only at insertion
    split at insertion
    · cases insertion
    · rename_i free
      rw [Bool.not_eq_true, List.any_eq_false] at free
      rw [Database.place] at insertion
      split at insertion
      · cases insertion
      · split at insertion
        · cases insertion
        · cases insertion
          refine ⟨by simp [Database.setTable], ?_⟩
          intro row member
          simpa using free row member

/-- No migration recodes the table of versions. -/
theorem migration_elsewhere : ∀ migration ∈ Migration.migrations,
    migration.table ≠ Schema.versionsName := by
  decide

/-- No migration goes beyond the latest version. -/
theorem migration_version_le : ∀ migration ∈ Migration.migrations,
    migration.version ≤ Migration.latestVersion := by
  decide

/-- A migration keeps the versions up to the latest one. -/
theorem migration_keeps_versionsUpTo
    (now : Timestamp)
    {migration : Migration}
    (member : migration ∈ Migration.migrations) :
    StepKeeps (migration.step now) (VersionsUpTo Migration.latestVersion) := by
  rintro db after notices run ⟨table, found, columns, atMost⟩
  obtain ⟨placed, _⟩ := migration_step_versions (migration_elsewhere migration member) run
    found columns
  refine ⟨_, placed, columns, ?_⟩
  intro row rowMember
  rcases Table.mem_placeRow rowMember with rfl | before
  · exact .inr ⟨migration.version,
      Int.ofNat_le.mpr (migration_version_le migration member), versionRow_cell now migration⟩
  · exact atMost row before

/-- A migration does not go back behind the latest version. -/
theorem migration_keeps_reaches
    (now : Timestamp)
    {migration : Migration}
    (member : migration ∈ Migration.migrations) :
    StepKeeps (migration.step now) (Reaches Migration.latestVersion) := by
  rintro db after notices run ⟨table, found, columns, atMost, latest, latestMember, same⟩
  obtain ⟨placed, apart⟩ := migration_step_versions
    (migration_elsewhere migration member) run found columns
  obtain ⟨other, otherFound, otherColumns, otherAtMost⟩ :=
    migration_keeps_versionsUpTo now member run ⟨table, found, columns, atMost⟩
  rw [placed, Option.some.injEq] at otherFound
  subst otherFound
  exact ⟨_, placed, otherColumns, otherAtMost, latest,
    Table.mem_placeRow_of_mem latestMember (apart latest latestMember), same⟩

/-- The migration of the latest version records it. -/
theorem migration_reaches
    (now : Timestamp)
    {migration : Migration}
    (member : migration ∈ Migration.migrations)
    (latest : migration.version = Migration.latestVersion)
    {db after : Database}
    {notices : List Notice}
    (run : migration.step now db = .ok (after, notices))
    (upTo : VersionsUpTo Migration.latestVersion db) :
    Reaches Migration.latestVersion after := by
  have before := upTo
  obtain ⟨table, found, columns, _⟩ := before
  obtain ⟨placed, _⟩ := migration_step_versions (migration_elsewhere migration member) run
    found columns
  obtain ⟨other, otherFound, otherColumns, otherAtMost⟩ :=
    migration_keeps_versionsUpTo now member run upTo
  rw [placed, Option.some.injEq] at otherFound
  subst otherFound
  refine ⟨_, placed, otherColumns, otherAtMost, versionRow now migration,
    Table.mem_placeRow_self _ _, ?_⟩
  rw [versionRow_cell, latest]

/-! ## The schema -/

/-- A database has a table with at least some columns. -/
def HasColumns (name : String) (columns : List Column) (db : Database) : Prop :=
  ∃ table, db.tables.get? name = some table ∧
    ∀ column ∈ columns, table.hasColumn column.name = true

/-- A database has an index of some name. -/
def HasIndex (name : String) (db : Database) : Prop :=
  db.indices.contains name = true

/-- What tables there are, and their columns, stays. -/
def KeepsColumns (before after : Database) : Prop :=
  ∀ name table, before.tables.get? name = some table →
    ∃ extended, after.tables.get? name = some extended ∧
      ∀ column, table.hasColumn column = true → extended.hasColumn column = true

/-- The table is there after its step. -/
theorem createStep_after
    {name : String}
    {table : Table}
    {db after : Database}
    {notices : List Notice}
    (run : createStep name table db = .ok (after, notices)) :
    after = db.createTable name table := by
  cases run
  rfl

/-- The column was there, or is added. -/
theorem columnStep_cases
    {name : String}
    {column : Column}
    {db after : Database}
    {notices : List Notice}
    (run : columnStep name column db = .ok (after, notices)) :
    ∃ table, db.tables.get? name = some table ∧
      (after = db ∧ table.hasColumn column.name = true ∨
        after = db.setTable name (table.addColumn column)) := by
  obtain ⟨table, found, rest⟩ := Except.bind_eq_ok_iff.mp run
  have stored := table?_eq_ok_iff.mp found
  refine ⟨table, stored, ?_⟩
  split at rest
  · rename_i has
    cases rest
    exact .inl ⟨rfl, has⟩
  · obtain ⟨extended, added, same⟩ := Except.bind_eq_ok_iff.mp rest
    cases same
    obtain ⟨other, otherFound, addition⟩ := Except.bind_eq_ok_iff.mp added
    rw [found, Except.ok.injEq] at otherFound
    subst otherFound
    split at addition
    · cases addition
    · cases addition
      exact .inr rfl

/-- The index was there, or is created. -/
theorem indexStep_cases
    {name : String}
    {index : Index}
    {db after : Database}
    {notices : List Notice}
    (run : indexStep name index db = .ok (after, notices)) :
    after.tables = db.tables ∧
      (after = db ∧ db.indices.contains name = true ∨
        after.indices = db.indices.insert name index) := by
  rw [indexStep] at run
  cases created : db.createIndex name index with
  | error problem =>
      rw [created] at run
      cases run
  | ok indexed =>
      rw [created] at run
      cases run
      rw [Database.createIndex] at created
      split at created
      · rename_i has
        cases created
        exact ⟨rfl, .inl ⟨rfl, has⟩⟩
      · obtain ⟨table, _, rest⟩ := Except.bind_eq_ok_iff.mp created
        split at rest
        · cases rest
        · split at rest
          · cases rest
          · cases rest
            exact ⟨rfl, .inr rfl⟩

/-- A step of the schema creates a table, adds a column or creates an index. -/
theorem mem_schemaSteps_iff {step : Upkeep.Step} :
    step ∈ schemaSteps ↔
      (∃ entry ∈ Schema.tables, step = createStep entry.1 entry.2 ∨
        ∃ column ∈ entry.2.columns, step = columnStep entry.1 column) ∨
      ∃ entry ∈ Schema.indices, step = indexStep entry.1 entry.2 := by
  simp only [schemaSteps, List.mem_append, List.mem_flatMap, List.mem_cons, List.mem_map,
    eq_comm (a := step)]

/-- Steps of the schema change no table but to create or extend it. -/
theorem schemaStep_tables
    {step : Upkeep.Step}
    (member : step ∈ schemaSteps)
    {db after : Database}
    {notices : List Notice}
    (run : step db = .ok (after, notices)) :
    KeepsColumns db after ∧
      after.tables.get? Schema.versionsName = db.tables.get? Schema.versionsName := by
  have elsewhere : ∀ entry ∈ Schema.tables, entry.1 ≠ Schema.versionsName := by
    decide
  have unchanged : ∀ {after : Database}, after.tables = db.tables →
      KeepsColumns db after ∧
        after.tables.get? Schema.versionsName = db.tables.get? Schema.versionsName := by
    intro after same
    exact ⟨fun name table found => ⟨table, by rw [same, found], fun _ has => has⟩,
      by rw [same]⟩
  rcases mem_schemaSteps_iff.mp member with
    ⟨entry, entryMember, rfl | ⟨column, _, rfl⟩⟩ | ⟨entry, _, rfl⟩
  · rw [createStep_after run, Database.createTable]
    split
    · exact unchanged rfl
    · rename_i absent
      have missing : db.tables.get? entry.1 = none := by
        simpa [Dict.contains] using absent
      refine ⟨?_, by simp [Database.setTable, elsewhere entry entryMember]⟩
      intro name table found
      have unlike : entry.1 ≠ name := by
        rintro rfl
        rw [missing] at found
        cases found
      exact ⟨table, by simp [Database.setTable, unlike, found], fun _ has => has⟩
  · obtain ⟨table, found, ⟨rfl, _⟩ | rfl⟩ := columnStep_cases run
    · exact unchanged rfl
    · refine ⟨?_, by simp [Database.setTable, elsewhere entry entryMember]⟩
      intro name other otherFound
      by_cases same : entry.1 = name
      · rw [← same, found, Option.some.injEq] at otherFound
        subst otherFound
        exact ⟨table.addColumn column, by simp [Database.setTable, same],
          fun _ has => Table.hasColumn_addColumn.mpr (.inl has)⟩
      · exact ⟨other, by simp [Database.setTable, same, otherFound], fun _ has => has⟩
  · exact unchanged (indexStep_cases run).1

/-- Steps of the schema remove no index. -/
theorem schemaStep_indices
    {step : Upkeep.Step}
    (member : step ∈ schemaSteps)
    {db after : Database}
    {notices : List Notice}
    (run : step db = .ok (after, notices))
    {name : String}
    (has : HasIndex name db) :
    HasIndex name after := by
  rcases mem_schemaSteps_iff.mp member with
    ⟨entry, _, rfl | ⟨column, _, rfl⟩⟩ | ⟨entry, _, rfl⟩
  · rw [createStep_after run, Database.createTable]
    split <;> exact has
  · obtain ⟨table, _, ⟨rfl, _⟩ | rfl⟩ := columnStep_cases run <;> exact has
  · rcases (indexStep_cases run).2 with ⟨rfl, _⟩ | same
    · exact has
    · rw [HasIndex, same, Dict.contains, Dict.get?_insert]
      split
      · rfl
      · exact has

/-! ## Databases that are up to date -/

/-- The latest version is recorded, and nothing of the schema is missing. -/
structure UpToDate (db : Database) : Prop where
  version : ∃ version, currentVersion db = .ok version ∧ Migration.after version = []
  tables : ∀ entry ∈ Schema.tables, HasColumns entry.1 entry.2.columns db
  indices : ∀ entry ∈ Schema.indices, HasIndex entry.1 db

/-- Steps that find nothing to do change nothing. -/
theorem foldl_unchanged
    {steps : List Upkeep.Step}
    {db : Database}
    (unchanged : ∀ step ∈ steps, step db = .ok (db, [])) :
    steps.foldl Upkeep.andThen { db := db } = { db := db } := by
  induction steps with
  | nil => rfl
  | cons step rest inductionHypothesis =>
      have taken : Upkeep.andThen { db := db } step = { db := db } := by
        simp only [Upkeep.andThen, unchanged step List.mem_cons_self, List.append_nil]
      rw [List.foldl_cons, taken]
      exact inductionHypothesis
        (fun other member => unchanged other (List.mem_cons_of_mem _ member))

/-- The steps of the schema change nothing where nothing of the schema is missing. -/
theorem run_schemaSteps_eq
    {db : Database}
    (tables : ∀ entry ∈ Schema.tables, HasColumns entry.1 entry.2.columns db)
    (indices : ∀ entry ∈ Schema.indices, HasIndex entry.1 db) :
    Upkeep.run db schemaSteps = { db := db } := by
  refine foldl_unchanged (fun step member => ?_)
  rcases mem_schemaSteps_iff.mp member with
    ⟨entry, entryMember, rfl | ⟨column, columnMember, rfl⟩⟩ | ⟨entry, entryMember, rfl⟩
  · obtain ⟨table, found, _⟩ := tables entry entryMember
    rw [createStep, Database.createTable, Dict.contains, found, Option.isSome_some,
      if_pos rfl, if_pos rfl]
  · obtain ⟨table, found, has⟩ := tables entry entryMember
    simp only [columnStep, Database.table?, found, bind, Except.bind,
      has column columnMember, if_true]
  · rw [indexStep, Database.createIndex, indices entry entryMember, if_pos rfl]
    rfl

/-- A database that is up to date is left as it is. -/
theorem UpToDate.upkeep_eq
    {db : Database}
    (upToDate : UpToDate db)
    (now : Timestamp) :
    upkeep db now = { db := db } := by
  obtain ⟨version, current, nothing⟩ := upToDate.version
  have ensured : ensureVersions db = db := by
    obtain ⟨table, found, _⟩ := Except.bind_eq_ok_iff.mp current
    rw [ensureVersions, Database.createTable, Dict.contains,
      table?_eq_ok_iff.mp found, Option.isSome_some, if_pos rfl]
  rw [upkeep, ensured]
  simp only [current, upkeepSteps, nothing, List.map_nil, List.nil_append]
  exact run_schemaSteps_eq upToDate.tables upToDate.indices

/-- What calls leave alone keeps a database up to date. -/
theorem SameDefinitions.upToDate
    {before after : Database}
    (same : SameDefinitions before after)
    (upToDate : UpToDate before) :
    UpToDate after where
  version := by
    obtain ⟨version, current, nothing⟩ := upToDate.version
    exact ⟨version, (currentVersion_congr same.versions).trans current, nothing⟩
  tables entry member := by
    obtain ⟨table, found, has⟩ := upToDate.tables entry member
    have columns := same.columns entry.1
    rw [found, Option.map_some, Option.map_eq_some_iff] at columns
    obtain ⟨other, otherFound, sameColumns⟩ := columns
    refine ⟨other, otherFound, fun column columnMember => ?_⟩
    rw [Table.hasColumn, Table.column?, sameColumns]
    exact has column columnMember
  indices entry member := by
    rw [HasIndex, same.indices]
    exact upToDate.indices entry member

/-- A call leaves a database up to date. -/
theorem UpToDate.perform {db : Database} (upToDate : UpToDate db) (call : Call) :
    UpToDate (TableEngine.perform db call).db :=
  (perform_sameDefinitions db call).upToDate upToDate

section Schema

variable {db after : Database} {notices : List Notice} {name : String}

/-- A table is there after the step that creates it. -/
theorem createStep_establishes
    {table : Table}
    (run : createStep name table db = .ok (after, notices)) :
    HasColumns name [] after := by
  rw [createStep_after run, Database.createTable]
  split
  · rename_i has
    obtain ⟨old, found⟩ := Dict.contains_iff.mp has
    exact ⟨old, found, fun _ absent => by cases absent⟩
  · exact ⟨table, by simp [Database.setTable], fun _ absent => by cases absent⟩

/-- A column is there after the step that adds it. -/
theorem columnStep_establishes
    {column : Column}
    (run : columnStep name column db = .ok (after, notices)) :
    HasColumns name [column] after := by
  obtain ⟨old, found, ⟨rfl, has⟩ | rfl⟩ := columnStep_cases run
  · refine ⟨old, found, ?_⟩
    intro other isColumn
    rw [List.mem_singleton.mp isColumn]
    exact has
  · refine ⟨old.addColumn column, by simp [Database.setTable], ?_⟩
    intro other isColumn
    rw [List.mem_singleton.mp isColumn]
    exact Table.hasColumn_addColumn.mpr (.inr rfl)

/-- An index is there after the step that creates it. -/
theorem indexStep_establishes
    {index : Index}
    (run : indexStep name index db = .ok (after, notices)) :
    HasIndex name after := by
  rcases (indexStep_cases run).2 with ⟨rfl, has⟩ | same
  · exact has
  · rw [HasIndex, same, Dict.contains, Dict.get?_insert, if_pos rfl]
    rfl

/-- No step takes a column away. -/
theorem schemaStep_keepsColumns
    {columns : List Column}
    {step : Upkeep.Step}
    (member : step ∈ schemaSteps) :
    StepKeeps step (HasColumns name columns) := by
  rintro db after notices run ⟨table, found, has⟩
  obtain ⟨extended, extendedFound, kept⟩ := (schemaStep_tables member run).1 name table found
  exact ⟨extended, extendedFound, fun column columnMember => kept _ (has column columnMember)⟩

variable {start : Upkeep}

/-- What a step of the schema brings about is there after all steps that succeed. -/
theorem schemaSteps_establish
    {property : Database → Prop}
    {step : Upkeep.Step}
    (member : step ∈ schemaSteps)
    (establishes : ∀ {db after notices}, step db = .ok (after, notices) → property after)
    (keeps : ∀ step ∈ schemaSteps, StepKeeps step property)
    (succeeds : (schemaSteps.foldl Upkeep.andThen start).failure = none) :
    property (schemaSteps.foldl Upkeep.andThen start).db := by
  have nothing : ∀ step ∈ schemaSteps, StepKeeps step (fun _ => True) :=
    fun _ _ _ _ _ _ _ => trivial
  exact foldl_establishes property member (fun run _ => establishes run) nothing keeps
    trivial succeeds

/-- Steps of the schema that succeed bring all columns of a table about. -/
theorem schemaSteps_columns
    (succeeds : (schemaSteps.foldl Upkeep.andThen start).failure = none)
    {table : Table}
    (member : (name, table) ∈ Schema.tables) :
    HasColumns name table.columns (schemaSteps.foldl Upkeep.andThen start).db := by
  obtain ⟨old, found, _⟩ : HasColumns name [] (schemaSteps.foldl Upkeep.andThen start).db :=
    schemaSteps_establish (mem_schemaSteps_iff.mpr (.inl ⟨_, member, .inl rfl⟩))
      createStep_establishes (fun _ => schemaStep_keepsColumns) succeeds
  refine ⟨old, found, ?_⟩
  intro column columnMember
  obtain ⟨other, otherFound, has⟩ :
      HasColumns name [column] (schemaSteps.foldl Upkeep.andThen start).db :=
    schemaSteps_establish
      (mem_schemaSteps_iff.mpr (.inl ⟨_, member, .inr ⟨column, columnMember, rfl⟩⟩))
      columnStep_establishes (fun _ => schemaStep_keepsColumns) succeeds
  rw [found, Option.some.injEq] at otherFound
  subst otherFound
  exact has column (List.mem_singleton.mpr rfl)

/-- Steps of the schema that succeed bring all indices about. -/
theorem schemaSteps_index
    (succeeds : (schemaSteps.foldl Upkeep.andThen start).failure = none)
    {index : Index}
    (member : (name, index) ∈ Schema.indices) :
    HasIndex name (schemaSteps.foldl Upkeep.andThen start).db :=
  schemaSteps_establish (mem_schemaSteps_iff.mpr (.inr ⟨_, member, rfl⟩))
    indexStep_establishes (fun _ stepMember _ _ _ run => schemaStep_indices stepMember run)
    succeeds

end Schema

/-- The latest version is that of a migration. -/
theorem exists_latest :
    ∃ migration ∈ Migration.migrations, migration.version = Migration.latestVersion := by
  decide

/-- Nothing is to be migrated at the latest version or beyond. -/
theorem after_eq_nil_iff {version : Int} :
    Migration.after version = [] ↔ (Migration.latestVersion : Int) ≤ version := by
  constructor
  · intro nothing
    obtain ⟨migration, member, latest⟩ := exists_latest
    rw [Migration.after, List.filter_eq_nil_iff] at nothing
    have reached := nothing migration member
    rw [decide_eq_true_eq, latest] at reached
    exact Int.not_lt.mp reached
  · intro reached
    rw [Migration.after, List.filter_eq_nil_iff]
    intro migration member later
    have less := Int.ofNat_le.mpr (migration_version_le migration member)
    rw [decide_eq_true_eq] at later
    omega

/-- The steps of the schema keep the version as it is. -/
theorem currentVersion_schemaSteps (start : Upkeep) :
    currentVersion (schemaSteps.foldl Upkeep.andThen start).db =
      currentVersion start.db := by
  refine currentVersion_congr (foldl_keeps
    (fun db => db.tables.get? Schema.versionsName =
      start.db.tables.get? Schema.versionsName) ?_ rfl)
  intro step member db after notices run before
  exact (schemaStep_tables member run).2.trans before

/-- Migrations that succeed lead to the latest version, and the schema keeps it. -/
theorem upkeepSteps_version
    {version : Int}
    {now : Timestamp}
    {db : Database}
    (current : currentVersion db = .ok version)
    (standard : StandardVersions db)
    (succeeds : (Upkeep.run db (upkeepSteps version now)).failure = none) :
    ∃ latest, currentVersion (Upkeep.run db (upkeepSteps version now)).db = .ok latest ∧
      Migration.after latest = [] := by
  simp only [Upkeep.run, upkeepSteps, List.foldl_append] at succeeds ⊢
  simp only [currentVersion_schemaSteps]
  by_cases reached : (Migration.latestVersion : Int) ≤ version
  · rw [after_eq_nil_iff.mpr reached]
    exact ⟨version, current, after_eq_nil_iff.mpr reached⟩
  · obtain ⟨latest, latestMember, isLatest⟩ := exists_latest
    have needed : ∀ step ∈ (Migration.after version).map (fun migration => migration.step now),
        ∃ migration ∈ Migration.migrations, step = migration.step now := by
      intro step member
      obtain ⟨migration, migrationMember, rfl⟩ := List.mem_map.mp member
      exact ⟨migration, List.mem_of_mem_filter migrationMember, rfl⟩
    have upTo : VersionsUpTo Migration.latestVersion db := by
      obtain ⟨table, found, columns, atMost⟩ :=
        versionsUpTo_of_currentVersion current standard
      refine ⟨table, found, columns, fun row member => ?_⟩
      rcases atMost row member with null | ⟨value, less, same⟩
      · exact .inl null
      · exact .inr ⟨value, by omega, same⟩
    refine ⟨Migration.latestVersion, Reaches.currentVersion_eq ?_ (by decide),
      after_eq_nil_iff.mpr (Int.le_refl _)⟩
    have recorded : latest.step now ∈
        (Migration.after version).map (fun migration => migration.step now) := by
      refine List.mem_map.mpr ⟨latest, List.mem_filter.mpr ⟨latestMember, ?_⟩, rfl⟩
      rw [decide_eq_true_eq, isLatest]
      omega
    refine foldl_establishes (Reaches Migration.latestVersion) recorded ?_ ?_ ?_ upTo
      (failure_none_of_foldl succeeds)
    · intro before after notices run
      exact migration_reaches now latestMember isLatest run
    · intro step member
      obtain ⟨migration, migrationMember, rfl⟩ := needed step member
      exact migration_keeps_versionsUpTo now migrationMember
    · intro step member
      obtain ⟨migration, migrationMember, rfl⟩ := needed step member
      exact migration_keeps_reaches now migrationMember

/-- Upkeep that succeeds leaves the database up to date. -/
theorem upkeep_upToDate
    {db : Database}
    {now : Timestamp}
    (standard : StandardVersions db)
    (succeeds : (upkeep db now).failure = none) :
    UpToDate (upkeep db now).db := by
  rw [upkeep] at succeeds ⊢
  cases current : currentVersion (ensureVersions db) with
  | error problem => simp [current] at succeeds
  | ok version =>
      simp only [current] at succeeds ⊢
      have steps := succeeds
      rw [Upkeep.run, upkeepSteps, List.foldl_append] at steps
      refine ⟨upkeepSteps_version current standard.ensureVersions succeeds, ?_, ?_⟩
      · rw [Upkeep.run, upkeepSteps, List.foldl_append]
        exact fun _ member => schemaSteps_columns steps member
      · rw [Upkeep.run, upkeepSteps, List.foldl_append]
        exact fun _ member => schemaSteps_index steps member

/-- The database of a new store is up to date. -/
theorem newDatabase_upToDate (now : Timestamp) : UpToDate (newDatabase now) := by
  obtain ⟨succeeds, made⟩ := upkeep_empty now
  rw [← made]
  exact upkeep_upToDate .empty succeeds

end TenantStore.TableEngine
