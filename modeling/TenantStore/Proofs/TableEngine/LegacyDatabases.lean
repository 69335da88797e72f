import TenantStore.Proofs.TableEngine.Migrations

namespace TenantStore.TableEngine

/-!
# Databases with binary cells

The migrations of an old database take effect version by version. If all
pending columns are legible, every binary cell in them becomes the document of
the value that it encodes, nothing else changes but the recorded versions, and
there is nothing left to migrate. Otherwise the migrations stop in front of the
first column that is not legible, with that column and all later ones as they
were, and complete once the rows are repaired (`migrate_versionwise`).
-/

open Relational (Cell Row Column Table Index Database)

/-! ## Migrations without the schema -/

/-- Take the migrations that a database still needs. -/
def migrate (db : Database) (now : Timestamp) : Upkeep :=
  let db := ensureVersions db
  match currentVersion db with
  | .ok version => .run db ((Migration.after version).map (fun migration => migration.step now))
  | .error problem => { db := db, failure := some problem }

/-- Upkeep migrates, and goes on with the schema if that succeeds. -/
theorem upkeep_eq_foldl_migrate (db : Database) (now : Timestamp) :
    upkeep db now = schemaSteps.foldl Upkeep.andThen (migrate db now) := by
  rw [upkeep, migrate]
  cases current : currentVersion (ensureVersions db) with
  | ok version =>
      simp only [Upkeep.run, upkeepSteps, List.foldl_append]
  | error problem =>
      simp only
      rw [foldl_of_failure rfl]

/-! ## The version that is reached -/

/-- What is to be done is a part of all migrations, in their order. -/
theorem after_sublist (version : Int) :
    (Migration.after version).Sublist Migration.migrations :=
  List.filter_sublist

/-- After a migration come those of greater versions. -/
theorem after_version_eq
    {version : Int}
    {earlier remaining : List Migration}
    {last : Migration}
    (split : Migration.after version = earlier ++ last :: remaining) :
    Migration.after last.version = remaining := by
  have ascending := migrations_ascending.sublist (after_sublist version)
  have lastLater : version < last.version := by
    have member : last ∈ Migration.after version := split ▸ by simp
    exact of_decide_eq_true (List.mem_filter.mp member).2
  have within : Migration.after last.version =
      (Migration.after version).filter (fun migration => last.version < migration.version) := by
    rw [Migration.after, Migration.after, List.filter_filter]
    apply List.filter_congr
    intro migration _
    rw [Bool.eq_iff_iff, Bool.and_eq_true, decide_eq_true_eq, decide_eq_true_eq,
      decide_eq_true_eq]
    omega
  rw [split] at ascending
  obtain ⟨_, lastAscending, earlierLess⟩ := List.pairwise_append.mp ascending
  obtain ⟨lastLess, _⟩ := List.pairwise_cons.mp lastAscending
  have earlierNone : earlier.filter (fun migration => last.version < migration.version) = [] := by
    rw [List.filter_eq_nil_iff]
    intro migration member
    have less := earlierLess migration member last List.mem_cons_self
    rw [decide_eq_true_eq]
    omega
  have remainingAll : remaining.filter (fun migration => last.version < migration.version) =
      remaining := by
    rw [List.filter_eq_self]
    intro migration member
    exact decide_eq_true (lastLess migration member)
  rw [within, split, List.filter_append, earlierNone, List.nil_append,
    List.filter_cons_of_neg (by rw [decide_eq_true_eq]; omega), remainingAll]

/-- The migrations that are left are those that were not taken. -/
theorem Migrated.reaches
    {version : Int}
    {taken remaining : List Migration}
    (split : Migration.after version = taken ++ remaining)
    {now : Timestamp}
    {before after : Database}
    (standard : StandardVersions before)
    (current : currentVersion before = .ok version)
    (migrated : Migrated taken now before after) :
    ∃ reached, currentVersion after = .ok reached ∧ Migration.after reached = remaining := by
  obtain ⟨table, found, columns, atMost⟩ := versionsUpTo_of_currentVersion current standard
  have versions := migrated.versions
  rw [versionsOf_eq found] at versions
  rcases List.eq_nil_or_concat taken with rfl | ⟨earlier, last, rfl⟩
  · refine ⟨version, ?_, split⟩
    rw [← current]
    apply currentVersion_congr
    rw [versions, found, List.map_nil, List.append_nil]
  · rw [List.concat_eq_append] at split versions
    rw [List.append_assoc, List.singleton_append] at split
    have members : ∀ migration ∈ earlier ++ [last], migration ∈ Migration.after version := by
      intro migration member
      rw [split]
      rcases List.mem_append.mp member with early | isLast
      · exact List.mem_append_left _ early
      · rw [List.mem_singleton.mp isLast]
        simp
    have lastMember := members last (by simp)
    have lastLater : version < last.version :=
      of_decide_eq_true (List.mem_filter.mp lastMember).2
    have lastKnown : last ∈ Migration.migrations := (List.mem_filter.mp lastMember).1
    have earlierLess : ∀ migration ∈ earlier, migration.version ≤ last.version := by
      intro migration member
      have ascending := migrations_ascending.sublist (after_sublist version)
      rw [split] at ascending
      exact Nat.le_of_lt ((List.pairwise_append.mp ascending).2.2 migration member last
        List.mem_cons_self)
    refine ⟨last.version, Reaches.currentVersion_eq ⟨_, versions, columns, ?_, ?_⟩ ?_,
      after_version_eq split⟩
    · intro row member
      rcases List.mem_append.mp member with old | new
      · rcases atMost row old with null | ⟨value, less, same⟩
        · exact .inl null
        · exact .inr ⟨value, by omega, same⟩
      · obtain ⟨migration, isTaken, rfl⟩ := List.mem_map.mp new
        refine .inr ⟨migration.version, ?_, rfl⟩
        rcases List.mem_append.mp isTaken with early | isLast
        · exact Int.ofNat_le.mpr (earlierLess migration early)
        · exact (List.mem_singleton.mp isLast) ▸ Int.le_refl _
    · exact ⟨versionRow now last, List.mem_append_right _ (List.mem_map_of_mem (by simp)), rfl⟩
    · have small := migration_version_le last lastKnown
      have latest : Migration.latestVersion = 5 := rfl
      omega

/-! ## Room for versions -/

section Ensured

variable (db : Database)

/-- The table of versions is there afterwards. -/
theorem ensureVersions_found :
    (ensureVersions db).tables.get? Schema.versionsName = some (versionsOf db) := by
  rw [ensureVersions, Database.createTable]
  split
  · rename_i present
    obtain ⟨table, found⟩ := Dict.contains_iff.mp present
    rw [versionsOf, found, Option.getD_some]
  · rename_i missing
    rw [Dict.contains, Bool.not_eq_true, Option.isSome_eq_false_iff, Option.isNone_iff_eq_none]
      at missing
    rw [versionsOf, missing, Option.getD_none, Database.setTable, Dict.get?_insert, if_pos rfl]

/-- No other table changes. -/
theorem ensureVersions_others {name : String} (unlike : name ≠ Schema.versionsName) :
    (ensureVersions db).tables.get? name = db.tables.get? name := by
  rw [ensureVersions, Database.createTable]
  split
  · rfl
  · rw [Database.setTable, Dict.get?_insert, if_neg (Ne.symm unlike)]

/-- No index changes either. -/
theorem ensureVersions_indices : (ensureVersions db).indices = db.indices := by
  rw [ensureVersions, Database.createTable]
  split <;> rfl

variable {db}

/-- Nothing changes if it was there. -/
theorem ensureVersions_eq {table : Table}
    (found : db.tables.get? Schema.versionsName = some table) :
    ensureVersions db = db := by
  rw [ensureVersions, Database.createTable, Dict.contains, found, Option.isSome_some,
    if_pos rfl]

/-- The versions are those that were recorded. -/
theorem versionsOf_ensureVersions : versionsOf (ensureVersions db) = versionsOf db :=
  versionsOf_eq (ensureVersions_found db)

/-- A database can be migrated with its versions recorded. -/
theorem Migratable.ensureVersions (migratable : Migratable db) :
    Migratable (ensureVersions db) where
  sound := by
    rw [TableEngine.ensureVersions, Database.createTable]
    split
    · exact migratable.sound
    · exact migratable.sound.setTable
        ⟨.nil, List.forall_mem_nil _, List.forall_mem_nil _,
          fun _ _ => List.forall_mem_nil _⟩
  inOrder := by
    refine ⟨migratable.inOrder.standard.ensureVersions, ?_, ?_⟩
    · intro table found row member
      rw [ensureVersions_found, Option.some.injEq] at found
      rw [← found, versionsOf] at member
      cases present : db.tables.get? Schema.versionsName with
      | none =>
          rw [present] at member
          cases member
      | some old =>
          rw [present] at member
          exact migratable.inOrder.numbers old present row member
    · rw [ensureVersions_indices]
      exact migratable.inOrder.indices
  unconstrained migration known := by
    refine (migratable.unconstrained migration known).mono ?_ ?_
    · rw [ensureVersions_others db (migration_elsewhere migration known)]
    · rw [ensureVersions_indices]
      exact fun _ _ => id

section Columns

variable {migration : Migration} (known : migration ∈ Migration.migrations)

include known

/-- A migration finds the same cells. -/
theorem cells_ensureVersions : migration.cells (ensureVersions db) = migration.cells db := by
  rw [Migration.cells, Migration.cells,
    ensureVersions_others db (migration_elsewhere migration known)]

/-- A migration can read what it could read before. -/
theorem legible_ensureVersions :
    migration.Legible (ensureVersions db) ↔ migration.Legible db := by
  rw [Migration.legible_iff_cells, Migration.legible_iff_cells, cells_ensureVersions known]

/-- A migration has the same to do. -/
theorem pending_ensureVersions :
    migration.pending (ensureVersions db) = migration.pending db := by
  refine Migration.pending_congr ?_ (cells_ensureVersions known)
  rw [ensureVersions_others db (migration_elsewhere migration known)]

end Columns

/-- What is migrated from there is migrated from the database itself. -/
theorem Migrated.of_ensureVersions
    {taken : List Migration}
    {now : Timestamp}
    {after : Database}
    (migrated : Migrated taken now (ensureVersions db) after) :
    Migrated taken now db after where
  tables name unlike := by
    rw [← ensureVersions_others db unlike]
    exact migrated.tables name unlike
  versions := by
    rw [← versionsOf_ensureVersions]
    exact migrated.versions
  indices name := by
    rw [← ensureVersions_indices db]
    exact migrated.indices name

end Ensured

/-! ## Complete and incomplete runs -/

/-- All migrations take effect, the latest version is reached, and nothing is left to do. -/
structure Completes (db : Database) (now : Timestamp) (migrations : List Migration)
    (after : Database) : Prop where
  run : migrate db now =
    { db := after, notices := migrations.map (fun migration => migration.applied db) }
  migrated : Migrated migrations now db after
  latest : ∃ reached, currentVersion after = .ok reached ∧ Migration.latestVersion ≤ reached
  again : ∀ later, migrate after later = { db := after }

/--
The migrations before the failing one take effect. The failing one and those
after it are left to do, their columns hold what they held, and no index is lost.
-/
structure Stops (db : Database) (now : Timestamp) (before : List Migration)
    (failing : Migration) (behind : List Migration) (after : Database) : Prop where
  run : ∃ cell ∈ failing.pending db, ∃ problem,
    failing.decode cell.1 cell.2 = .error problem ∧
      migrate db now =
        { db := after
          notices := before.map (fun migration => migration.applied db)
          failure := some problem }
  migrated : Migrated before now db after
  remaining : ∃ reached, currentVersion after = .ok reached ∧
    Migration.after reached = failing :: behind
  cells : ∀ migration ∈ failing :: behind, migration.cells after = migration.cells db
  indices : after.indices = db.indices

section Runs

variable {db : Database} {version : Int}

/-- Every migration after the recorded version is taken in turn. -/
theorem migrate_eq
    (recorded : currentVersion (ensureVersions db) = .ok version)
    (now : Timestamp) :
    migrate db now =
      ((Migration.after version).map (fun migration => migration.step now)).foldl
        Upkeep.andThen { db := ensureVersions db } := by
  rw [migrate]
  simp only [recorded]
  rfl

/-- Recorded versions are below those of the migrations that are left. -/
theorem lt_of_mem_after
    (migratable : Migratable db)
    (current : currentVersion db = .ok version)
    {table : Table}
    (found : db.tables.get? Schema.versionsName = some table)
    {row : Row}
    (member : row ∈ table.rows)
    {migration : Migration}
    (left : migration ∈ Migration.after version) :
    row.number < migration.version := by
  obtain ⟨other, otherFound, _, atMost⟩ :=
    versionsUpTo_of_currentVersion current migratable.inOrder.standard
  rw [found, Option.some.injEq] at otherFound
  subst otherFound
  have later : version < migration.version := of_decide_eq_true (List.mem_filter.mp left).2
  rcases atMost row member with null | ⟨value, less, same⟩
  · rw [migratable.inOrder.numbers table found row member] at null
    cases null
  · rw [migratable.inOrder.numbers table found row member, Cell.integer.injEq] at same
    omega

/-- The migrations at the start of those that are left take effect if they are legible. -/
theorem run_legible
    (migratable : Migratable db)
    (recorded : currentVersion (ensureVersions db) = .ok version)
    {taken behind : List Migration}
    (split : Migration.after version = taken ++ behind)
    (legible : ∀ migration ∈ taken, migration.Legible db)
    (now : Timestamp) :
    ∃ after,
      (taken.map (fun migration => migration.step now)).foldl Upkeep.andThen
          { db := ensureVersions db } =
        { db := after, notices := taken.map (fun migration => migration.applied db) } ∧
        Migrated taken now db after ∧ Migratable after ∧
        ∃ reached, currentVersion after = .ok reached ∧ Migration.after reached = behind := by
  have taken_left : ∀ migration ∈ taken, migration ∈ Migration.after version :=
    fun migration member => split ▸ List.mem_append_left _ member
  have known : ∀ migration ∈ taken, migration ∈ Migration.migrations :=
    fun migration member => (after_sublist version).subset (taken_left migration member)
  have sublist : taken.Sublist Migration.migrations :=
    (split ▸ List.sublist_append_left taken behind).trans (after_sublist version)
  obtain ⟨after, run, migrated, afterMigratable⟩ :=
    @foldl_migrations taken sublist now _ migratable.ensureVersions _ (ensureVersions_found db)
      (fun row member migration isTaken => lt_of_mem_after migratable.ensureVersions recorded
        (ensureVersions_found db) member (taken_left migration isTaken))
      (fun migration member =>
        (legible_ensureVersions (known migration member)).mpr (legible migration member)) []
  refine ⟨after, ?_, migrated.of_ensureVersions, afterMigratable,
    migrated.reaches split migratable.inOrder.standard.ensureVersions recorded⟩
  have applied : taken.map (fun migration => migration.applied (ensureVersions db)) =
      taken.map (fun migration => migration.applied db) := by
    apply List.map_congr_left
    intro migration member
    rw [Migration.applied, Migration.applied, pending_ensureVersions (known migration member)]
  rw [run, List.nil_append, applied]

/-- A database that has reached its latest version has nothing left to migrate. -/
theorem migrate_reached
    {table : Table}
    (found : db.tables.get? Schema.versionsName = some table)
    (current : currentVersion db = .ok version)
    (none_left : Migration.after version = [])
    (now : Timestamp) :
    migrate db now = { db := db } := by
  rw [migrate_eq (by rw [ensureVersions_eq found, current]), none_left, ensureVersions_eq found]
  rfl

/-- If everything can be read, everything is migrated. -/
theorem migrate_completes
    (migratable : Migratable db)
    (recorded : currentVersion (ensureVersions db) = .ok version)
    (legible : ∀ migration ∈ Migration.after version, migration.Legible db)
    (now : Timestamp) :
    ∃ after, Completes db now (Migration.after version) after := by
  obtain ⟨after, run, migrated, _, reached, current, none_left⟩ :=
    run_legible migratable recorded (List.append_nil _).symm legible now
  exact ⟨after, (migrate_eq recorded now).trans run, migrated,
    ⟨reached, current, after_eq_nil_iff.mp none_left⟩,
    migrate_reached migrated.versions current none_left⟩

/-- Only the last migration drops an index. -/
theorem dropsIndex_none :
    Migration.migrations.Pairwise (fun left _ => left.dropsIndex = none) := by
  decide

/-- A migration that cannot read a cell stops there, with the ones before it done. -/
theorem migrate_stops
    (migratable : Migratable db)
    (recorded : currentVersion (ensureVersions db) = .ok version)
    {before behind : List Migration}
    {failing : Migration}
    (split : Migration.after version = before ++ failing :: behind)
    (legible : ∀ migration ∈ before, migration.Legible db)
    (illegible : ¬ failing.Legible db)
    (now : Timestamp) :
    ∃ stopped, Stops db now before failing behind stopped ∧ Migratable stopped := by
  obtain ⟨stopped, run, migrated, stoppedMigratable, remaining⟩ :=
    run_legible migratable recorded split legible now
  have sublist := after_sublist version
  rw [split] at sublist
  have known : ∀ migration ∈ failing :: behind, migration ∈ Migration.migrations :=
    fun migration member => sublist.subset (List.mem_append_right _ member)
  have apart := (List.pairwise_append.mp (migrations_apart.sublist sublist)).2.2
  have kept : ∀ migration ∈ failing :: behind,
      migration.cells stopped = migration.cells db := by
    intro migration member
    refine migrated.cells_eq (known migration member) (fun other isTaken same => ?_)
    exact Ne.symm (apart other isTaken migration member same.symm)
  have failingKnown := known failing List.mem_cons_self
  have stillIllegible : ¬ failing.Legible stopped := by
    rw [Migration.legible_iff_cells, kept failing List.mem_cons_self,
      ← Migration.legible_iff_cells]
    exact illegible
  obtain ⟨cell, pending, problem, undecodable, fails⟩ :=
    @Migration.step_fails failing stopped now failingKnown stoppedMigratable.sound
      (stoppedMigratable.unconstrained failing failingKnown) stillIllegible
  rw [Migration.pending_congr (migrated.columns_eq failingKnown)
    (kept failing List.mem_cons_self)] at pending
  refine ⟨stopped, ⟨⟨cell, pending, problem, undecodable, ?_⟩, migrated, remaining, kept, ?_⟩,
    stoppedMigratable⟩
  · rw [migrate_eq recorded, split, List.map_append, List.foldl_append, run, List.map_cons,
      List.foldl_cons, Upkeep.andThen]
    simp only [fails]
    exact foldl_of_failure rfl
  · apply Dict.ext_get?
    intro name
    rw [migrated.indices, if_neg]
    rintro ⟨migration, isTaken, drops⟩
    have nothing := (List.pairwise_append.mp (dropsIndex_none.sublist sublist)).2.2 migration
      isTaken failing List.mem_cons_self
    rw [nothing] at drops
    cases drops

end Runs

/-! ## Repairs -/

/-- A new value for one cell of a row. -/
structure Repair where
  table : String
  column : String
  number : Int
  cell : Cell

/-- Put the value into the cell. -/
def Repair.apply (db : Database) (repair : Repair) : Except Problem Database :=
  db.updateRow repair.table [(repair.column, repair.cell)] repair.number

/-- Repairs keep the recorded versions, and the database can still be migrated. -/
theorem Migratable.repairs
    {repairs : List Repair}
    (elsewhere : ∀ repair ∈ repairs, repair.table ≠ Schema.versionsName)
    {db repaired : Database}
    (migratable : Migratable db)
    (run : repairs.foldlM Repair.apply db = .ok repaired) :
    Migratable repaired ∧
      repaired.tables.get? Schema.versionsName = db.tables.get? Schema.versionsName := by
  induction repairs generalizing db with
  | nil =>
      cases run
      exact ⟨migratable, rfl⟩
  | cons repair rest inductionHypothesis =>
      obtain ⟨middle, first, others⟩ := Except.bind_eq_ok_iff.mp
        ((List.foldlM_cons ..).symm.trans run)
      obtain ⟨here, restElsewhere⟩ := List.forall_mem_cons.mp elsewhere
      have same := (updateRow_changesRows first).sameDefinitions here
      have fewer : ∀ key index, middle.indices.get? key = some index →
          db.indices.get? key = some index := by
        rw [same.indices]
        exact fun _ _ => id
      have middleMigratable : Migratable middle :=
        { sound := migratable.sound.updateRow first
          inOrder := migratable.inOrder.of_same same.versions fewer
          unconstrained := fun migration known =>
            (migratable.unconstrained migration known).mono (same.columns _) fewer }
      obtain ⟨repairedMigratable, versions⟩ :=
        inductionHypothesis restElsewhere middleMigratable others
      exact ⟨repairedMigratable, versions.trans same.versions⟩

/--
Migrations are lossless, each is taken once, and each takes effect as a whole.
If all pending columns are legible, all pending migrations take effect and
nothing is left to do. Otherwise the migrations in front of the first column
that is not legible take effect, and once its rows are repaired the others do.
-/
theorem migrate_versionwise
    {db : Database}
    {version : Int}
    (migratable : Migratable db)
    (recorded : currentVersion (ensureVersions db) = .ok version)
    (now : Timestamp) :
    ((∀ migration ∈ Migration.after version, migration.Legible db) →
      ∃ after, Completes db now (Migration.after version) after) ∧
    ∀ before failing behind, Migration.after version = before ++ failing :: behind →
      (∀ migration ∈ before, migration.Legible db) → ¬ failing.Legible db →
        ∃ stopped, Stops db now before failing behind stopped ∧
          ∀ (repairs : List Repair) (repaired : Database),
            (∀ repair ∈ repairs, repair.table ≠ Schema.versionsName) →
            repairs.foldlM Repair.apply stopped = .ok repaired →
            (∀ migration ∈ failing :: behind, migration.Legible repaired) →
              ∀ later, ∃ completed, Completes repaired later (failing :: behind) completed := by
  refine ⟨fun legible => migrate_completes migratable recorded legible now, ?_⟩
  intro before failing behind split legible illegible
  obtain ⟨stopped, stops, stoppedMigratable⟩ :=
    migrate_stops migratable recorded split legible illegible now
  refine ⟨stopped, stops, ?_⟩
  intro repairs repaired elsewhere run repairedLegible later
  obtain ⟨repairedMigratable, versions⟩ := stoppedMigratable.repairs elsewhere run
  obtain ⟨reached, current, remaining⟩ := stops.remaining
  have repairedRecorded : currentVersion (ensureVersions repaired) = .ok reached := by
    rw [ensureVersions_eq (versions.trans stops.migrated.versions),
      currentVersion_congr versions, current]
  rw [← remaining] at repairedLegible ⊢
  exact migrate_completes repairedMigratable repairedRecorded repairedLegible later

/-- An old database in which all but the address of one peer is legible. -/
def oldDatabase (address : List UInt8) : Database where
  tables := Dict.ofList [
    ("accounts", {
      columns := [Schema.identifier, { name := "network_net" }]
      rows := [
        { number := 1
          cells := [
            ("id", .text "a"),
            ("network_net", .blob (Binary.textBytes "100.64.0.0/10"))] }] }),
    ("routes", {
      columns := [Schema.identifier, { name := "network" }, { name := "peer_groups" }]
      rows := [
        { number := 1
          cells := [
            ("id", .text "r"),
            ("network", .blob (Binary.textBytes "10.0.0.0/24")),
            ("peer_groups", .blob (Binary.textsBytes ["g", "h"]))] },
        { number := 2
          cells := [("id", .text "s"), ("network", .text "\"\""), ("peer_groups", .null)] }] }),
    ("peers", {
      columns := [Schema.identifier, Schema.owner "account_id", { name := "ip" },
        { name := "location_connection_ip" }]
      rows := [
        { number := 1
          cells := [
            ("id", .text "p"), ("account_id", .text "a"), ("ip", .blob address),
            ("location_connection_ip",
              .blob (Binary.carrierBytes ++ [100, 64, 0, 7]))] },
        { number := 2
          cells := [
            ("id", .text "q"), ("account_id", .text "a"), ("ip", .blob [100, 64, 0, 2]),
            ("location_connection_ip", .blob [])] }] })]
  indices := Dict.ofList [
    (Schema.peerAddressIndex,
      { table := "peers", columns := ["account_id", "ip"], isUnique := true })]

/-- Where the address of a peer is not known, the last migration waits for its repair. -/
theorem migrate_versionwise_repaired :
    (∃ after, Completes (oldDatabase [100, 64, 0, 1]) ⟨0⟩ Migration.migrations after) ∧
    ∃ stopped, Stops (oldDatabase [1, 2, 3]) ⟨0⟩ (Migration.migrations.take 4)
        Migration.migrations[4] [] stopped ∧
      ∃ repaired,
        Repair.apply stopped ⟨"peers", "ip", 1, .blob [100, 64, 0, 1]⟩ = .ok repaired ∧
          ∃ completed, Completes repaired ⟨1⟩ [Migration.migrations[4]] completed := by
  refine ⟨(@migrate_versionwise (oldDatabase [100, 64, 0, 1]) 0 (by decide +kernel) rfl
    ⟨0⟩).1 (by decide +kernel), ?_⟩
  obtain ⟨stopped, stops, continues⟩ :=
    (@migrate_versionwise (oldDatabase [1, 2, 3]) 0 (by decide +kernel) rfl ⟨0⟩).2
      (Migration.migrations.take 4) Migration.migrations[4] [] rfl (by decide +kernel)
      (by decide +kernel)
  refine ⟨stopped, stops, ?_⟩
  have isStopped : stopped = (migrate (oldDatabase [1, 2, 3]) ⟨0⟩).db := by
    obtain ⟨_, _, _, _, run⟩ := stops.run
    rw [run]
  have repairs : ((Repair.apply (migrate (oldDatabase [1, 2, 3]) ⟨0⟩).db
      ⟨"peers", "ip", 1, .blob [100, 64, 0, 1]⟩).toOption.any fun repaired =>
        decide (Migration.migrations[4].Legible repaired)) = true := by
    decide +kernel
  rw [← isStopped] at repairs
  cases run : Repair.apply stopped ⟨"peers", "ip", 1, .blob [100, 64, 0, 1]⟩ with
  | error problem =>
      rw [run] at repairs
      cases repairs
  | ok repaired =>
      rw [run] at repairs
      refine ⟨repaired, rfl, continues [⟨"peers", "ip", 1, .blob [100, 64, 0, 1]⟩] repaired
        (by decide) ?_ ?_ ⟨1⟩⟩
      · rw [List.foldlM_cons, run]
        rfl
      · intro migration member
        rw [List.mem_singleton.mp member]
        exact of_decide_eq_true repairs

end TenantStore.TableEngine
