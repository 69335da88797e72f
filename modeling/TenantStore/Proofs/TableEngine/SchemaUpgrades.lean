import TenantStore.Proofs.TableEngine.MissingColumns
import TenantStore.Proofs.TableEngine.PartialRows
import TenantStore.Proofs.TableEngine.Reopening

namespace TenantStore.TableEngine

/-!
# Databases from before some columns

A database may come from a time when some tables, columns and indices did not
exist yet. The steps of the schema make up for that without touching a stored
value, and a row is then read as the entity that its document with just the
fields of its columns is read as: the defaults of the columns and those of the
documents agree (`upgrade_agrees`).
-/

open Relational (Cell Column Row Table Index Database)

/-! ## Databases that lack columns -/

/-- A row holds what an entity is written to, as far as the columns are there. -/
def Kind.Portrays (kind : Kind) (table : Table) (row : Row) (owner : String)
    (value : kind.Value) : Prop :=
  ∃ given, kind.cells owner value = .ok given ∧
    ∀ column ∈ kind.schema.columns, table.hasColumn column.name = true →
      row.cell column.name = (rowOf row.number kind.schema given).cell column.name

/-- A table of entities that has their identifiers and owners, and maybe nothing else. -/
structure Kind.Legacy (kind : Kind) (table : Table) : Prop where
  identified : table.hasColumn "id" = true
  owned : kind ≠ .account → table.hasColumn kind.ownerColumn = true
  named : table.Named

/-- A database whose tables may lack columns, and in which no two peers of an account have one
address. -/
structure LegacyDatabase (db : Database) : Prop where
  kinds : ∀ kind table, db.tables.get? kind.tableName = some table → Kind.Legacy kind table
  installations : ∀ table, db.tables.get? "installations" = some table →
    table.hasColumn "id" = true
  addresses : ∀ table, db.tables.get? Kind.peer.tableName = some table →
    Database.repeats ["account_id", "ip"] table.rows = false

/-- How a database differs from the one that it was made from by the steps of the schema. -/
structure Upgrades (before after : Database) : Prop where
  tables : ∀ entry ∈ Schema.tables, HasColumns entry.1 entry.2.columns after
  indices : ∀ entry ∈ Schema.indices,
    after.indices.get? entry.1 = some ((before.indices.get? entry.1).getD entry.2)
  keptIndices : ∀ name index, before.indices.get? name = some index →
    after.indices.get? name = some index
  /-- Every table has its rows with all their cells, and columns that it lacked. -/
  keptTables : ∀ name table, before.tables.get? name = some table →
    ∃ added : List Column,
      (∀ column ∈ added, table.hasColumn column.name = false) ∧
      after.tables.get? name = some (table.withColumns added) ∧
      ∀ row ∈ table.rows, ∀ column cell, row.cells.lookup column = some cell →
        (row.withColumns added).cell column = cell
  /-- A row is read as the entity that its document with just the present fields is read as. -/
  entities : ∀ (kind : Kind) table, before.tables.get? kind.tableName = some table →
    ∃ added : List Column,
      after.tables.get? kind.tableName = some (table.withColumns added) ∧
      ∀ row ∈ table.rows, ∀ owner value, kind.Portrays table row owner value →
        ∃ entity, kind.read (row.withColumns added) = some entity ∧
          kind.ofJson? (kind.portion table.hasColumn (kind.kept owner value)) = some entity

/-! ## Completed tables -/

/-- The tables of the schema are those of the kinds, and that of the installation. -/
theorem schema_tables_eq :
    Schema.tables =
      Kind.all.map (fun kind => (kind.tableName, kind.schema)) ++
        [("installations", Schema.installations)] :=
  rfl

theorem withSchema_indices (db : Database) :
    (withSchema db).indices = completeIndices Schema.indices db.indices := by
  rw [withSchema]

/-- A table of the schema is completed. -/
theorem get?_withSchema (db : Database) {entry : String × Table} (member : entry ∈ Schema.tables) :
    (withSchema db).tables.get? entry.1 =
      some (completed entry.2 (db.tables.get? entry.1)) := by
  have found := @get?_completeTables db Schema.tables tableNames_distinct entry.1
  rw [Dict.valueIn?_of_mem tableNames_distinct member] at found
  exact found

/-- The table of a kind is completed. -/
theorem get?_withSchema_kind (db : Database) (kind : Kind) :
    (withSchema db).tables.get? kind.tableName =
      some (completed kind.schema (db.tables.get? kind.tableName)) := by
  have member : (kind.tableName, kind.schema) ∈ Schema.tables := by
    rw [schema_tables_eq]
    exact List.mem_append_left _ (List.mem_map_of_mem kind.mem_all)
  exact get?_withSchema db member

/-- A completed table has every declared column. -/
theorem hasColumn_completed
    {declared : Table}
    {column : Column}
    (member : column ∈ declared.columns)
    (old : Option Table) :
    (completed declared old).hasColumn column.name = true := by
  rw [Table.hasColumn_iff]
  cases old with
  | none => exact List.mem_map_of_mem member
  | some table =>
      rw [completed, Table.withColumns, List.map_append, List.mem_append]
      cases present : table.hasColumn column.name with
      | true => exact .inl (Table.hasColumn_iff.mp present)
      | false =>
          exact .inr (List.mem_map_of_mem (Table.mem_missing_iff.mpr ⟨member, present⟩))

/-- A row that portrays an entity shows it once it has the missing columns. -/
theorem Kind.Legacy.shows
    {kind : Kind}
    {table : Table}
    (legacy : kind.Legacy table)
    {row : Row}
    (member : row ∈ table.rows)
    {given : Cells}
    (portrays : ∀ column ∈ kind.schema.columns, table.hasColumn column.name = true →
      row.cell column.name = (rowOf row.number kind.schema given).cell column.name) :
    Shows table.hasColumn kind.schema given
      (row.withColumns (table.missing kind.schema.columns)) := by
  intro column columnMember
  cases present : table.hasColumn column.name with
  | true =>
      rw [if_pos rfl, Table.cell_withColumns (legacy.named row member) present,
        portrays column columnMember present,
        Table.cell_newCells kind.columns_distinct columnMember]
  | false =>
      rw [if_neg Bool.false_ne_true, Table.cell_withColumns_missing (legacy.named row member)
        kind.columns_distinct columnMember present]

/-- A row that portrays an entity is read, once it has the missing columns, as what the document
with just the present fields is read as. -/
theorem Kind.Legacy.read_eq
    {kind : Kind}
    {table : Table}
    (legacy : kind.Legacy table)
    {row : Row}
    (member : row ∈ table.rows)
    {owner : String}
    {value : kind.Value}
    (portrays : kind.Portrays table row owner value) :
    ∃ entity, kind.read (row.withColumns (table.missing kind.schema.columns)) = some entity ∧
      kind.ofJson? (kind.portion table.hasColumn (kind.kept owner value)) = some entity := by
  obtain ⟨given, cells_eq, holds⟩ := portrays
  exact ⟨_, Kind.read_shows cells_eq legacy.identified legacy.owned (legacy.shows member holds),
    Kind.ofJson?_portion legacy.identified legacy.owned owner value⟩

/-! ## What the steps need -/

namespace LegacyDatabase

variable {db : Database} (legacy : LegacyDatabase db)

include legacy

/-- Tables without the columns of their keys could not be completed; these have them. -/
theorem completable : ∀ entry ∈ Schema.tables, Completable entry.2 (db.tables.get? entry.1) := by
  have keys : ∀ kind : Kind, ∀ column ∈ kind.schema.columns, column.primary = true →
      column.name = "id" := by
    decide
  have installationKey : ∀ column ∈ Schema.installations.columns, column.primary = true →
      column.name = "id" := by
    decide
  intro entry entryMember table found column member primary
  rw [schema_tables_eq, List.mem_append, List.mem_map, List.mem_singleton] at entryMember
  rcases entryMember with ⟨kind, _, rfl⟩ | rfl
  · rw [keys kind column member primary]
    exact (legacy.kinds kind table found).identified
  · rw [installationKey column member primary]
    exact legacy.installations table found

/-- The missing columns are null in peers, so no two of them come to have one address. -/
theorem addresses_completed :
    Database.repeats ["account_id", "ip"]
      (completed Kind.peer.schema (db.tables.get? Kind.peer.tableName)).rows = false := by
  cases old : db.tables.get? Kind.peer.tableName with
  | none => rfl
  | some table =>
      rw [completed, Table.withColumns, Database.repeats_map]
      · exact legacy.addresses table old
      · intro row rowMember name member
        have named := (legacy.kinds .peer table old).named row rowMember
        have declared : ∀ name ∈ ["account_id", "ip"], ∃ column ∈ Kind.peer.schema.columns,
            column.name = name ∧ column.affinity.store column.default = .null := by
          decide
        obtain ⟨column, columnMember, rfl, null⟩ := declared name member
        exact Table.cell_withColumns_null named Kind.peer.columns_distinct columnMember null

/-- Every index fits the completed tables. -/
theorem fitting : ∀ entry ∈ Schema.indices, ∃ table,
    (withSchema db).tables.get? entry.2.table = some table ∧ IndexFits entry.2 table := by
  have declared : ∀ entry ∈ Schema.indices, ∃ kind ∈ Kind.all,
      entry.2.table = kind.tableName ∧
        (∀ name ∈ entry.2.columns, ∃ column ∈ kind.schema.columns, column.name = name) ∧
        (entry.2.isUnique = true → kind = .peer ∧ entry.2.columns = ["account_id", "ip"]) := by
    decide
  intro entry member
  obtain ⟨kind, _, table, columns, unique⟩ := declared entry member
  refine ⟨_, table ▸ get?_withSchema_kind db kind, ?_, ?_⟩
  · rw [List.all_eq_true]
    intro name nameMember
    obtain ⟨column, columnMember, rfl⟩ := columns name nameMember
    exact hasColumn_completed columnMember _
  · intro isUnique
    obtain ⟨rfl, same⟩ := unique isUnique
    rw [same, table]
    exact legacy.addresses_completed

end LegacyDatabase

/-! ## The upgrade -/

/-- A table that was there gets the columns that it lacked, also one that is not of the schema. -/
theorem withSchema_keptTables
    {db : Database}
    {name : String}
    {table : Table}
    (found : db.tables.get? name = some table) :
    ∃ added : List Column,
      (∀ column ∈ added, table.hasColumn column.name = false) ∧
      (withSchema db).tables.get? name = some (table.withColumns added) := by
  have after := @get?_completeTables db Schema.tables tableNames_distinct name
  cases listed : Dict.valueIn? name Schema.tables with
  | none =>
      rw [listed] at after
      refine ⟨[], List.forall_mem_nil _, ?_⟩
      rw [Table.withColumns_nil, ← found]
      exact after
  | some declared =>
      rw [listed, found] at after
      exact ⟨table.missing declared.columns,
        fun column member => (Table.mem_missing_iff.mp member).2, after⟩

/-- What the steps of the schema lead to is an upgrade. -/
theorem LegacyDatabase.upgrades {db : Database} (legacy : LegacyDatabase db) :
    Upgrades db (withSchema db) where
  tables entry member := ⟨_, get?_withSchema db member,
    fun _ columnMember => hasColumn_completed columnMember _⟩
  indices entry member := by
    rw [withSchema_indices, get?_completeIndices,
      Dict.valueIn?_of_mem indexNames_distinct member]
    cases db.indices.get? entry.1 <;> rfl
  keptIndices name index found := by
    rw [withSchema_indices, get?_completeIndices, found, Option.some_or]
  keptTables name table found := by
    obtain ⟨added, lacking, extended⟩ := withSchema_keptTables found
    refine ⟨added, lacking, extended, ?_⟩
    intro row _ column cell held
    rw [Row.cell, Row.withColumns, List.lookup_append, held, Option.some_or, Option.getD_some]
  entities kind table found := by
    refine ⟨table.missing kind.schema.columns, ?_, ?_⟩
    · rw [get?_withSchema_kind, found]
      rfl
    · intro row member owner value portrays
      exact (legacy.kinds kind table found).read_eq member portrays

/-- The steps of the schema succeed on a database that lacks columns, and a second run of them
changes nothing. Every table, column and index of the schema is there in the end, and no stored
value has changed. A row is then read as the same entity as a document that lacks the same
fields. -/
theorem upgrade_agrees {db : Database} (legacy : LegacyDatabase db) :
    ∃ after notices,
      Upkeep.run db schemaSteps = { db := after, notices := notices } ∧
        Upgrades db after ∧
        Upkeep.run after schemaSteps = { db := after } := by
  obtain ⟨noticed, run_eq⟩ := leads_schemaSteps legacy.completable legacy.fitting []
  have upgrades := legacy.upgrades
  refine ⟨withSchema db, noticed, run_eq, upgrades, ?_⟩
  refine run_schemaSteps_eq upgrades.tables (fun entry member => ?_)
  rw [HasIndex, Dict.contains, upgrades.indices entry member, Option.isSome_some]

/-! ## A database with two tables -/

/-- What a row has of an account: the domain and a part of the network. -/
def formerAccountRow : Row where
  number := 1
  cells := [("id", .text "acc1"), ("domain", .text "example.com"),
    ("network_dns", .text "10.0.0.53")]

/-- The accounts, before most of their columns were added. -/
def formerAccounts : Table where
  columns := [Schema.identifier, Schema.text "domain", Schema.text "network_dns"]
  rows := [formerAccountRow]

/-- A peer of that account, under some address. -/
def formerPeer (number : Int) (id address : String) : Row where
  number := number
  cells := [("id", .text id), ("account_id", .text "acc1"),
    ("ip", documentCell (.text address)), ("status_connected", .flag true)]

/-- Two peers without locations, and with a part of their status. -/
def formerPeers : Table where
  columns := [Schema.identifier, Schema.owner "account_id", Schema.document "ip",
    Schema.number "status_connected"]
  rows := [formerPeer 1 "p1" "10.0.0.1", formerPeer 2 "p2" "10.0.0.2"]

/-- A database with these two tables and without indices. -/
def formerDatabase : Database where
  tables := ((∅ : Dict Table).insert "accounts" formerAccounts).insert "peers" formerPeers

/-- The account that the row was written for. -/
def formerAccount : Account where
  id := "acc1"
  createdBy := "u1"
  domain := "example.com"
  network := { identifier := "net1", net := "10.0.0.0/24", dns := "10.0.0.53", serial := 7 }

/-- The two tables have the identifiers and owners that they need. -/
theorem formerDatabase_legacy : LegacyDatabase formerDatabase where
  kinds kind table found := by
    cases kind <;> cases found
    · exact ⟨by decide, fun other => absurd rfl other, by decide⟩
    · exact ⟨by decide, fun _ => by decide, by decide⟩
  installations table found := by
    cases found
  addresses table found := by
    cases found
    decide

/-- The row holds the three values of the account that it has columns for. -/
theorem formerAccount_portrayed :
    Kind.account.Portrays formerAccounts formerAccountRow "" formerAccount := by
  refine ⟨_, rfl, ?_⟩
  decide

/-- What is left of the account: the creator and the rest of the network had no columns. -/
def formerRemains : Account where
  id := "acc1"
  domain := "example.com"
  network := { dns := "10.0.0.53" }

/-- The former database is upgraded, and its row is read as what the document with the three
fields is read as: what the row holds of the account, and defaults. -/
theorem upgrade_agrees_former :
    LegacyDatabase formerDatabase ∧
      Kind.account.Portrays formerAccounts formerAccountRow "" formerAccount ∧
      ∃ after notices,
        Upkeep.run formerDatabase schemaSteps = { db := after, notices := notices } ∧
          Upgrades formerDatabase after ∧
          Upkeep.run after schemaSteps = { db := after } ∧
          ∃ added,
            after.tables.get? "accounts" = some (formerAccounts.withColumns added) ∧
              Kind.account.read (formerAccountRow.withColumns added) = some formerRemains ∧
              Kind.account.ofJson? (Kind.account.portion formerAccounts.hasColumn formerAccount) =
                some formerRemains := by
  obtain ⟨after, notices, run_eq, upgrades, again⟩ := upgrade_agrees formerDatabase_legacy
  obtain ⟨added, extended, reads⟩ := upgrades.entities .account formerAccounts rfl
  obtain ⟨entity, read_eq, ofJson_eq⟩ :=
    reads formerAccountRow (List.mem_singleton_self _) "" formerAccount formerAccount_portrayed
  have remains : some entity = some formerRemains :=
    ofJson_eq.symm.trans
      (Kind.ofJson?_portion (by decide) (fun other => absurd rfl other) "" formerAccount)
  exact ⟨formerDatabase_legacy, formerAccount_portrayed, after, notices, run_eq, upgrades, again,
    added, extended, read_eq.trans remains, ofJson_eq.trans remains⟩

end TenantStore.TableEngine
