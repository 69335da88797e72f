import TenantStore.Proofs.Dictionaries
import TenantStore.Proofs.Relational.Constraints
import TenantStore.TableEngine.Upkeep

namespace TenantStore

/-!
# What a database lacks of the schema

The steps of the schema create the tables that are missing, append the missing
columns to the others, and create the indices that are missing. They lead from
any database to `withSchema` of it, provided that nothing missing is part of a
primary key and that no two rows agree where an index wants them apart
(`leads_schemaSteps`).
-/

namespace Relational

/-! ## Rows and tables with more columns -/

/-- A row with some more columns, which have their defaults. -/
def Row.withColumns (columns : List Column) (row : Row) : Row :=
  { row with
    cells := row.cells ++ columns.map (fun column =>
      (column.name, column.affinity.store column.default)) }

namespace Table

/-- A table with some more columns, in which every row has their defaults. -/
def withColumns (columns : List Column) (table : Table) : Table :=
  { table with
    columns := table.columns ++ columns
    rows := table.rows.map (Row.withColumns columns) }

/-- The columns that a table lacks. -/
def missing (columns : List Column) (table : Table) : List Column :=
  columns.filter (fun column => !table.hasColumn column.name)

/-- Every row has a cell for each column. -/
def Named (table : Table) : Prop :=
  ∀ row ∈ table.rows, row.cells.map Prod.fst = table.columns.map Column.name

instance (table : Table) : Decidable table.Named :=
  inferInstanceAs (Decidable (∀ row ∈ table.rows, _ = _))

/-- A table has the columns that it lists. -/
theorem hasColumn_iff {table : Table} {name : String} :
    table.hasColumn name = true ↔ name ∈ table.columns.map Column.name := by
  simp [hasColumn, column?, List.find?_isSome]

/-- Adding no columns leaves a table as it is. -/
theorem withColumns_nil (table : Table) : table.withColumns [] = table := by
  have same : ∀ row : Row, row.withColumns [] = row := by
    intro row
    rw [Row.withColumns, List.map_nil, List.append_nil]
  rw [withColumns, List.append_nil, List.map_congr_left (fun row _ => same row), List.map_id']

/-- Columns can be added one by one. -/
theorem withColumns_addColumn (table : Table) (column : Column) (columns : List Column) :
    (table.addColumn column).withColumns columns = table.withColumns (column :: columns) := by
  simp only [withColumns, addColumn, List.map_map, List.append_assoc, List.singleton_append]
  congr 1
  apply List.map_congr_left
  intro row _
  simp only [Function.comp, Row.withColumns, List.append_assoc, List.singleton_append,
    List.map_cons]

/-- A column is missing or not, whatever the others are. -/
theorem missing_cons (table : Table) (column : Column) (columns : List Column) :
    table.missing (column :: columns) =
      if table.hasColumn column.name = true then table.missing columns
      else column :: table.missing columns := by
  rw [missing, List.filter_cons]
  cases table.hasColumn column.name <;> rfl

/-- A table has a column after it was added. -/
theorem hasColumn_addColumn {table : Table} {column : Column} {name : String} :
    (table.addColumn column).hasColumn name = true ↔
      table.hasColumn name = true ∨ column.name = name := by
  simp [hasColumn, column?, addColumn, List.find?_isSome]

/-- Adding a column leaves the others missing that were. -/
theorem missing_addColumn
    {table : Table}
    {column : Column}
    {columns : List Column}
    (apart : column.name ∉ columns.map Column.name) :
    (table.addColumn column).missing columns = table.missing columns := by
  apply List.filter_congr
  intro other member
  have unlike : column.name ≠ other.name :=
    fun same => apart (same ▸ List.mem_map_of_mem member)
  rw [Bool.eq_iff_iff, Bool.not_eq_true', Bool.not_eq_true', ← Bool.not_eq_true,
    ← Bool.not_eq_true, hasColumn_addColumn, or_iff_left unlike]

/-- A table lacks none of its own columns. -/
theorem missing_self (table : Table) : table.missing table.columns = [] := by
  rw [missing, List.filter_eq_nil_iff]
  intro column member
  rw [hasColumn_iff.mpr (List.mem_map_of_mem member)]
  exact Bool.false_ne_true

/-- What is missing was declared, and is not there. -/
theorem mem_missing_iff {table : Table} {columns : List Column} {column : Column} :
    column ∈ table.missing columns ↔
      column ∈ columns ∧ table.hasColumn column.name = false := by
  rw [missing, List.mem_filter, Bool.not_eq_true']

/-! ## Cells -/

variable {table : Table} {row : Row} {columns : List Column} {name : String}

/-- The cells that a row had are as they were. -/
theorem cell_withColumns
    (named : row.cells.map Prod.fst = table.columns.map Column.name)
    (present : table.hasColumn name = true) :
    (row.withColumns columns).cell name = row.cell name := by
  have among := named ▸ hasColumn_iff.mp present
  obtain ⟨entry, member, same⟩ := List.mem_map.mp among
  have found : (row.cells.lookup name).isSome = true :=
    List.lookup_isSome_iff.mpr ⟨entry, member, beq_iff_eq.mpr same.symm⟩
  rw [Row.cell, Row.cell, Row.withColumns, List.lookup_append, Option.or_of_isSome found]

/-- A row has no cell in a column that its table lacks. -/
theorem lookup_eq_none
    (named : row.cells.map Prod.fst = table.columns.map Column.name)
    (lacking : table.hasColumn name = false) :
    row.cells.lookup name = none := by
  rw [List.lookup_eq_none_iff]
  intro entry member
  rw [bne_iff_ne]
  rintro rfl
  have present := hasColumn_iff.mpr (named ▸ List.mem_map_of_mem member)
  rw [present] at lacking
  cases lacking

/-- In a column that was missing a row has the default. -/
theorem cell_withColumns_missing
    (named : row.cells.map Prod.fst = table.columns.map Column.name)
    (distinct : (columns.map Column.name).Nodup)
    {column : Column}
    (member : column ∈ columns)
    (lacking : table.hasColumn column.name = false) :
    (row.withColumns (table.missing columns)).cell column.name =
      column.affinity.store column.default := by
  have stillDistinct : ((table.missing columns).map Column.name).Nodup :=
    distinct.sublist (List.filter_sublist.map _)
  rw [Row.cell, Row.withColumns, List.lookup_append, lookup_eq_none named lacking,
    Option.none_or, lookup_map_name stillDistinct (mem_missing_iff.mpr ⟨member, lacking⟩)
      (fun column => column.affinity.store column.default), Option.getD_some]

/-- A column that was missing and has no default leaves a row as null there as it was. -/
theorem cell_withColumns_null
    (named : row.cells.map Prod.fst = table.columns.map Column.name)
    (distinct : (columns.map Column.name).Nodup)
    {column : Column}
    (member : column ∈ columns)
    (null : column.affinity.store column.default = .null) :
    (row.withColumns (table.missing columns)).cell column.name = row.cell column.name := by
  cases present : table.hasColumn column.name with
  | true => exact cell_withColumns named present
  | false =>
      rw [cell_withColumns_missing named distinct member present, null, Row.cell,
        lookup_eq_none named present, Option.getD_none]

end Table

/-- Rows repeat each other as before if the cells in question are as before. -/
theorem Database.repeats_map
    {columns : List String}
    {change : Row → Row}
    {rows : List Row}
    (same : ∀ row ∈ rows, ∀ column ∈ columns, (change row).cell column = row.cell column) :
    repeats columns (rows.map change) = repeats columns rows := by
  induction rows with
  | nil => rfl
  | cons row rest inductionHypothesis =>
      have agree : ∀ other ∈ rest, Table.agreeOn columns (change row) (change other) =
          Table.agreeOn columns row other :=
        fun other member => Table.agreeOn_congr (same row List.mem_cons_self)
          (same other (List.mem_cons_of_mem _ member))
      have any : (rest.map change).any (Table.agreeOn columns (change row)) =
          rest.any (Table.agreeOn columns row) := by
        rw [List.any_map, Bool.eq_iff_iff, List.any_eq_true, List.any_eq_true]
        exact exists_congr fun other => and_congr_right fun member => by
          rw [Function.comp, agree other member]
      rw [List.map_cons, repeats, repeats, any, inductionHypothesis
        (fun other member => same other (List.mem_cons_of_mem _ member))]

end Relational

namespace TableEngine

open Relational (Column Row Table Index Database)

/-! ## Steps that succeed -/

/-- Some steps lead from one database to another, and none of them fails. -/
def Leads (db : Database) (steps : List Upkeep.Step) (after : Database) : Prop :=
  ∀ notices, ∃ noticed,
    steps.foldl Upkeep.andThen { db := db, notices := notices } =
      { db := after, notices := noticed }

theorem leads_nil (db : Database) : Leads db [] db :=
  fun notices => ⟨notices, rfl⟩

/-- A step that is taken, and where the others lead from there. -/
theorem Leads.cons
    {db middle after : Database}
    {step : Upkeep.Step}
    {steps : List Upkeep.Step}
    {noticed : List Notice}
    (taken : step db = .ok (middle, noticed))
    (rest : Leads middle steps after) :
    Leads db (step :: steps) after := by
  intro notices
  obtain ⟨later, rest_eq⟩ := rest (notices ++ noticed)
  refine ⟨later, ?_⟩
  rw [List.foldl_cons, ← rest_eq, Upkeep.andThen]
  simp only [taken]

/-- Steps lead on from where others led. -/
theorem Leads.append
    {db middle after : Database}
    {first second : List Upkeep.Step}
    (leadsFirst : Leads db first middle)
    (leadsSecond : Leads middle second after) :
    Leads db (first ++ second) after := by
  intro notices
  obtain ⟨noticed, first_eq⟩ := leadsFirst notices
  obtain ⟨later, second_eq⟩ := leadsSecond noticed
  exact ⟨later, by rw [List.foldl_append, first_eq, second_eq]⟩

/-! ## One table -/

/-- Setting a table to what it is changes nothing. -/
theorem setTable_eq_self
    {db : Database}
    {name : String}
    {table : Table}
    (found : db.tables.get? name = some table) :
    db.setTable name table = db := by
  rw [Database.setTable, Dict.insert_eq_self found]

/-- The columns that a table lacks are appended in their order. -/
theorem leads_columnSteps
    {db : Database}
    {name : String}
    {table : Table}
    {columns : List Column}
    (found : db.tables.get? name = some table)
    (distinct : (columns.map Column.name).Nodup)
    (addable : ∀ column ∈ columns, column.primary = true →
      table.hasColumn column.name = true) :
    Leads db (columns.map (columnStep name))
      (db.setTable name (table.withColumns (table.missing columns))) := by
  induction columns generalizing db table with
  | nil =>
      rw [Table.missing, List.filter_nil, Table.withColumns_nil, setTable_eq_self found]
      exact leads_nil db
  | cons column rest inductionHypothesis =>
      obtain ⟨headApart, restDistinct⟩ := List.nodup_cons.mp distinct
      rw [List.map_cons, Table.missing_cons]
      cases present : table.hasColumn column.name with
      | true =>
          have taken : columnStep name column db = .ok (db, []) := by
            simp only [columnStep, Database.table?, found, bind, Except.bind, present, if_true]
          exact .cons taken (inductionHypothesis found restDistinct
            (fun other member => addable other (List.mem_cons_of_mem _ member)))
      | false =>
          have notPrimary : column.primary = false := by
            rw [← Bool.not_eq_true]
            intro primary
            rw [addable column List.mem_cons_self primary] at present
            cases present
          have taken : columnStep name column db =
              .ok (db.setTable name (table.addColumn column),
                [.addedColumn name column.name]) := by
            simp only [columnStep, Database.addColumn, Database.table?, found, bind, Except.bind,
              present, notPrimary, Bool.or_self, Bool.false_eq_true, if_false]
          have nowFound : (db.setTable name (table.addColumn column)).tables.get? name =
              some (table.addColumn column) := by
            rw [Database.setTable, Dict.get?_insert, if_pos rfl]
          have rest := inductionHypothesis nowFound restDistinct
            (fun other member primary => Table.hasColumn_addColumn.mpr
              (.inl (addable other (List.mem_cons_of_mem _ member) primary)))
          rw [Table.missing_addColumn headApart, Table.withColumns_addColumn,
            Database.setTable, Database.setTable, Dict.insert_insert] at rest
          exact .cons taken rest

/-- What a table becomes: a missing one is as it is declared, and another one gets the declared
columns that it lacks. -/
def completed (declared : Table) : Option Table → Table
  | none => declared
  | some table => table.withColumns (table.missing declared.columns)

/-- The columns of a declaration that a table lacks can be added. -/
def Completable (declared : Table) (old : Option Table) : Prop :=
  ∀ table, old = some table → ∀ column ∈ declared.columns, column.primary = true →
    table.hasColumn column.name = true

/-- The steps of one table create it or add what it lacks. -/
theorem leads_table
    {db : Database}
    {name : String}
    {declared : Table}
    (distinct : (declared.columns.map Column.name).Nodup)
    (completable : Completable declared (db.tables.get? name)) :
    Leads db (createStep name declared :: declared.columns.map (columnStep name))
      (db.setTable name (completed declared (db.tables.get? name))) := by
  cases old : db.tables.get? name with
  | none =>
      have created : createStep name declared db =
          .ok (db.setTable name declared, [.createdTable name]) := by
        simp [createStep, Database.createTable, Dict.contains, old]
      have found : (db.setTable name declared).tables.get? name = some declared := by
        rw [Database.setTable, Dict.get?_insert, if_pos rfl]
      have columns := leads_columnSteps found distinct
        (fun _ member _ => Table.hasColumn_iff.mpr (List.mem_map_of_mem member))
      rw [Table.missing_self, Table.withColumns_nil, setTable_eq_self found] at columns
      exact .cons created columns
  | some table =>
      have kept : createStep name declared db = .ok (db, []) := by
        simp [createStep, Database.createTable, Dict.contains, old]
      exact .cons kept (leads_columnSteps old distinct (completable table old))

/-! ## All tables -/

/-- A database with some tables completed. -/
def completeTables (entries : List (String × Table)) (db : Database) : Database :=
  entries.foldl (fun db entry =>
    db.setTable entry.1 (completed entry.2 (db.tables.get? entry.1))) db

section Tables

variable {db : Database} {entries : List (String × Table)}
  (distinct : (entries.map Prod.fst).Nodup)

include distinct

/-- The steps of several tables complete each of them. -/
theorem leads_completeTables
    (columnsDistinct : ∀ entry ∈ entries, (entry.2.columns.map Column.name).Nodup)
    (completable : ∀ entry ∈ entries, Completable entry.2 (db.tables.get? entry.1)) :
    Leads db
      (entries.flatMap (fun entry =>
        createStep entry.1 entry.2 :: entry.2.columns.map (columnStep entry.1)))
      (completeTables entries db) := by
  induction entries generalizing db with
  | nil => exact leads_nil db
  | cons entry rest inductionHypothesis =>
      obtain ⟨headApart, restDistinct⟩ := List.nodup_cons.mp distinct
      rw [List.flatMap_cons]
      refine (leads_table (columnsDistinct entry List.mem_cons_self)
        (completable entry List.mem_cons_self)).append
          (inductionHypothesis restDistinct
            (fun other member => columnsDistinct other (List.mem_cons_of_mem _ member)) ?_)
      intro other member
      have apart : entry.1 ≠ other.1 :=
        fun same => headApart (same ▸ List.mem_map_of_mem member)
      rw [Database.setTable, Dict.get?_insert, if_neg apart]
      exact completable other (List.mem_cons_of_mem _ member)

/-- A table is completed by its own declaration, and any other one is left as it is. -/
theorem get?_completeTables (name : String) :
    (completeTables entries db).tables.get? name =
      match Dict.valueIn? name entries with
      | some declared => some (completed declared (db.tables.get? name))
      | none => db.tables.get? name := by
  induction entries generalizing db with
  | nil => rfl
  | cons entry rest inductionHypothesis =>
      obtain ⟨headApart, restDistinct⟩ := List.nodup_cons.mp distinct
      have step := @inductionHypothesis
        (db.setTable entry.1 (completed entry.2 (db.tables.get? entry.1))) restDistinct
      rw [Database.setTable, Dict.get?_insert] at step
      rw [completeTables, List.foldl_cons, Dict.valueIn?]
      refine step.trans ?_
      by_cases same : entry.1 = name
      · have gone : Dict.valueIn? name rest = none :=
          Dict.valueIn?_eq_none (same ▸ headApart)
        rw [gone, if_pos same, if_pos same, same]
      · rw [if_neg same, if_neg same]

end Tables

/-- Completing tables adds no index. -/
theorem completeTables_indices (entries : List (String × Table)) (db : Database) :
    (completeTables entries db).indices = db.indices := by
  induction entries generalizing db with
  | nil => rfl
  | cons entry rest inductionHypothesis => exact inductionHypothesis _

/-! ## Indices -/

/-- Some indices with others under names that are not taken. -/
def completeIndices (entries : List (String × Index)) (indices : Dict Index) : Dict Index :=
  entries.foldl (fun indices entry =>
    if indices.contains entry.1 then indices else indices.insert entry.1 entry.2) indices

/-- An index can be made on a table: it has the columns, and no two rows agree where the index
wants them apart. -/
def IndexFits (index : Index) (table : Table) : Prop :=
  index.columns.all table.hasColumn = true ∧
    (index.isUnique = true → Database.repeats index.columns table.rows = false)

/-- The steps of the indices create those that are not there. -/
theorem leads_completeIndices
    {db : Database}
    {entries : List (String × Index)}
    (fitting : ∀ entry ∈ entries, ∃ table,
      db.tables.get? entry.2.table = some table ∧ IndexFits entry.2 table) :
    Leads db (entries.map (fun entry => indexStep entry.1 entry.2))
      { db with indices := completeIndices entries db.indices } := by
  induction entries generalizing db with
  | nil => exact leads_nil db
  | cons entry rest inductionHypothesis =>
      have restFitting : ∀ other ∈ rest, ∃ table,
          db.tables.get? other.2.table = some table ∧ IndexFits other.2 table :=
        fun other member => fitting other (List.mem_cons_of_mem _ member)
      rw [List.map_cons, completeIndices, List.foldl_cons]
      cases taken : db.indices.contains entry.1 with
      | true =>
          have kept : indexStep entry.1 entry.2 db = .ok (db, []) := by
            rw [indexStep, Database.createIndex, if_pos taken]
            rfl
          rw [if_pos rfl]
          exact .cons kept (inductionHypothesis restFitting)
      | false =>
          obtain ⟨table, found, columns, apart⟩ := fitting entry List.mem_cons_self
          have separate : (entry.2.isUnique &&
              Database.repeats entry.2.columns table.rows) = false := by
            cases unique : entry.2.isUnique with
            | false => rfl
            | true => exact apart unique
          have created : indexStep entry.1 entry.2 db =
              .ok ({ db with indices := db.indices.insert entry.1 entry.2 }, []) := by
            simp only [indexStep, Database.createIndex, taken, Database.table?, found, columns,
              separate, bind, Except.bind, Except.map, Bool.not_true, Bool.false_eq_true,
              if_false]
          rw [if_neg Bool.false_ne_true]
          exact .cons created (@inductionHypothesis
            { db with indices := db.indices.insert entry.1 entry.2 } restFitting)

/-- An index that was there stays, also if its declaration has changed since. -/
theorem get?_completeIndices
    (entries : List (String × Index))
    (indices : Dict Index)
    (name : String) :
    (completeIndices entries indices).get? name =
      (indices.get? name).or (Dict.valueIn? name entries) := by
  induction entries generalizing indices with
  | nil => exact (Option.or_none ..).symm
  | cons entry rest inductionHypothesis =>
      rw [completeIndices, List.foldl_cons, Dict.valueIn?]
      refine (inductionHypothesis _).trans ?_
      by_cases same : entry.1 = name
      · subst same
        rw [if_pos rfl]
        cases old : indices.get? entry.1 <;> simp [Dict.contains, old]
      · rw [if_neg same]
        split
        · rfl
        · rw [Dict.get?_insert, if_neg same]

/-! ## The whole schema -/

/-- A database with what it lacks of the schema. -/
def withSchema (db : Database) : Database :=
  { completeTables Schema.tables db with
    indices := completeIndices Schema.indices db.indices }

/-- No two tables of the schema share a name. -/
theorem tableNames_distinct : (Schema.tables.map Prod.fst).Nodup := by
  decide

/-- No two indices of the schema share a name. -/
theorem indexNames_distinct : (Schema.indices.map Prod.fst).Nodup := by
  decide

/-- The steps of the schema complete its tables, and then its indices. -/
theorem leads_schemaSteps
    {db : Database}
    (completable : ∀ entry ∈ Schema.tables, Completable entry.2 (db.tables.get? entry.1))
    (fitting : ∀ entry ∈ Schema.indices, ∃ table,
      (withSchema db).tables.get? entry.2.table = some table ∧ IndexFits entry.2 table) :
    Leads db schemaSteps (withSchema db) := by
  have tables := leads_completeTables tableNames_distinct (by decide) completable
  have indices := @leads_completeIndices (completeTables Schema.tables db) Schema.indices fitting
  rw [completeTables_indices] at indices
  exact tables.append indices

end TableEngine

end TenantStore
