import TenantStore.Proofs.Dictionaries
import TenantStore.Proofs.TableEngine.Cells
import TenantStore.TableEngine.Queries
import TenantStore.TableEngine.Upkeep

namespace TenantStore.TableEngine

/-!
# What calls leave alone

Calls put rows into tables and take them out, but they define nothing: the
columns of every table and the indices stay as they are, and so do the versions
of the schema (`perform_sameDefinitions`).
-/

open Relational (Cell Row Table Index Database)

/-! ## Statements on one table -/

/-- Nothing but the rows of one table differs. -/
structure ChangesRows (name : String) (before after : Database) : Prop where
  columns : (after.tables.get? name).map Table.columns =
    (before.tables.get? name).map Table.columns
  others : ∀ other, name ≠ other → after.tables.get? other = before.tables.get? other
  indices : after.indices = before.indices

namespace ChangesRows

variable {name : String} {before middle after : Database}

/-- Doing nothing changes no more than rows. -/
theorem refl (name : String) (db : Database) : ChangesRows name db db :=
  ⟨rfl, fun _ _ => rfl, rfl⟩

/-- Two changes of rows in turn are one. -/
theorem trans (first : ChangesRows name before middle)
    (second : ChangesRows name middle after) :
    ChangesRows name before after where
  columns := second.columns.trans first.columns
  others other unlike := (second.others other unlike).trans (first.others other unlike)
  indices := second.indices.trans first.indices

/-- Replacing a table by one with the same columns changes rows. -/
theorem setTable
    {db : Database}
    {old new : Table}
    (found : db.tables.get? name = some old)
    (columns : new.columns = old.columns) :
    ChangesRows name db (db.setTable name new) where
  columns := by simp [Database.setTable, found, columns]
  others other unlike := by simp [Database.setTable, unlike]
  indices := rfl

/-- Placing a row changes rows, whether it replaces another or not. -/
theorem place
    {db : Database}
    {table : Table}
    {row : Row}
    (found : db.tables.get? name = some table)
    (placed : db.place name table row = .ok after) :
    ChangesRows name db after := by
  rw [Database.place] at placed
  split at placed
  · cases placed
  · split at placed
    · cases placed
    · cases placed
      exact setTable found rfl

end ChangesRows

/-- A table is there if it is found under its name. -/
theorem table?_eq_ok_iff {db : Database} {name : String} {table : Table} :
    db.table? name = .ok table ↔ db.tables.get? name = some table := by
  rw [Database.table?]
  cases db.tables.get? name <;> simp

section Statements

variable {db after : Database} {name : String}

/-- Inserting or replacing a row changes rows of its table. -/
theorem upsert_changesRows
    {given : Cells}
    (run : db.upsert name given = .ok after) :
    ChangesRows name db after := by
  obtain ⟨table, found, rest⟩ := Except.bind_eq_ok_iff.mp run
  have stored := table?_eq_ok_iff.mp found
  split at rest
  · cases rest
  · split at rest
    · cases rest
    · split at rest
      · cases rest
      · split at rest
        · exact .place stored rest
        · exact .place stored rest

/-- Deleting changes rows of the table. -/
theorem deleteWhere_changesRows
    {test : Table → Row → Bool}
    (run : db.deleteWhere name test = .ok after) :
    ChangesRows name db after := by
  obtain ⟨table, found, rest⟩ := Except.bind_eq_ok_iff.mp run
  obtain ⟨_, _, deleted⟩ := Except.bind_eq_ok_iff.mp rest
  cases deleted
  exact .setTable (table?_eq_ok_iff.mp found) rfl

/-- Updating a row changes rows of its table. -/
theorem updateRow_changesRows
    {values : Cells}
    {number : Int}
    (run : db.updateRow name values number = .ok after) :
    ChangesRows name db after := by
  obtain ⟨table, found, rest⟩ := Except.bind_eq_ok_iff.mp run
  split at rest
  · cases rest
    exact .refl name db
  · exact .place (table?_eq_ok_iff.mp found) rest

/-- Steps that change the rows of one table do so one after the other. -/
theorem foldlM_changesRows
    {step : Database → α → Except Problem Database}
    (changes : ∀ {db item after}, step db item = .ok after → ChangesRows name db after)
    {items : List α}
    (run : items.foldlM step db = .ok after) :
    ChangesRows name db after := by
  induction items generalizing db with
  | nil =>
      cases run
      exact .refl name _
  | cons item rest inductionHypothesis =>
      obtain ⟨middle, first, others⟩ := Except.bind_eq_ok_iff.mp
        ((List.foldlM_cons ..).symm.trans run)
      exact (changes first).trans (inductionHypothesis others)

/-- Updating an entity changes rows of its table. -/
theorem updateEntity_changesRows
    {subject : Subject}
    {accountId id : String}
    {cells : Cells}
    (run : updateEntity db name subject accountId id cells = .ok after) :
    ChangesRows name db after := by
  obtain ⟨⟨updated, count⟩, updates, counted⟩ := Except.bind_eq_ok_iff.mp run
  obtain ⟨table, found, rest⟩ := Except.bind_eq_ok_iff.mp updates
  simp only at rest counted
  split at counted
  · cases counted
  · cases counted
    split at rest
    · cases rest
    · obtain ⟨last, folded, same⟩ := Except.bind_eq_ok_iff.mp rest
      cases same
      exact foldlM_changesRows updateRow_changesRows folded

end Statements

/-! ## Definitions -/

/-- Columns, indices and versions are the same. -/
structure SameDefinitions (before after : Database) : Prop where
  columns : ∀ name, (after.tables.get? name).map Table.columns =
    (before.tables.get? name).map Table.columns
  versions : after.tables.get? Schema.versionsName =
    before.tables.get? Schema.versionsName
  indices : after.indices = before.indices

namespace SameDefinitions

variable {before middle after : Database}

/-- A database has its own definitions. -/
theorem refl (db : Database) : SameDefinitions db db :=
  ⟨fun _ => rfl, rfl, rfl⟩

/-- Definitions that stay twice stay. -/
theorem trans
    (first : SameDefinitions before middle)
    (second : SameDefinitions middle after) :
    SameDefinitions before after where
  columns name := (second.columns name).trans (first.columns name)
  versions := second.versions.trans first.versions
  indices := second.indices.trans first.indices

end SameDefinitions

/-- Rows of any other table than that of the versions define nothing. -/
theorem ChangesRows.sameDefinitions
    {name : String}
    {before after : Database}
    (changes : ChangesRows name before after)
    (elsewhere : name ≠ Schema.versionsName) :
    SameDefinitions before after where
  columns other := by
    by_cases same : name = other
    · exact same ▸ changes.columns
    · rw [changes.others other same]
  versions := changes.others _ elsewhere
  indices := changes.indices

/-- A change of databases that defines nothing. -/
def DefinesNothing (write : Database → Except Problem Database) : Prop :=
  ∀ db after, write db = .ok after → SameDefinitions db after

namespace DefinesNothing

/-- Two writes in turn define nothing if neither does. -/
theorem bind
    {first second : Database → Except Problem Database}
    (firstNothing : DefinesNothing first)
    (secondNothing : DefinesNothing second) :
    DefinesNothing (fun db => first db >>= second) := by
  intro db after run
  obtain ⟨middle, firstRun, secondRun⟩ := Except.bind_eq_ok_iff.mp run
  exact (firstNothing db middle firstRun).trans (secondNothing middle after secondRun)

/-- A check before a write defines nothing. -/
theorem checked
    {write : Database → Except Problem Database}
    (nothing : DefinesNothing write)
    (check : Database → Except Problem Unit) :
    DefinesNothing (fun db => check db >>= fun _ => write db) := by
  intro db after run
  obtain ⟨_, _, written⟩ := Except.bind_eq_ok_iff.mp run
  exact nothing db after written

/-- A write for each of several items defines nothing if no single one does. -/
theorem foldlM
    {write : Database → α → Except Problem Database}
    (nothing : ∀ item, DefinesNothing (fun db => write db item))
    (items : List α) :
    DefinesNothing (fun db => items.foldlM write db) := by
  induction items with
  | nil =>
      intro db after run
      cases run
      exact .refl db
  | cons item rest inductionHypothesis =>
      simp only [List.foldlM_cons]
      exact (nothing item).bind inductionHypothesis

/-- Writing an entity defines nothing. -/
theorem writeRow
    {table : String}
    (elsewhere : table ≠ Schema.versionsName)
    (cells : α → Except Problem Cells)
    (entity : α) :
    DefinesNothing (fun db => TableEngine.writeRow table cells db entity) := by
  intro db after run
  obtain ⟨given, _, placed⟩ := Except.bind_eq_ok_iff.mp run
  exact (upsert_changesRows placed).sameDefinitions elsewhere

/-- Writing entities defines nothing. -/
theorem writeRows
    {table : String}
    (elsewhere : table ≠ Schema.versionsName)
    (cells : α → Except Problem Cells)
    (entities : List α) :
    DefinesNothing (writeRows table cells entities) :=
  (DefinesNothing.foldlM (writeRow elsewhere cells) entities).checked _

/-- Deleting rows defines nothing. -/
theorem deleteWhere
    {table : String}
    (elsewhere : table ≠ Schema.versionsName)
    (test : Database → Table → Row → Bool) :
    DefinesNothing (fun db => db.deleteWhere table (test db)) :=
  fun _ _ run => (deleteWhere_changesRows run).sameDefinitions elsewhere

end DefinesNothing

/-- Deleting an account takes rows away and leaves every table, index and version. -/
theorem deleteAccount_definesNothing (id : String) :
    DefinesNothing (fun db => deleteAccount db id) := by
  have below : ∀ table ownerColumn ownerTable, table ≠ Schema.versionsName →
      DefinesNothing (fun db => deleteBelow db table ownerColumn ownerTable id) :=
    fun table ownerColumn ownerTable elsewhere => .deleteWhere elsewhere _
  have owned : ∀ table, table ≠ Schema.versionsName →
      DefinesNothing (fun db => deleteOwned id db table) :=
    fun table elsewhere => .deleteWhere elsewhere _
  have plain : DefinesNothing (fun db => plainTables.foldlM (deleteOwned id) db) := by
    have each : ∀ table ∈ plainTables, table ≠ Schema.versionsName := by decide
    generalize plainTables = tables at each
    induction tables with
    | nil =>
        intro db after run
        cases run
        exact .refl db
    | cons table rest inductionHypothesis =>
        simp only [List.foldlM_cons]
        exact (owned table (each table List.mem_cons_self)).bind
          (inductionHypothesis (fun other member =>
            each other (List.mem_cons_of_mem _ member)))
  exact (below _ _ _ (by decide)).bind ((owned _ (by decide)).bind
    ((below _ _ _ (by decide)).bind ((owned _ (by decide)).bind
    (plain.bind (.deleteWhere (by decide) _)))))

/-- Writing an account leaves every table, index and version. -/
theorem writeAccount_definesNothing (account : Account) :
    DefinesNothing (fun db => writeAccount db account) := by
  have user : ∀ user, DefinesNothing (fun db => writeUser account.id db user) :=
    fun user => (DefinesNothing.writeRow (by decide) (userCells account.id) user).bind
      (.foldlM (.writeRow (by decide) (tokenCells user.id)) user.tokens.values)
  have users : DefinesNothing (writeUsers account) :=
    ((DefinesNothing.foldlM user account.users.values).checked _).checked _
  have policy : ∀ policy, DefinesNothing (fun db => writePolicy account.id db policy) :=
    fun policy => (DefinesNothing.writeRow (by decide) _ policy).bind
      (.foldlM (.writeRow (by decide) _) policy.rules)
  have policies : DefinesNothing (writePolicies account) :=
    ((DefinesNothing.foldlM policy account.policies).checked _).checked _
  exact (DefinesNothing.writeRows (by decide) _ _).bind
    ((DefinesNothing.writeRows (by decide) _ _).bind
    ((DefinesNothing.writeRows (by decide) _ _).bind
    (users.bind
    ((DefinesNothing.writeRows (by decide) _ _).bind
    (policies.bind
    ((DefinesNothing.writeRows (by decide) _ _).bind
    (DefinesNothing.writeRows (by decide) _ _)))))))

/-- Saving an account leaves every table, index and version. -/
theorem saveAccount_definesNothing (account : Account) :
    DefinesNothing (fun db => saveAccount db account) :=
  (deleteAccount_definesNothing account.id).bind
    (writeAccount_definesNothing account.normalized)

/-- No call changes columns, indices or versions. -/
theorem perform_sameDefinitions (db : Database) (call : Call) :
    SameDefinitions db (perform db call).db := by
  have whole : ∀ {change : Except Problem Database},
      (∀ after, change = .ok after → SameDefinitions db after) →
        SameDefinitions db (changed db change).db := by
    intro change same
    cases change with
    | ok after => exact same after rfl
    | error problem => exact .refl db
  have one : ∀ {account : Account} {change : Except Problem Database},
      (∀ after, change = .ok after → SameDefinitions db after) →
        ∀ after, named account change = .ok after → SameDefinitions db after := by
    intro account change same after run
    rw [named] at run
    split at run
    · cases run
    · exact same after run
  cases call with
  | save account => exact whole (one (saveAccount_definesNothing account db))
  | delete account => exact whole (one (deleteAccount_definesNothing account.id db))
  | savePeerStatus account peer status =>
      refine whole (fun after run => ?_)
      obtain ⟨_, _, updated⟩ := Except.bind_eq_ok_iff.mp run
      exact (updateEntity_changesRows updated).sameDefinitions (by decide)
  | savePeerLocation account peer location =>
      exact whole (fun after run =>
        (updateEntity_changesRows run).sameDefinitions (by decide))
  | saveLastLogin account user time =>
      refine whole (fun after run => ?_)
      obtain ⟨_, _, updated⟩ := Except.bind_eq_ok_iff.mp run
      exact (updateEntity_changesRows updated).sameDefinitions (by decide)
  | saveInstallation id =>
      refine whole (fun after run => ?_)
      obtain ⟨_, _, placed⟩ := Except.bind_eq_ok_iff.mp run
      exact (upsert_changesRows placed).sameDefinitions (by decide)
  | _ => exact .refl db

end TenantStore.TableEngine
