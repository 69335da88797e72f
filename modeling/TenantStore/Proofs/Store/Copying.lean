import TenantStore.Proofs.Store.Openings
import TenantStore.Proofs.TableEngine.Filling
import TenantStore.Store.Conversion

namespace TenantStore.Store

/-!
# What copying leaves behind

Accounts of the file engine are copied into a database by saving one after the
other. A copy that succeeds has filled the database; one that fails leaves it
with the accounts that were saved until then, which are the first ones of the
source (`copy_into_tables`, `tablesFrom_cases`). A store of the file engine is
replaced as a whole instead (`of_fileFrom`).
-/

open Relational (Database)
open TableEngine (fill named saveAccount saveInstallation)

/-! ## Stores of a database -/

/-- An open store of the table engine whose database is a given one. -/
structure Serves (db : Database) (host : Host) (store : Store) : Prop where
  keeping : store.keeping = .database
  stands : Stands db host store.folder

namespace Serves

variable {db : Database} {host after : Host} {store : Store}

/-- A store has the same database as long as the files are the same. -/
theorem of_files (serves : Serves db host store) (same : after.files = host.files) :
    Serves db after store where
  keeping := serves.keeping
  stands := serves.stands.of_files same

/-- A call on the store is a call on its database. -/
theorem perform (serves : Serves db host store) (call : Call) :
    Serves (TableEngine.perform db call).db (store.perform host call).host
        (store.perform host call).store ∧
      (store.perform host call).store.folder = store.folder ∧
      (store.perform host call).outcome = (TableEngine.perform db call).outcome := by
  refine ⟨?_, ?_, perform_of_database serves.keeping serves.stands.database?_eq call⟩
  all_goals
    rw [Store.perform, serves.keeping]
    dsimp only [performInDatabase]
    rw [path_of_database serves.keeping, serves.stands.database?_eq]
  · exact ⟨serves.keeping, (Stands.set serves.stands.opened _).of_files rfl⟩
  · rfl

theorem view_eq (serves : Serves db host store) : store.view host = tablesView db :=
  view_of_database serves.keeping serves.stands.database?_eq

/-- A store whose database has contents can be closed and read. -/
theorem closes
    (serves : Serves db host store)
    {contents : TableEngine.Contents}
    {installation : Option String}
    (represents : TableEngine.Represents db contents installation) :
    ∃ accounts, (store.perform host .close).outcome = .ok .done ∧
      (store.perform host .close).store.accounts (store.perform host .close).host =
        .ok accounts := by
  obtain ⟨closed, _, outcome⟩ := serves.perform .close
  obtain ⟨accounts, read, _⟩ := represents.loadAll_ok
  refine ⟨accounts, outcome, ?_⟩
  rw [accounts_of_database closed.keeping closed.stands.database?_eq]
  exact read

end Serves

/-- A database with contents shows its accounts and its installation. -/
theorem tablesView_of_represents
    {db : Database}
    {contents : TableEngine.Contents}
    {installation : Option String}
    (represents : TableEngine.Represents db contents installation) :
    ∃ accounts, tablesView db =
        .ok { engine := .sqlite, accounts := accounts, installation := installation.getD "" } ∧
      accounts.map Account.id =
        ((contents .account).map TableEngine.Record.key).mergeSort
          (fun left right => left ≤ right) := by
  obtain ⟨accounts, loaded, ids, _⟩ := represents.loadAll_ok
  refine ⟨accounts, ?_, ids⟩
  rw [tablesView, loaded, represents.installation_eq]
  rfl

/-! ## Saving all accounts -/

/-- Some accounts are saved, and the next one is refused. -/
def StopsBefore (db : Database) (saved accounts : List Account) : Prop :=
  ∃ refused rest problem, accounts = saved ++ refused :: rest ∧
    named refused (saveAccount db refused) = .error problem

theorem StopsBefore.length_lt
    {db : Database}
    {saved accounts : List Account}
    (stops : StopsBefore db saved accounts) :
    saved.length < accounts.length := by
  obtain ⟨refused, rest, _, rfl, _⟩ := stops
  rw [List.length_append, List.length_cons]
  omega

/-- The first accounts are saved: all of them, or those before one that cannot be. -/
theorem saveAll_into_tables
    {db : Database}
    {host : Host}
    {target : Store}
    (serves : Serves db host target)
    (accounts : List Account) :
    ∃ saved after, saved <+: accounts ∧ saved.foldlM saveAccount db = .ok after ∧
      Serves after (saveAll host target accounts).host (saveAll host target accounts).store ∧
      (saveAll host target accounts).store.folder = target.folder ∧
      ((saveAll host target accounts).outcome = .ok .done ∧ saved = accounts ∨
        (∃ problem, (saveAll host target accounts).outcome = .error problem) ∧
          StopsBefore after saved accounts) := by
  induction accounts generalizing db host target with
  | nil => exact ⟨[], db, List.prefix_refl _, rfl, serves, rfl, .inl ⟨rfl, rfl⟩⟩
  | cons account rest inductionHypothesis =>
      obtain ⟨next, folder, outcome⟩ := serves.perform (.save account)
      have reply : TableEngine.perform db (.save account) =
          TableEngine.changed db (named account (saveAccount db account)) := rfl
      rw [saveAll]
      cases answered : (target.perform host (.save account)).outcome with
      | error problem =>
          rw [answered, reply] at outcome
          cases change : named account (saveAccount db account) with
          | ok after =>
              rw [change] at outcome
              cases outcome
          | error refusal =>
              rw [reply, change] at next
              exact ⟨[], db, List.nil_prefix, rfl, next, folder,
                .inr ⟨⟨problem, answered⟩, account, rest, refusal, rfl, change⟩⟩
      | ok answer =>
          have done : (TableEngine.perform db (.save account)).outcome = .ok .done := by
            rw [← outcome, answered]
            rw [answered, reply] at outcome
            cases change : named account (saveAccount db account) with
            | ok after =>
                rw [change] at outcome
                exact outcome
            | error _ =>
                rw [change] at outcome
                cases outcome
          have first := (TableEngine.saved_eq done).2
          obtain ⟨saved, after, within, saves, restServes, restFolder, ends⟩ :=
            inductionHypothesis next
          refine ⟨account :: saved, after, List.cons_prefix_cons.mpr ⟨rfl, within⟩, ?_, restServes,
            restFolder.trans folder, ?_⟩
          · rw [List.foldlM_cons, first]
            exact saves
          · rcases ends with ⟨succeeds, same⟩ | ⟨fails, refused, others, problem, split, refuses⟩
            · exact .inl ⟨succeeds, by rw [same]⟩
            · exact .inr ⟨fails, refused, others, problem, by rw [split]; rfl, refuses⟩

/-! ## Copying from a memory -/

/-- Some accounts are saved, and the next one or, after the last, the installation is refused. -/
def Stopped (db : Database) (saved : List Account) (memory : FileEngine.Memory) : Prop :=
  StopsBefore db saved memory.all ∨
    saved = memory.all ∧ ∃ problem, saveInstallation db memory.installation = .error problem

section Stopping

variable {db : Database} {contents : TableEngine.Contents} {installation : Option String}
  {saved : List Account} {memory : FileEngine.Memory}

/-- The installation is never refused, so some account was. -/
theorem Stopped.stopsBefore
    (stopped : Stopped db saved memory)
    (represents : TableEngine.Represents db contents installation) :
    StopsBefore db saved memory.all := by
  rcases stopped with before | ⟨_, problem, refused⟩
  · exact before
  · obtain ⟨_, accepted, _⟩ := represents.saveInstallation memory.installation
    rw [refused] at accepted
    cases accepted

/-- Accounts that fit are not refused. -/
theorem StopsBefore.not_fits
    {accounts : List Account}
    (stops : StopsBefore db saved accounts)
    (represents : TableEngine.Represents db contents installation) :
    ∃ account ∈ accounts, ¬TableEngine.Fits account := by
  obtain ⟨refused, rest, problem, rfl, refuses⟩ := stops
  refine ⟨refused, by simp, fun fits => ?_⟩
  obtain ⟨_, accepted⟩ := represents.saves_of_fits fits
  rw [refuses] at accepted
  cases accepted

end Stopping

section Copying

variable {db : Database} {host : Host} {source target : Store} {memory : FileEngine.Memory}

/-- Copying fills the database, or leaves it with the first accounts saved. -/
theorem copy_into_tables
    (keeping : source.keeping = .memory memory)
    (serves : Serves db host target) :
    ∃ saved middle, saved <+: memory.all ∧ saved.foldlM saveAccount db = .ok middle ∧
      (copy host source target).target.folder = target.folder ∧
      ((∃ problem, (copy host source target).copied = .error problem) ∧
          Serves middle (copy host source target).host (copy host source target).target ∧
          Stopped middle saved memory ∨
        (copy host source target).copied = .ok memory.all.length ∧
          ∃ after, fill db memory.all memory.installation = .ok after ∧
            Serves after (copy host source target).host (copy host source target).target) := by
  obtain ⟨saved, middle, within, saves, middleServes, folder, ends⟩ :=
    saveAll_into_tables serves memory.all
  refine ⟨saved, middle, within, saves, ?_⟩
  rw [copy, accounts_of_memory keeping]
  dsimp only
  rcases ends with ⟨succeeds, rfl⟩ | ⟨⟨problem, fails⟩, stops⟩
  · have filled : fill db memory.all memory.installation =
        if memory.installation.isEmpty then .ok middle
        else saveInstallation middle memory.installation := by
      rw [fill, saves]
      rfl
    simp only [succeeds, copyInstallation, installation_of_memory keeping]
    cases empty : memory.installation.isEmpty with
    | true =>
        rw [empty, if_pos rfl] at filled
        exact ⟨folder, .inr ⟨rfl, middle, filled, middleServes.of_files rfl⟩⟩
    | false =>
        rw [empty, if_neg Bool.false_ne_true] at filled
        obtain ⟨next, nextFolder, outcome⟩ :=
          middleServes.perform (.saveInstallation memory.installation)
        have reply : TableEngine.perform middle (.saveInstallation memory.installation) =
            TableEngine.changed middle (saveInstallation middle memory.installation) := rfl
        rw [reply] at next outcome
        refine ⟨nextFolder.trans folder, ?_⟩
        cases change : saveInstallation middle memory.installation with
        | error problem =>
            rw [change] at next outcome
            exact .inl ⟨⟨problem, congrArg (Except.map _) outcome⟩, next.of_files rfl,
              .inr ⟨rfl, problem, change⟩⟩
        | ok after =>
            rw [change] at next outcome
            exact .inr ⟨congrArg (Except.map _) outcome, after, filled.trans change,
              next.of_files rfl⟩
  · simp only [fails]
    exact ⟨folder, .inl ⟨⟨problem, rfl⟩, middleServes, .inl stops⟩⟩

/-- Opening a database and copying into it fills it, or saves the first accounts. -/
theorem tablesFrom_cases
    {folder : FilePath}
    (keeping : source.keeping = .memory memory)
    (opens : (openTables host folder).store = .ok target) :
    ∃ db saved middle, loadDatabase host folder = .ok db ∧ saved <+: memory.all ∧
      saved.foldlM saveAccount (TableEngine.upkeep db host.arrival.now).db = .ok middle ∧
      ((∃ problem, (tablesFrom host source folder).store = .error problem) ∧
          Stands middle (tablesFrom host source folder).host folder ∧
          Stopped middle saved memory ∨
        ∃ filled after, (tablesFrom host source folder).store = .ok filled ∧
          filled.folder = folder ∧
          fill (TableEngine.upkeep db host.arrival.now).db memory.all memory.installation =
            .ok after ∧
          Serves after (tablesFrom host source folder).host filled) := by
  obtain ⟨rfl, _, db, loaded, _, stands⟩ := of_openTables opens
  have run : tablesFrom host source folder =
      .ofCopy (copy (openTables host folder).host source (tableStore folder)) := by
    rw [tablesFrom, Opening.andThen, opens]
  have serves : Serves (TableEngine.upkeep db host.arrival.now).db (openTables host folder).host
      (tableStore folder) := ⟨rfl, stands⟩
  obtain ⟨saved, middle, within, saves, sameFolder, ends⟩ := copy_into_tables keeping serves
  refine ⟨db, saved, middle, loaded, within, saves, ?_⟩
  rw [run, Opening.ofCopy]
  rcases ends with ⟨⟨problem, fails⟩, serves, incomplete⟩ | ⟨succeeds, after, filled, serves⟩
  · have here := serves.stands
    rw [sameFolder] at here
    exact .inl ⟨⟨problem, by rw [fails]; rfl⟩, here, incomplete⟩
  · exact .inr ⟨_, after, by rw [succeeds]; rfl, sameFolder, filled, serves⟩

end Copying

/-! ## Replacing a file -/

section Replacing

open Files (ChangesOnly)

variable {host : Host} {source target : Store} {folder : FilePath}

/-- Replacing the file touches the document and its draft. -/
theorem fileFrom_changesOnly (opened : host.files.Opened folder) :
    ChangesOnly folder documentNames host.files (fileFrom host source folder).host.files := by
  have opening := openFile_changesOnly opened
  rw [fileFrom, Opening.andThen]
  split
  · rename_i target opens
    obtain ⟨_, sameFolder, _⟩ := of_openFile opens
    refine opening.trans ?_
    rw [Opening.ofReply, importFrom]
    split
    · have changes := persist_changesOnly (openFile host folder).host target
        (.load ‹_› ‹_›)
      rwa [sameFolder] at changes
    · exact .refl _ _ _
    · exact .refl _ _ _
  · exact opening

/-- The store keeps what the source shows once the file is opened, and nothing else. -/
theorem of_fileFrom (opens : (fileFrom host source folder).store = .ok target) :
    target.folder = folder ∧
      (∃ files, host.files.createFolders folder = .ok files) ∧
      ∃ accounts installation,
        source.accounts (openFile host folder).host = .ok accounts ∧
        source.installation (openFile host folder).host = .ok installation ∧
        target.keeping = .memory (.load accounts installation) := by
  rw [fileFrom, Opening.andThen] at opens
  split at opens
  · rename_i opened openedFile
    obtain ⟨_, sameFolder, created⟩ := of_openFile openedFile
    obtain ⟨⟨answer, imported⟩, rfl⟩ := ofReply_eq_ok opens
    rw [importFrom] at imported ⊢
    split at imported
    · rename_i accounts installation shows names
      exact ⟨sameFolder, created, accounts, installation, shows, names, rfl⟩
    · cases imported
    · cases imported
  · rename_i problem failed
    rw [failed] at opens
    cases opens

end Replacing

end TenantStore.Store
