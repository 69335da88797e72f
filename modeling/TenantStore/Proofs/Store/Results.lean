import Mathlib.Data.List.Dedup
import TenantStore.Proofs.Store.Copying
import TenantStore.Proofs.TableEngine.Leftovers

namespace TenantStore.Store

/-!
# What filled stores hold

A store of the file engine that was filled holds just what its source shows
(`holdsJust_fileFrom`). A database does so if there was none before, or if what
an earlier filling left is covered by the source (`holdsJust_tablesFrom`); else
its accounts are those of the source and those that were left
(`merged_tablesFrom`). Stores that hold just the same answer alike.
-/

open Files (ChangesOnly)
open Relational (Database)
open TableEngine (Asks Contents Covered Record Represents Used)

/-! ## Asking stores -/

/-- Two open stores answer alike whatever they are asked. -/
def AnswersAlike (leftHost : Host) (left : Store) (rightHost : Host) (right : Store) : Prop :=
  ∀ call, Asks call →
    (left.perform leftHost call).outcome = (right.perform rightHost call).outcome

theorem perform_of_memory
    {host : Host}
    {store : Store}
    {memory : FileEngine.Memory}
    (keeping : store.keeping = .memory memory)
    {call : Call}
    (asks : Asks call) :
    (store.perform host call).outcome = (memory.perform call).outcome := by
  have quiet : (memory.perform call).writes = false := by
    cases call with
    | get id => rfl
    | all => rfl
    | find lookup key => rfl
    | idByPeerKey key => rfl
    | tokenByHash hash => rfl
    | userByToken token => rfl
    | installation => rfl
    | _ => exact asks.elim
  rw [perform, outcome_telling, keeping]
  dsimp only [performInMemory]
  rw [quiet, if_neg Bool.false_ne_true]

/-- A store of the table engine that shows something has a database. -/
theorem exists_database
    {host : Host}
    {source : Store}
    {shown : View}
    (keeping : source.keeping = .database)
    (shows : source.view host = .ok shown) :
    ∃ db, host.files.database? (pathIn source.folder .sqlite) = some db := by
  cases found : host.files.database? (pathIn source.folder .sqlite) with
  | some db => exact ⟨db, rfl⟩
  | none =>
      have refused : source.accounts host = .error .database := by
        rw [accounts, perform, outcome_telling, keeping]
        dsimp only [performInDatabase]
        rw [path_of_database keeping, found]
      rw [view, refused] at shows
      cases shows

/-- Opening a file anywhere changes nothing that an open store shows. -/
theorem view_openFile
    {host : Host}
    {source : Store}
    {shown : View}
    (shows : source.view host = .ok shown)
    {folder : FilePath}
    {files : Files}
    (created : host.files.createFolders folder = .ok files) :
    source.view (openFile host folder).host = .ok shown := by
  cases keeping : source.keeping with
  | memory memory =>
      rw [view_of_memory keeping] at shows ⊢
      exact shows
  | database =>
      obtain ⟨db, found⟩ := exists_database keeping shows
      obtain ⟨adds, opened⟩ := Files.addsFolders_of_createFolders created
      have opened : { host with files := files }.files.Opened folder := opened
      have changes := (openFile_changesOnly opened).node?_eq isPlain_documentNames
        source.folder (isPlain_fileName .sqlite) tables_not_document
      have later : (openFile host folder).host.files.database? (pathIn source.folder .sqlite) =
          some db := by
        rw [Files.database?] at found ⊢
        rw [openFile_eq_of_created created, pathIn, changes]
        cases node : host.files.node? (pathIn source.folder .sqlite) with
        | none =>
            rw [node] at found
            cases found
        | some there =>
            rw [node] at found
            rw [adds.node?_eq (isPlain_fileName .sqlite) node]
            exact found
      rw [view_of_database keeping found] at shows
      rw [view_of_database keeping later]
      exact shows

/-! ## Stores that hold just one thing -/

/-- How many accounts of different identifiers a view shows. -/
def View.count (view : View) : Nat :=
  (view.accounts.map Account.id).dedup.length

/-- A store holds just what a view shows, as its engine keeps it. -/
def HoldsJust (view : View) (host : Host) (store : Store) : Engine → Prop
  | .jsonFile => store.keeping = .memory (.load view.accounts view.installation)
  | .sqlite => ∃ db installation, Serves db host store ∧
      Represents db (Contents.savedAll (fun _ => []) view.accounts) installation ∧
        installation.getD "" = view.installation

theorem load_accounts (accounts : List Account) (installation : String) :
    (FileEngine.Memory.load accounts installation).accounts =
      .ofList (accounts.map (fun account => (account.id, account))) := by
  have start : ∀ memory : FileEngine.Memory,
      (accounts.foldl (fun memory account =>
        (memory.index account.id account).put account) memory).accounts =
      (accounts.map (fun account => (account.id, account))).foldl
        (fun dict entry => dict.insert entry.1 entry.2) memory.accounts := by
    induction accounts with
    | nil => exact fun _ => rfl
    | cons account rest inductionHypothesis => exact fun memory => inductionHypothesis _
  exact start { installation := installation }

theorem load_installation (accounts : List Account) (installation : String) :
    (FileEngine.Memory.load accounts installation).installation = installation := by
  have start : ∀ memory : FileEngine.Memory,
      (accounts.foldl (fun memory account =>
        (memory.index account.id account).put account) memory).installation =
      memory.installation := by
    induction accounts with
    | nil => exact fun _ => rfl
    | cons account rest inductionHypothesis => exact fun memory => inductionHypothesis _
  exact start { installation := installation }

/-- Loaded accounts are all there, one for each identifier. -/
theorem load_ids (accounts : List Account) (installation : String) :
    ((FileEngine.Memory.load accounts installation).all.map Account.id).Perm
      (accounts.map Account.id).dedup := by
  have cases := Dict.get?_foldl_insert_cases
    (accounts.map (fun account => (account.id, account))) .empty
  have filed : (FileEngine.Memory.load accounts installation).accounts.FiledBy Account.id := by
    intro slot account found
    rw [load_accounts, Dict.ofList] at found
    rcases cases slot with ⟨other, member, otherFound⟩ | ⟨_, unchanged⟩
    · rw [otherFound, Option.some.injEq] at found
      subst found
      obtain ⟨original, _, same⟩ := List.mem_map.mp member
      cases same
      rfl
    · rw [unchanged, Dict.get?_empty] at found
      cases found
  have sorted : ((FileEngine.Memory.load accounts installation).all.map Account.id).Perm
      (FileEngine.Memory.load accounts installation).accounts.keys := by
    rw [← filed.map_values_eq_keys]
    exact (List.mergeSort_perm _ _).map Account.id
  refine sorted.trans ((List.perm_ext_iff_of_nodup (Dict.keys_nodup _)
    (List.nodup_dedup _)).mpr ?_)
  intro id
  rw [List.mem_dedup, ← filed.map_values_eq_keys, List.mem_map, List.mem_map]
  constructor
  · rintro ⟨account, member, rfl⟩
    obtain ⟨slot, found⟩ := Dict.mem_values_iff.mp member
    rw [load_accounts, Dict.ofList] at found
    rcases cases slot with ⟨other, otherMember, otherFound⟩ | ⟨_, unchanged⟩
    · rw [otherFound, Option.some.injEq] at found
      subst found
      obtain ⟨original, originalMember, same⟩ := List.mem_map.mp otherMember
      cases same
      exact ⟨other, originalMember, rfl⟩
    · rw [unchanged, Dict.get?_empty] at found
      cases found
  · rintro ⟨account, member, rfl⟩
    rcases cases account.id with ⟨other, _, otherFound⟩ | ⟨absent, _⟩
    · rw [← Dict.ofList, ← load_accounts accounts installation] at otherFound
      exact ⟨other, Dict.mem_values_iff.mpr ⟨_, otherFound⟩, filed _ _ otherFound⟩
    · exact absurd (List.mem_map.mpr ⟨account, member, rfl⟩) (absent account)

namespace HoldsJust

variable {view : View} {host leftHost rightHost : Host} {store left right : Store}
  {engine : Engine}

/-- Stores that hold just the same answer alike. -/
theorem answersAlike
    (leftHolds : HoldsJust view leftHost left engine)
    (rightHolds : HoldsJust view rightHost right engine) :
    AnswersAlike leftHost left rightHost right := by
  intro call asks
  cases engine with
  | jsonFile => rw [perform_of_memory leftHolds asks, perform_of_memory rightHolds asks]
  | sqlite =>
      obtain ⟨leftDb, _, leftServes, leftRepresents, leftSame⟩ := leftHolds
      obtain ⟨rightDb, _, rightServes, rightRepresents, rightSame⟩ := rightHolds
      rw [(leftServes.perform call).2.2, (rightServes.perform call).2.2]
      exact TableEngine.outcome_eq leftRepresents rightRepresents
        (leftSame.trans rightSame.symm) asks

/-- The store shows as many accounts as the view has of different identifiers. -/
theorem count_eq (holds : HoldsJust view host store engine) :
    ∃ shown, store.view host = .ok shown ∧ shown.installation = view.installation ∧
      shown.accounts.length = view.count := by
  cases engine with
  | jsonFile =>
      refine ⟨_, view_of_memory holds, load_installation _ _, ?_⟩
      have length_eq := (load_ids view.accounts view.installation).length_eq
      rwa [List.length_map] at length_eq
  | sqlite =>
      obtain ⟨db, installation, serves, represents, same⟩ := holds
      obtain ⟨accounts, view_eq, ids⟩ := tablesView_of_represents represents
      refine ⟨_, serves.view_eq.trans view_eq, same, ?_⟩
      obtain ⟨table, _, tableHolds⟩ := represents.tables .account
      have perm : (accounts.map Account.id).Perm (view.accounts.map Account.id).dedup := by
        rw [ids]
        refine (List.mergeSort_perm _ _).trans
          ((List.perm_ext_iff_of_nodup tableHolds.distinct (List.nodup_dedup _)).mpr ?_)
        intro id
        rw [List.mem_dedup, TableEngine.mem_savedAll_iff]
        simp
      have length_eq := perm.length_eq
      rwa [List.length_map] at length_eq

/-- Closing a store changes nothing about what it holds. -/
theorem close (holds : HoldsJust view host store engine) :
    HoldsJust view (store.perform host .close).host (store.perform host .close).store engine := by
  cases engine with
  | jsonFile =>
      have keeping : store.keeping = .memory (.load view.accounts view.installation) := holds
      show (store.perform host .close).store.keeping = _
      rw [perform, keeping]
      rfl
  | sqlite =>
      obtain ⟨db, installation, serves, represents, same⟩ := holds
      exact ⟨db, installation, (serves.perform .close).1, represents, same⟩

end HoldsJust

/-! ## Filling -/

section Filling

variable {host : Host} {source target : Store} {folder : FilePath} {view : View}

/-- A file that is replaced holds just what the source shows. -/
theorem holdsJust_fileFrom
    (shows : source.view host = .ok view)
    (opens : (fileFrom host source folder).store = .ok target) :
    HoldsJust view (fileFrom host source folder).host target .jsonFile := by
  obtain ⟨_, ⟨files, created⟩, accounts, installation, shown, named, keeping⟩ :=
    of_fileFrom opens
  have later := view_openFile shows created
  rw [Store.view, shown, named] at later
  cases later
  exact keeping

/-- A folder has no database, or one that was made new and then used in any way. -/
def Ready (host : Host) (folder : FilePath) : Prop :=
  host.files.node? (pathIn folder .sqlite) = none ∨
    ∃ db, host.files.node? (pathIn folder .sqlite) = some (.database db) ∧ Used db

/-- What is ready is loaded and brought up to date. -/
theorem Ready.upkeep (ready : Ready host folder) :
    ∃ db, loadDatabase host folder = .ok db ∧
      (TableEngine.upkeep db host.arrival.now).failure = none ∧
      ∃ contents installation,
        Represents (TableEngine.upkeep db host.arrival.now).db contents installation := by
  rcases ready with absent | ⟨db, found, used⟩
  · obtain ⟨succeeds, made⟩ := TableEngine.upkeep_empty host.arrival.now
    refine ⟨_, loadDatabase_of_none absent, succeeds, fun _ => [], none, ?_⟩
    rw [made]
    exact TableEngine.newDatabase_represents host.arrival.now
  · obtain ⟨contents, installation, represents⟩ := used.represents
    refine ⟨db, loadDatabase_of_node found, ?_⟩
    rw [used.upToDate.upkeep_eq]
    exact ⟨rfl, contents, installation, represents⟩

/-- Accounts that fit are copied into a database that is ready, whatever it holds. -/
theorem tablesFrom_ok
    {memory : FileEngine.Memory}
    (keeping : source.keeping = .memory memory)
    (fits : ∀ account ∈ memory.all, TableEngine.Fits account)
    (opened : host.files.Opened folder)
    (ready : Ready host folder) :
    ∃ filled, (tablesFrom host source folder).store = .ok filled := by
  obtain ⟨db, loaded, succeeds, contents, installation, represents⟩ := ready.upkeep
  obtain ⟨opens, _⟩ := openTables_eq opened loaded succeeds
  obtain ⟨other, saved, middle, otherLoaded, _, saves, ends⟩ := tablesFrom_cases keeping opens
  rw [loaded, Except.ok.injEq] at otherLoaded
  subst otherLoaded
  rcases ends with ⟨_, _, stopped⟩ | ⟨filled, _, fills, _⟩
  · have middleRepresents := represents.of_saves saves
    obtain ⟨account, member, refused⟩ :=
      (stopped.stopsBefore middleRepresents).not_fits middleRepresents
    exact absurd (fits account member) refused
  · exact ⟨filled, fills⟩

/-- A database that was filled was opened first. -/
theorem openTables_of_tablesFrom (opens : (tablesFrom host source folder).store = .ok target) :
    ∃ empty, (openTables host folder).store = .ok empty := by
  cases openedTables : (openTables host folder).store with
  | ok empty => exact ⟨empty, rfl⟩
  | error problem =>
      rw [tablesFrom, Opening.andThen, openedTables] at opens
      exact absurd (openedTables.symm.trans opens) (by simp)

/-- The accounts of a memory are saved over a database, and its installation unless it is empty. -/
theorem merged_tablesFrom
    {memory : FileEngine.Memory}
    (keeping : source.keeping = .memory memory)
    (opens : (tablesFrom host source folder).store = .ok target) :
    target.folder = folder ∧
      ∃ db, loadDatabase host folder = .ok db ∧
        ∀ contents installation,
          Represents (TableEngine.upkeep db host.arrival.now).db contents installation →
            ∃ after, Serves after (tablesFrom host source folder).host target ∧
              Represents after (contents.savedAll memory.all)
                (TableEngine.carried installation memory.installation) := by
  obtain ⟨empty, openedTables⟩ := openTables_of_tablesFrom opens
  obtain ⟨db, _, _, loaded, _, _, ends⟩ := tablesFrom_cases keeping openedTables
  rcases ends with ⟨⟨_, fails⟩, _⟩ | ⟨filled, after, succeeds, sameFolder, fills, serves⟩
  · rw [opens] at fails
    cases fails
  · rw [opens, Except.ok.injEq] at succeeds
    subst succeeds
    exact ⟨sameFolder, db, loaded, fun _ _ represents =>
      ⟨after, serves, represents.of_fill fills⟩⟩

/-- There is no database in a folder, or one whose contents are covered by a view. -/
def Harmless (view : View) (host : Host) (folder : FilePath) : Engine → Prop
  | .jsonFile => True
  | .sqlite =>
      host.files.node? (pathIn folder .sqlite) = none ∨
        ∃ db contents installation,
          host.files.node? (pathIn folder .sqlite) = some (.database db) ∧ Used db ∧
          Represents db contents installation ∧ Covered contents view.accounts ∧
            (view.installation = "" → installation.getD "" = "")

/-- A database that is filled over a harmless one holds just what the source shows. -/
theorem holdsJust_tablesFrom
    {memory : FileEngine.Memory}
    (keeping : source.keeping = .memory memory)
    (shows : source.view host = .ok view)
    (harmless : Harmless view host folder .sqlite)
    (opens : (tablesFrom host source folder).store = .ok target) :
    HoldsJust view (tablesFrom host source folder).host target .sqlite := by
  rw [view_of_memory keeping] at shows
  cases shows
  rcases harmless with absent | ⟨db, contents, installation, found, used, represents, covered,
    quiet⟩
  · have loaded := loadDatabase_of_none absent
    obtain ⟨_, db, otherLoaded, merges⟩ := merged_tablesFrom keeping opens
    rw [loaded, Except.ok.injEq] at otherLoaded
    subst otherLoaded
    have new := TableEngine.newDatabase_represents host.arrival.now
    rw [← (TableEngine.upkeep_empty host.arrival.now).2] at new
    obtain ⟨after, serves, represents⟩ := merges _ _ new
    refine ⟨after, _, serves, represents, ?_⟩
    rw [TableEngine.carried]
    split
    · rename_i empty
      simpa using Eq.symm (String.isEmpty_iff.mp empty)
    · rfl
  · have loaded := loadDatabase_of_node found
    obtain ⟨_, other, otherLoaded, merges⟩ := merged_tablesFrom keeping opens
    rw [loaded, Except.ok.injEq] at otherLoaded
    subst otherLoaded
    have start : Represents (TableEngine.upkeep db host.arrival.now).db contents
        installation := by
      rwa [used.upToDate.upkeep_eq]
    obtain ⟨after, serves, filled⟩ := merges contents installation start
    rw [TableEngine.savedAll_covered covered] at filled
    refine ⟨after, _, serves, filled, ?_⟩
    rw [TableEngine.carried]
    split
    · rename_i empty
      have none := String.isEmpty_iff.mp empty
      exact (quiet none).trans none.symm
    · rfl

end Filling

end TenantStore.Store
