import TenantStore.Proofs.CommandLine.Tasks
import TenantStore.Proofs.Store.Copying

namespace TenantStore.CommandLine

/-!
# Conversions that fail

A conversion that fails leaves what a folder shows as it was, whatever it
fails at, with one exception: accounts of a file are copied into a database
that was just made beside the file, and from then on the database is the store
in use. If the copy ends early, the folder shows what was copied until then,
and the file is not looked at any more (`failed_conversion_view`).
-/

open Relational (Database)
open Store (Stands View viewIn pathIn detect? openFile openTables openFromFile tablesFrom
  loadDatabase tablesView)
open TableEngine (StandardVersions UpToDate Represents newDatabase saveAccount upkeep)

/-! ## Databases of which some accounts were saved -/

/-- What shows a database that has fewer accounts than before and no installation. -/
structure Lost (before after : View) : Prop where
  engine : after.engine = .sqlite
  installation : after.installation = ""
  fewer : after.accounts.length < before.accounts.length

/-- A folder shows its database with the first ones of some accounts saved over it. -/
def ShowsFirstSaved
    (before after : Host)
    (folder : FilePath)
    (accounts : List Account) :
    Prop :=
  ∃ db saved left, loadDatabase before folder = .ok db ∧ saved <+: accounts ∧
    saved.foldlM saveAccount (upkeep db before.arrival.now).db = .ok left ∧
      viewIn after folder = tablesView left

/-- The accounts that the file in a folder holds, if it can be opened. -/
def accountsOfFile (host : Host) (folder : FilePath) : List Account :=
  match (openFile host folder).view with
  | .ok view => view.accounts
  | .error _ => []

section Filling

variable {host : Host} {source : Store} {folder : FilePath} {memory : FileEngine.Memory}

/-- The database of a folder without one is new when it is opened. -/
theorem openTables_new
    (opened : host.files.Opened folder)
    (absent : host.files.node? (pathIn folder .sqlite) = none) :
    loadDatabase host folder = .ok .empty ∧
      (upkeep .empty host.arrival.now).db = newDatabase host.arrival.now ∧
      (openTables host folder).store = .ok (Store.tableStore folder) := by
  obtain ⟨succeeds, made⟩ := TableEngine.upkeep_empty host.arrival.now
  have loaded := Store.loadDatabase_of_none absent
  exact ⟨loaded, made, (Store.openTables_eq opened loaded succeeds).1⟩

/-- A copy into a new database fails early, and its folder shows what was copied. -/
theorem tablesFrom_new_of_error
    (keeping : source.keeping = .memory memory)
    (opened : host.files.Opened folder)
    (absent : host.files.node? (pathIn folder .sqlite) = none)
    {view : View}
    (accounts : view.accounts = memory.all)
    {problem : Problem}
    (fails : (tablesFrom host source folder).store = .error problem) :
    ∃ left, viewIn (tablesFrom host source folder).host folder = .ok left ∧
      Lost view left := by
  obtain ⟨loaded, made, opens⟩ := openTables_new opened absent
  obtain ⟨db, saved, middle, dbLoaded, _, saves, ends⟩ := Store.tablesFrom_cases keeping opens
  rw [loaded, Except.ok.injEq] at dbLoaded
  subst dbLoaded
  rw [made] at saves
  have represents := (TableEngine.newDatabase_represents host.arrival.now).of_saves saves
  rcases ends with ⟨_, stands, stopped⟩ | ⟨filled, _, succeeds, _⟩
  · have shorter := (stopped.stopsBefore represents).length_lt
    have upToDate := (TableEngine.newDatabase_upToDate host.arrival.now).saves saves
    obtain ⟨shown, view_eq, ids⟩ := Store.tablesView_of_represents represents
    have length_eq := congrArg List.length ids
    rw [List.length_map, List.length_mergeSort, List.length_map] at length_eq
    refine ⟨_, (stands.viewIn_eq upToDate).trans view_eq, rfl, rfl, ?_⟩
    have atMost := @TableEngine.length_savedAll_le (fun _ => []) saved
    rw [List.length_nil, Nat.zero_add] at atMost
    rw [accounts]
    show shown.length < memory.all.length
    omega
  · rw [succeeds] at fails
    cases fails

/-- A copy into a new database that succeeds can be closed and read. -/
theorem tablesFrom_new_of_ok
    (keeping : source.keeping = .memory memory)
    (opened : host.files.Opened folder)
    (absent : host.files.node? (pathIn folder .sqlite) = none)
    {filled : Store}
    (succeeds : (tablesFrom host source folder).store = .ok filled) :
    ∃ accounts,
      (filled.perform (tablesFrom host source folder).host .close).outcome = .ok .done ∧
      (filled.perform (tablesFrom host source folder).host .close).store.accounts
        (filled.perform (tablesFrom host source folder).host .close).host = .ok accounts := by
  obtain ⟨loaded, made, opens⟩ := openTables_new opened absent
  obtain ⟨db, saved, middle, dbLoaded, _, _, ends⟩ := Store.tablesFrom_cases keeping opens
  rw [loaded, Except.ok.injEq] at dbLoaded
  subst dbLoaded
  rcases ends with ⟨⟨_, fails⟩, _⟩ | ⟨other, after, otherSucceeds, _, fills, serves⟩
  · rw [succeeds] at fails
    cases fails
  · rw [succeeds, Except.ok.injEq] at otherSucceeds
    subst otherSucceeds
    rw [made] at fills
    have represents := (TableEngine.newDatabase_represents host.arrival.now).of_fill fills
    exact serves.closes represents

end Filling

/-! ## Conversions -/

section Conversions

variable {setting : Setting} {host after : Host} {view : View} {failure : Failure}

/-- What is in use when a folder with a database shows something. -/
theorem stands_of_view
    {folder : FilePath}
    (standard : ∀ db, loadDatabase host folder = .ok db → StandardVersions db)
    (shown : (openTables host folder).view = .ok view) :
    ∃ db, (openTables host folder).store = .ok (Store.tableStore folder) ∧
      loadDatabase host folder = .ok db ∧
      (upkeep db host.arrival.now).failure = none ∧
      UpToDate (upkeep db host.arrival.now).db ∧
      Stands (upkeep db host.arrival.now).db (openTables host folder).host folder ∧
      tablesView (upkeep db host.arrival.now).db = .ok view := by
  cases opens : (openTables host folder).store with
  | error problem =>
      rw [Store.Opening.view, opens] at shown
      cases shown
  | ok store =>
      obtain ⟨rfl, _, db, loaded, succeeds, stands⟩ := Store.of_openTables opens
      obtain ⟨other, otherLoaded, view_eq⟩ := Store.view_openTables opens
      rw [loaded, Except.ok.injEq] at otherLoaded
      subst otherLoaded
      exact ⟨db, rfl, loaded, succeeds,
        TableEngine.upkeep_upToDate (standard db loaded) succeeds, stands,
        view_eq.symm.trans shown⟩

/-- A conversion of a database to a file leaves the database in use. -/
theorem convert_toFile_of_error
    (unconfigured : setting.store.engine = none)
    (found : detect? host.files setting.store.dataDir = some .sqlite)
    (standard : ∀ db, loadDatabase host setting.store.dataDir = .ok db → StandardVersions db)
    (shown : viewIn host setting.store.dataDir = .ok view)
    (fails : (setting.convert .jsonFile).run host = (.error failure, after)) :
    viewIn after setting.store.dataDir = .ok view := by
  have used : setting.engineIn host.files = some .sqlite := by
    rw [Setting.engineIn, unconfigured]
    exact found
  rw [Store.viewIn_of_detected found] at shown
  obtain ⟨db, opens, _, _, upToDate, stands, view_eq⟩ := stands_of_view standard shown
  have remains : ∀ {after : Host},
      Files.ChangesOnly setting.store.dataDir Store.documentNames
        (openTables host setting.store.dataDir).host.files after.files →
      viewIn after setting.store.dataDir = .ok view := by
    intro after changes
    rw [(stands.of_changesOnly changes).viewIn_eq upToDate, view_eq]
  have filled := @Store.fileFrom_changesOnly _ (Store.tableStore setting.store.dataDir) _
    stands.opened
  rcases Setting.convert_of_error_opened fails used opens with ⟨_, rfl⟩ |
    ⟨target, imported, rfl, _⟩
  · exact remains filled
  · obtain ⟨sameFolder, _, accounts, installation, _, _, keeping⟩ := Store.of_fileFrom imported
    have closing := @Store.perform_changesOnly
      (Store.fileFrom (openTables host setting.store.dataDir).host
        (Store.tableStore setting.store.dataDir) setting.store.dataDir).host
      target _ keeping .close
    rw [sameFolder] at closing
    exact remains (filled.trans closing)

/-- A conversion of a file to a database fails before it begins, or with a loss. -/
theorem convert_toTables_of_error
    (unconfigured : setting.store.engine = none)
    (found : detect? host.files setting.store.dataDir = some .jsonFile)
    (shown : viewIn host setting.store.dataDir = .ok view)
    (fails : (setting.convert .sqlite).run host = (.error failure, after)) :
    ∃ left, viewIn after setting.store.dataDir = .ok left ∧ Lost view left := by
  have used : setting.engineIn host.files = some .jsonFile := by
    rw [Setting.engineIn, unconfigured]
    exact found
  rw [Store.viewIn_of_detected found] at shown
  obtain ⟨source, memory, opens, keeping, accounts, opened, same⟩ :=
    Store.of_view_openFile shown
  have absent := same.trans (Store.detect?_eq_jsonFile found)
  rcases Setting.convert_of_error_opened fails used opens with ⟨⟨problem, refused⟩, rfl⟩ |
    ⟨filled, succeeds, _, ends⟩
  · exact tablesFrom_new_of_error keeping opened absent accounts refused
  · obtain ⟨stored, closed, read⟩ := tablesFrom_new_of_ok keeping opened absent succeeds
    rcases ends with ⟨_, refused⟩ | ⟨_, refused⟩
    · cases closed.symm.trans refused
    · cases read.symm.trans refused

/-- Opening a folder from its file fails early, and a database in use is changed. -/
theorem openFromFile_of_error
    {folder : FilePath}
    (found : detect? host.files folder = some .sqlite)
    (standard : ∀ db, loadDatabase host folder = .ok db → StandardVersions db)
    (shown : viewIn host folder = .ok view)
    {problem : Problem}
    (fails : (openFromFile host folder .sqlite).store = .error problem) :
    ShowsFirstSaved host (openFromFile host folder .sqlite).host folder
      (accountsOfFile host folder) := by
  rw [Store.viewIn_of_detected found] at shown
  obtain ⟨db, opens, loaded, succeeds, upToDate, _, _⟩ := stands_of_view standard shown
  obtain ⟨_, ⟨files, created⟩, _⟩ := Store.of_openTables opens
  obtain ⟨opened, same⟩ := Store.openFile_of_created created
  have nextLoaded : loadDatabase (openFile host folder).host folder = .ok db :=
    (Store.loadDatabase_eq_of_node same).trans loaded
  have nextSucceeds : (upkeep db (openFile host folder).host.arrival.now).failure = none := by
    rw [Store.openFile_arrival]
    exact succeeds
  rw [openFromFile] at fails ⊢
  rw [Store.Opening.andThen] at fails ⊢
  cases openedFile : (openFile host folder).store with
  | error refused =>
      dsimp only
      have holds : (openFile host folder).host.files.holds (pathIn folder .sqlite) = true := by
        rw [Files.holds, same]
        exact Store.detect?_eq_sqlite_iff.mp found
      refine ⟨db, [], _, loaded, List.nil_prefix, rfl, ?_⟩
      rw [Store.viewIn_of_tables opened holds nextLoaded nextSucceeds, Store.openFile_arrival]
  | ok source =>
      rw [openedFile] at fails
      dsimp only at fails ⊢
      obtain ⟨⟨memory, keeping⟩, _, _⟩ := Store.of_openFile openedFile
      have accounts : accountsOfFile host folder = memory.all := by
        have view_eq : (openFile host folder).view =
            source.view (openFile host folder).host := by
          rw [Store.Opening.view, openedFile]
          rfl
        rw [accountsOfFile, view_eq, Store.view_of_memory keeping]
      obtain ⟨nextOpens, _⟩ := Store.openTables_eq opened nextLoaded nextSucceeds
      obtain ⟨other, saved, middle, otherLoaded, within, saves, ends⟩ :=
        Store.tablesFrom_cases keeping nextOpens
      rw [nextLoaded, Except.ok.injEq] at otherLoaded
      subst otherLoaded
      rw [Store.openFile_arrival] at saves
      rcases ends with ⟨_, stands, _⟩ | ⟨filled, _, fills, _⟩
      · exact ⟨db, saved, middle, loaded, accounts ▸ within, saves,
          stands.viewIn_eq (upToDate.saves saves)⟩
      · rw [Store.addWrites, fills] at fails
        cases fails

/--
After a conversion that failed, a folder shows what it showed before, unless a
file was to be converted to a database: then it shows a database that lacks
accounts and the installation. Likewise after a folder could not be opened from
its file; if a database was in use there, it has the first accounts of the file
saved over what it held.
-/
theorem failed_conversion_view
    {engine : Engine}
    (unconfigured : setting.store.engine = none)
    (found : detect? host.files setting.store.dataDir = some engine)
    (standard : ∀ db, loadDatabase host setting.store.dataDir = .ok db → StandardVersions db)
    (shown : viewIn host setting.store.dataDir = .ok view) :
    (∀ target failure after,
      (setting.convert target).run host = (.error failure, after) →
        if engine = .jsonFile ∧ target = .sqlite then
          ∃ left, viewIn after setting.store.dataDir = .ok left ∧ Lost view left
        else
          viewIn after setting.store.dataDir = .ok view) ∧
    ∀ problem, (openFromFile host setting.store.dataDir .sqlite).store = .error problem →
      if engine = .jsonFile then
        ∃ left, viewIn (openFromFile host setting.store.dataDir .sqlite).host
            setting.store.dataDir = .ok left ∧ Lost view left
      else
        ShowsFirstSaved host (openFromFile host setting.store.dataDir .sqlite).host
          setting.store.dataDir (accountsOfFile host setting.store.dataDir) := by
  constructor
  · intro target failure after fails
    by_cases same : engine = target
    · have used : setting.engineIn host.files = some engine := by
        rw [Setting.engineIn, unconfigured]
        exact found
      rcases Setting.convert_of_error used fails with ⟨_, rfl⟩ | ⟨apart, _⟩
      · rw [if_neg (by rintro ⟨rfl, rfl⟩; cases same)]
        exact shown
      · exact absurd same apart
    · cases engine with
      | jsonFile =>
          cases target with
          | jsonFile => exact absurd rfl same
          | sqlite =>
              rw [if_pos ⟨rfl, rfl⟩]
              exact convert_toTables_of_error unconfigured found shown fails
      | sqlite =>
          cases target with
          | sqlite => exact absurd rfl same
          | jsonFile =>
              rw [if_neg (by rintro ⟨apart, _⟩; cases apart)]
              exact convert_toFile_of_error unconfigured found standard shown fails
  · intro problem fails
    cases engine with
    | sqlite =>
        rw [if_neg (by rintro apart; cases apart)]
        exact openFromFile_of_error found standard shown fails
    | jsonFile =>
        rw [if_pos rfl]
        rw [Store.viewIn_of_detected found] at shown
        obtain ⟨source, memory, opens, keeping, accounts, opened, same⟩ :=
          Store.of_view_openFile shown
        have absent := same.trans (Store.detect?_eq_jsonFile found)
        rw [openFromFile] at fails ⊢
        rw [Store.Opening.andThen, opens] at fails ⊢
        dsimp only at fails ⊢
        rw [Store.addWrites] at fails ⊢
        cases refused : (tablesFrom (openFile host setting.store.dataDir).host source
            setting.store.dataDir).store with
        | error problem => exact tablesFrom_new_of_error keeping opened absent accounts refused
        | ok filled =>
            rw [refused] at fails
            cases fails

end Conversions

/-! ## A timestamp that no database holds -/

/-- A document with an account that was created too late for a database. -/
def lateText : String :=
  "\x7b\"accounts\":\x7b\"a\":\x7b\"id\":\"a\",\"created_at\":9223372036854775808,"
    ++ "\"groups\":\x7b\"g\":\x7b\"id\":\"g\",\"name\":\"All\",\"issued\":\"api\"\x7d\x7d,"
    ++ "\"settings\":\x7b\x7d\x7d\x7d,\"installation_id\":\"i\"\x7d"

/-- A host with this document as its store file, and with no database beside it. -/
def lateHost : Host where
  files := {
    nodes := .ofList [("/d", .folder), ("/d/store.json", .file lateText.toUTF8)] }
  arrival := { now := ⟨0⟩, newId := fun _ => "" }

/-- The setting of a person who only names the folder. -/
def lateSetting : Setting where
  store := { dataDir := "/d" }
  engineName := none

/-- Its conversion fails, and the folder shows neither account nor installation. -/
theorem failed_conversion_view_late :
    ∃ view failure after left, viewIn lateHost "/d" = .ok view ∧
      view.installation = "i" ∧
      (lateSetting.convert .sqlite).run lateHost = (.error failure, after) ∧
      viewIn after "/d" = .ok left ∧ Lost view left := by
  have found : detect? lateHost.files "/d" = some .jsonFile := by decide +kernel
  have loaded : loadDatabase lateHost "/d" = .ok .empty :=
    Store.loadDatabase_of_none (Store.detect?_eq_jsonFile found)
  have standard : ∀ db, loadDatabase lateHost "/d" = .ok db → StandardVersions db := by
    intro db same
    rw [loaded, Except.ok.injEq] at same
    exact same ▸ .empty
  have named : (viewIn lateHost "/d").toOption.map View.installation = some "i" := by
    decide +kernel
  have fails : ((lateSetting.convert .sqlite).run lateHost).1.toOption = none := by
    decide +kernel
  cases shown : viewIn lateHost "/d" with
  | error problem =>
      rw [shown] at named
      cases named
  | ok view =>
      rw [shown] at named
      rcases run : (lateSetting.convert .sqlite).run lateHost with ⟨failure | text, after⟩
      · have outcome := (@failed_conversion_view lateSetting lateHost view .jsonFile rfl found
          standard shown).1 .sqlite failure after run
        rw [if_pos ⟨rfl, rfl⟩] at outcome
        obtain ⟨left, after_eq, lost⟩ := outcome
        exact ⟨view, failure, after, left, rfl, Option.some.inj named, rfl, after_eq, lost⟩
      · rw [run] at fails
        cases fails

end TenantStore.CommandLine
