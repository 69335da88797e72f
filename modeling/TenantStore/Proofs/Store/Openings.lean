import TenantStore.Proofs.Files
import TenantStore.Proofs.TableEngine.Reopening
import TenantStore.Store.Choice

namespace TenantStore.Store

/-!
# What opening a store shows

A store of the file engine changes its file and the draft beside it, and
nothing else (`perform_changesOnly`, `openFile_changesOnly`). So a database in
the same folder stays, and if it is up to date, opening it shows just what its
tables hold (`Stands.viewIn_eq`).
-/

open Files (ChangesOnly)
open FilePath (IsPlain)
open Relational (Database)

/-! ## What the operator is told -/

/-- Telling the operator something changes no file. -/
@[simp] theorem files_notify (host : Host) (notices : List Notice) :
    (host.notify notices).files = host.files :=
  rfl

@[simp] theorem arrival_notify (host : Host) (notices : List Notice) :
    (host.notify notices).arrival = host.arrival :=
  rfl

@[simp] theorem notify_nil (host : Host) : host.notify [] = host := by
  rw [Host.notify, List.filter_nil, List.append_nil]

section Telling

variable (reply : Reply) (notices : List Notice)

/-- A reply is the same when the operator is told of it, but for what the operator knows. -/
@[simp] theorem files_telling :
    (reply.telling notices).host.files = reply.host.files :=
  rfl

@[simp] theorem store_telling : (reply.telling notices).store = reply.store :=
  rfl

@[simp] theorem outcome_telling : (reply.telling notices).outcome = reply.outcome :=
  rfl

/-- The operator is told nothing of a failure. -/
theorem telling_of_error
    {problem : Problem}
    (failed : reply.outcome = .error problem) :
    reply.telling notices = reply := by
  have failure : reply.outcome.isOk = false := by
    rw [failed]
    rfl
  rw [Reply.telling, failure, if_neg Bool.false_ne_true, notify_nil]

end Telling

/-! ## Names -/

/-- The name under which a document is written before it takes its place. -/
def draftName : String :=
  "store.json.tmp"

/-- The names of the files that the file engine writes. -/
def documentNames : List String :=
  [draftName, fileName .jsonFile]

/-- The file of an engine is inside the folder of the store. -/
theorem isPlain_fileName (engine : Engine) : IsPlain (fileName engine) := by
  cases engine <;> exact ⟨by decide, by decide, by decide, by decide⟩

/-- So is the draft of the document. -/
theorem isPlain_draftName : IsPlain draftName :=
  ⟨by decide, by decide, by decide, by decide⟩

/-- So is every file of the file engine. -/
theorem isPlain_documentNames : ∀ name ∈ documentNames, IsPlain name := by
  intro name member
  rcases List.mem_cons.mp member with rfl | last
  · exact isPlain_draftName
  · rw [List.mem_singleton.mp last]
    exact isPlain_fileName .jsonFile

/-- The file engine does not touch the database. -/
theorem tables_not_document : fileName .sqlite ∉ documentNames := by
  decide

/-- Where the draft is. -/
theorem draftPath_eq (folder : FilePath) : draftPath folder = folder.join draftName := by
  have names : fileName .jsonFile ++ ".tmp" = draftName := by decide
  have absolute : FilePath.isAbsolute (fileName .jsonFile) = false :=
    (isPlain_fileName .jsonFile).isAbsolute_eq
  rw [draftPath, pathIn, FilePath.join, FilePath.join, absolute,
    isPlain_draftName.isAbsolute_eq]
  split
  · exact names
  · split <;> rw [String.append_assoc, names]

/-! ## Writing the document -/

/-- Writing the document touches the document and its draft. -/
theorem writeDocument_changesOnly
    (files : Files)
    (folder : FilePath)
    (document : FileEngine.Document) :
    ChangesOnly folder documentNames files (writeDocument files folder document).1 := by
  rw [writeDocument, draftPath_eq]
  split
  · exact .refl folder documentNames files
  · rename_i drafted wrote
    have drafting : ChangesOnly folder documentNames files drafted :=
      (Files.write_changesOnly isPlain_draftName wrote).mono (by decide)
    split
    · exact drafting
    · rename_i renamed
      exact drafting.trans
        (Files.rename_changesOnly isPlain_draftName (isPlain_fileName .jsonFile) renamed)

/-- A document that was written can be read. -/
theorem node?_writeDocument
    {files : Files}
    {folder : FilePath}
    {document : FileEngine.Document}
    (written : (writeDocument files folder document).2 = .ok ()) :
    (writeDocument files folder document).1.node? (pathIn folder .jsonFile) =
      some (.file document.bytes) := by
  rw [writeDocument, draftPath_eq] at written ⊢
  split at written
  · cases written
  · rename_i drafted wrote
    split at written
    · cases written
    · rename_i replaced renamed
      exact Files.node?_rename (isPlain_fileName .jsonFile)
        (Files.node?_write isPlain_draftName wrote) renamed

section Persisting

variable (host : Host) (store : Store) (memory : FileEngine.Memory)

/-- Persisting changes the document and its draft, and nothing else. -/
theorem persist_changesOnly :
    ChangesOnly store.folder documentNames host.files
      (persist host store memory).host.files :=
  writeDocument_changesOnly host.files store.folder memory.document

/-- A memory is persisted as far as its document is written. -/
theorem outcome_persist :
    (persist host store memory).outcome =
      (writeDocument host.files store.folder memory.document).2.map (fun _ => .done) :=
  rfl

variable {host store memory}

/-- If a call succeeds, the document was written. -/
theorem written_of_persisted
    {answer : Answer}
    (persisted : (persist host store memory).outcome = .ok answer) :
    (writeDocument host.files store.folder memory.document).2 = .ok () := by
  rw [outcome_persist] at persisted
  cases written : (writeDocument host.files store.folder memory.document).2 with
  | ok nothing => rfl
  | error problem =>
      rw [written] at persisted
      cases persisted

/-- What was persisted stands in the file. -/
theorem node?_persist
    {answer : Answer}
    (persisted : (persist host store memory).outcome = .ok answer) :
    (persist host store memory).host.files.node? (pathIn store.folder .jsonFile) =
      some (.file memory.document.bytes) :=
  node?_writeDocument (written_of_persisted persisted)

end Persisting

/-! ## Calls on a memory -/

section Memory

variable {host : Host} {store : Store} {memory : FileEngine.Memory}

/-- Calls on a memory touch the document and its draft. -/
theorem perform_changesOnly (keeping : store.keeping = .memory memory) (call : Call) :
    ChangesOnly store.folder documentNames host.files (store.perform host call).host.files := by
  rw [perform, keeping]
  dsimp only [performInMemory]
  split
  · exact persist_changesOnly _ _ _
  · exact .refl _ _ _

/-- A store of files answers from its memory. -/
theorem accounts_of_memory (keeping : store.keeping = .memory memory) :
    store.accounts host = .ok memory.all := by
  rw [accounts, perform, keeping]
  rfl

theorem installation_of_memory (keeping : store.keeping = .memory memory) :
    store.installation host = .ok memory.installation := by
  rw [installation, perform, keeping]
  rfl

end Memory

/-! ## Calls on a database -/

section Tables

variable {host : Host} {store : Store} {db : Database}

/-- The path of a database. -/
theorem path_of_database (keeping : store.keeping = .database) :
    store.path = pathIn store.folder .sqlite := by
  rw [path, engine, keeping]

/-- A call to a store of a database is one to the database on the host. -/
theorem perform_of_database
    (keeping : store.keeping = .database)
    (found : host.files.database? (pathIn store.folder .sqlite) = some db)
    (call : Call) :
    (store.perform host call).outcome = (TableEngine.perform db call).outcome := by
  rw [perform, outcome_telling, keeping]
  dsimp only [performInDatabase]
  rw [path_of_database keeping, found]

/-- A store of a database loads all of its accounts. -/
theorem accounts_of_database
    (keeping : store.keeping = .database)
    (found : host.files.database? (pathIn store.folder .sqlite) = some db) :
    store.accounts host = TableEngine.loadAll db := by
  rw [accounts, perform_of_database keeping found]
  have answer : (TableEngine.perform db .all).outcome =
      (TableEngine.loadAll db).map Answer.accounts := rfl
  rw [answer]
  cases TableEngine.loadAll db <;> rfl

/-- A store of a database reads its installation. -/
theorem installation_of_database
    (keeping : store.keeping = .database)
    (found : host.files.database? (pathIn store.folder .sqlite) = some db) :
    store.installation host = TableEngine.installation db := by
  rw [installation, perform_of_database keeping found]
  have answer : (TableEngine.perform db .installation).outcome =
      (TableEngine.installation db).map Answer.text := rfl
  rw [answer]
  cases TableEngine.installation db <;> rfl

end Tables

/-! ## Views -/

/-- What a store shows: its engine, its accounts and its installation. -/
structure View where
  engine : Engine
  accounts : List Account
  installation : String
  deriving Repr, DecidableEq

/-- What an open store shows. -/
def view (host : Host) (store : Store) : Except Problem View := do
  let accounts ← store.accounts host
  let installation ← store.installation host
  .ok { engine := store.engine, accounts := accounts, installation := installation }

/-- What the store shows that was opened. -/
def Opening.view (opening : Opening) : Except Problem View :=
  opening.store.bind (fun store => store.view opening.host)

/-- What a folder shows when its store is opened and no engine is configured. -/
def viewIn (host : Host) (folder : FilePath) : Except Problem View :=
  (openChosen host none none folder).view

/-- What a database shows. -/
def tablesView (db : Database) : Except Problem View := do
  let accounts ← TableEngine.loadAll db
  let installation ← TableEngine.installation db
  .ok { engine := .sqlite, accounts := accounts, installation := installation }

/-- What is shown is what is read. -/
theorem parts_of_view
    {host : Host}
    {store : Store}
    {shown : View}
    (shows : store.view host = .ok shown) :
    store.accounts host = .ok shown.accounts ∧
      store.installation host = .ok shown.installation := by
  rw [view] at shows
  cases accounts : store.accounts host with
  | error problem =>
      rw [accounts] at shows
      cases shows
  | ok read =>
      cases installation : store.installation host with
      | error problem =>
          rw [accounts, installation] at shows
          cases shows
      | ok named =>
          rw [accounts, installation] at shows
          cases shows
          exact ⟨rfl, rfl⟩

/-- What a store of files shows is in its memory. -/
theorem view_of_memory
    {host : Host}
    {store : Store}
    {memory : FileEngine.Memory}
    (keeping : store.keeping = .memory memory) :
    store.view host = .ok {
      engine := .jsonFile
      accounts := memory.all
      installation := memory.installation } := by
  rw [view, accounts_of_memory keeping, installation_of_memory keeping, engine, keeping]
  rfl

/-- What a store of a database shows is in the database. -/
theorem view_of_database
    {host : Host}
    {store : Store}
    {db : Database}
    (keeping : store.keeping = .database)
    (found : host.files.database? (pathIn store.folder .sqlite) = some db) :
    store.view host = tablesView db := by
  rw [view, accounts_of_database keeping found, installation_of_database keeping found, engine,
    keeping]
  rfl

/-- What a store shows depends on the files of the host alone. -/
theorem view_eq_of_files
    {left right : Host}
    (same : left.files = right.files)
    (store : Store) :
    store.view left = store.view right := by
  cases keeping : store.keeping with
  | memory memory => rw [view_of_memory keeping, view_of_memory keeping]
  | database =>
      have outcomes (call : Call) :
          (store.perform left call).outcome = (store.perform right call).outcome := by
        rw [perform, perform, outcome_telling, outcome_telling, keeping]
        dsimp only [performInDatabase]
        rw [same]
        cases right.files.database? store.path <;> rfl
      rw [view, view, accounts, accounts, installation, installation, outcomes, outcomes]

/-- What is shown of an opening depends on its store and on the files alone. -/
theorem Opening.view_eq_of_files
    {left right : Opening}
    (stores : left.store = right.store)
    (same : left.host.files = right.host.files) :
    left.view = right.view := by
  rw [Opening.view, Opening.view, stores]
  exact congrArg right.store.bind (funext (Store.view_eq_of_files same))

/-- What is shown does not depend on what the operator was told, nor on connections. -/
theorem view_openWith_notify
    (host : Host)
    (notices : List Notice)
    (folder : FilePath)
    (engine : Engine)
    (connections : Option Nat) :
    (openWith (host.notify notices) folder engine connections).view =
      (openWith host folder engine).view := by
  cases engine with
  | jsonFile =>
      rw [openWith, openWith, openFile, openFile, files_notify]
      split
      · rfl
      · rename_i files _
        have loads : loadMemory { host.notify notices with files := files } folder =
          loadMemory { host with files := files } folder := rfl
        dsimp only
        rw [loads]
        split
        · rfl
        · exact Opening.view_eq_of_files rfl rfl
  | sqlite =>
      rw [openWith, openWith, openTables, openTables, files_notify]
      split
      · rfl
      · rename_i files _
        have loads : loadDatabase { host.notify notices with files := files } folder =
          loadDatabase { host with files := files } folder := rfl
        dsimp only
        rw [loads]
        split
        · rfl
        · dsimp only [arrival_notify]
          split
          · rfl
          · exact Opening.view_eq_of_files rfl rfl

/-- A folder shows what the engine shows that it decides on. -/
theorem viewIn_eq (host : Host) (folder : FilePath) :
    viewIn host folder = (openWith host folder (detectOrDefault host.files folder)).view := by
  rw [viewIn, openChosen, choose]
  exact view_openWith_notify host _ folder _ none

/-- What is in a folder is shown by the engine whose file is there. -/
theorem viewIn_of_detected
    {host : Host}
    {folder : FilePath}
    {engine : Engine}
    (found : detect? host.files folder = some engine) :
    viewIn host folder = (openWith host folder engine).view := by
  rw [viewIn_eq, detectOrDefault, found, Option.getD_some]

/-- The database decides, if there is one. -/
theorem detect?_eq_sqlite_iff {files : Files} {folder : FilePath} :
    detect? files folder = some .sqlite ↔ files.holds (pathIn folder .sqlite) = true := by
  rw [detect?]
  split
  · simp_all
  · split <;> simp_all

/-- The file engine is only found without a database. -/
theorem detect?_eq_jsonFile {files : Files} {folder : FilePath}
    (found : detect? files folder = some .jsonFile) :
    files.node? (pathIn folder .sqlite) = none := by
  rw [detect?] at found
  split at found
  · cases found
  · rename_i absent
    simpa [Files.holds] using absent

/-! ## Opening the file engine -/

/-- A store is open if its first call succeeded. -/
theorem ofReply_eq_ok
    {reply : Reply}
    {store : Store}
    (opens : (Opening.ofReply reply).store = .ok store) :
    (∃ answer, reply.outcome = .ok answer) ∧ store = reply.store := by
  rw [Opening.ofReply] at opens
  cases outcome : reply.outcome with
  | error problem =>
      rw [outcome] at opens
      cases opens
  | ok answer =>
      rw [outcome] at opens
      cases opens
      exact ⟨⟨answer, rfl⟩, rfl⟩

section OpeningFiles

variable {host : Host} {folder : FilePath} {store : Store}

/-- Opening a file in a folder that is there touches the document and its draft. -/
theorem openFile_changesOnly (opened : host.files.Opened folder) :
    ChangesOnly folder documentNames host.files (openFile host folder).host.files := by
  rw [openFile, opened.createFolders_eq]
  dsimp only
  split
  · exact .refl folder documentNames host.files
  · rename_i memory notices _
    exact persist_changesOnly (host.notify notices)
      { folder := folder, keeping := .memory memory, locks := { sharedReads := false } } memory

/-- Opening a file leaves the arrival of the session as it is. -/
theorem openFile_arrival (host : Host) (folder : FilePath) :
    (openFile host folder).host.arrival = host.arrival := by
  rw [openFile]
  split
  · rfl
  · dsimp only
    split <;> rfl

/-- A file is opened as it is once its folder is there. -/
theorem openFile_eq_of_created
    {files : Files}
    (created : host.files.createFolders folder = .ok files) :
    openFile host folder = openFile { host with files := files } folder := by
  obtain ⟨_, opened⟩ := Files.addsFolders_of_createFolders created
  rw [openFile, openFile, created, opened.createFolders_eq]

/-- Opening a file, even in vain, leaves the database beside it. -/
theorem openFile_of_created
    {files : Files}
    (created : host.files.createFolders folder = .ok files) :
    (openFile host folder).host.files.Opened folder ∧
      (openFile host folder).host.files.node? (pathIn folder .sqlite) =
        host.files.node? (pathIn folder .sqlite) := by
  obtain ⟨adds, opened⟩ := Files.addsFolders_of_createFolders created
  have opened : { host with files := files }.files.Opened folder := opened
  have changes := openFile_changesOnly opened
  rw [openFile_eq_of_created created]
  refine ⟨changes.opened isPlain_documentNames opened, ?_⟩
  rw [pathIn, changes.node?_eq isPlain_documentNames folder (isPlain_fileName .sqlite)
      tables_not_document]
  exact adds.node?_within (isPlain_fileName .sqlite)

/-- The store that is opened keeps a memory in the folder. -/
theorem of_openFile (opens : (openFile host folder).store = .ok store) :
    (∃ memory, store.keeping = .memory memory) ∧ store.folder = folder ∧
      ∃ files, host.files.createFolders folder = .ok files := by
  rw [openFile] at opens
  split at opens
  · cases opens
  · rename_i files created
    dsimp only at opens
    split at opens
    · cases opens
    · rename_i memory notices loaded
      obtain ⟨_, rfl⟩ := ofReply_eq_ok opens
      exact ⟨⟨memory, rfl⟩, rfl, files, created⟩

/-- What is open when an opened file shows something. -/
theorem of_view_openFile
    {shown : View}
    (shows : (openFile host folder).view = .ok shown) :
    ∃ source memory, (openFile host folder).store = .ok source ∧
      source.keeping = .memory memory ∧ shown.accounts = memory.all ∧
      (openFile host folder).host.files.Opened folder ∧
      (openFile host folder).host.files.node? (pathIn folder .sqlite) =
        host.files.node? (pathIn folder .sqlite) := by
  cases opens : (openFile host folder).store with
  | error problem =>
      rw [Opening.view, opens] at shows
      cases shows
  | ok source =>
      obtain ⟨⟨memory, keeping⟩, _, files, created⟩ := of_openFile opens
      obtain ⟨opened, same⟩ := openFile_of_created created
      rw [Opening.view, opens] at shows
      have view_eq : source.view (openFile host folder).host = .ok shown := shows
      rw [view_of_memory keeping, Except.ok.injEq] at view_eq
      exact ⟨source, memory, rfl, keeping, view_eq ▸ rfl, opened, same⟩

end OpeningFiles

/-! ## Opening the table engine -/

/-- The store of a database in a folder. -/
def tableStore (folder : FilePath) : Store where
  folder := folder
  keeping := .database
  locks := { sharedReads := true }

/-- A database stands in a folder that is there. -/
structure Stands (db : Database) (host : Host) (folder : FilePath) : Prop where
  opened : host.files.Opened folder
  node : host.files.node? (pathIn folder .sqlite) = some (.database db)

namespace Stands

variable {db : Database} {host after : Host} {folder : FilePath}

/-- What the file engine does leaves a database where it stands. -/
theorem of_changesOnly
    (stands : Stands db host folder)
    (changes : ChangesOnly folder documentNames host.files after.files) :
    Stands db after folder where
  opened := changes.opened isPlain_documentNames stands.opened
  node := by
    rw [pathIn, changes.node?_eq isPlain_documentNames folder (isPlain_fileName .sqlite)
      tables_not_document]
    exact stands.node

/-- A database stands where it stood as long as the files are the same. -/
theorem of_files (stands : Stands db host folder) (same : after.files = host.files) :
    Stands db after folder where
  opened := same ▸ stands.opened
  node := same ▸ stands.node

/-- The database that stands in the folder. -/
theorem database?_eq (stands : Stands db host folder) :
    host.files.database? (pathIn folder .sqlite) = some db := by
  rw [Files.database?, stands.node]

/-- Another database takes the place of the one that stands in a folder. -/
theorem set (opened : host.files.Opened folder) (db : Database) :
    Stands db { host with files := host.files.setDatabase (pathIn folder .sqlite) db }
      folder where
  opened := by
    have changes := host.files.put_changesOnly folder (isPlain_fileName .sqlite) (.database db)
    refine changes.opened ?_ opened
    intro name member
    rw [List.mem_singleton.mp member]
    exact isPlain_fileName .sqlite
  node := host.files.node?_put folder (isPlain_fileName .sqlite) (.database db)

end Stands

section OpeningTables

variable {host : Host} {folder : FilePath} {store : Store}

/-- What is loaded depends on what stands under the path of the database alone. -/
theorem loadDatabase_eq_of_node
    {left right : Host}
    (same : left.files.node? (pathIn folder .sqlite) =
      right.files.node? (pathIn folder .sqlite)) :
    loadDatabase left folder = loadDatabase right folder := by
  rw [loadDatabase, loadDatabase, Files.holds, Files.holds, Files.database?, Files.database?,
    same]

/-- A database that is there is loaded. -/
theorem loadDatabase_of_node
    {db : Database}
    (found : host.files.node? (pathIn folder .sqlite) = some (.database db)) :
    loadDatabase host folder = .ok db := by
  have holds : host.files.holds (pathIn folder .sqlite) = true := by
    rw [Files.holds, found, Option.isSome_some]
  have stored : host.files.database? (pathIn folder .sqlite) = some db := by
    rw [Files.database?, found]
  rw [loadDatabase, if_pos holds, stored]

/-- Without a file there is an empty database. -/
theorem loadDatabase_of_none (absent : host.files.node? (pathIn folder .sqlite) = none) :
    loadDatabase host folder = .ok .empty := by
  rw [loadDatabase, Files.holds, absent, Option.isSome_none, if_neg Bool.false_ne_true]

/-- The database in a folder is loaded and brought up to date. -/
theorem of_openTables (opens : (openTables host folder).store = .ok store) :
    store = tableStore folder ∧
      (∃ files, host.files.createFolders folder = .ok files) ∧
        ∃ db, loadDatabase host folder = .ok db ∧
          (TableEngine.upkeep db host.arrival.now).failure = none ∧
          Stands (TableEngine.upkeep db host.arrival.now).db (openTables host folder).host
            folder := by
  rw [openTables] at opens ⊢
  split at opens
  · cases opens
  · rename_i files created
    obtain ⟨adds, opened⟩ := Files.addsFolders_of_createFolders created
    have same : loadDatabase { host with files := files } folder =
        loadDatabase host folder :=
      loadDatabase_eq_of_node (adds.node?_within (isPlain_fileName .sqlite))
    dsimp only at opens ⊢
    rw [same] at opens ⊢
    split at opens
    · cases opens
    · rename_i db loaded
      split at opens
      · cases opens
      · rename_i succeeds
        cases opens
        have opened : { host with files := files }.files.Opened folder := opened
        have set := Stands.set opened (TableEngine.upkeep db host.arrival.now).db
        exact ⟨rfl, ⟨files, created⟩, db, loaded, succeeds, set.opened, set.node⟩

/-- Opening succeeds where the folder is there and upkeep succeeds. -/
theorem openTables_eq
    (opened : host.files.Opened folder)
    {db : Database}
    (loaded : loadDatabase host folder = .ok db)
    (succeeds : (TableEngine.upkeep db host.arrival.now).failure = none) :
    (openTables host folder).store = .ok (tableStore folder) ∧
      Stands (TableEngine.upkeep db host.arrival.now).db (openTables host folder).host
        folder := by
  have opens : (openTables host folder).store = .ok (tableStore folder) := by
    rw [openTables, opened.createFolders_eq]
    dsimp only
    simp only [loaded, succeeds]
    rfl
  obtain ⟨_, _, other, otherLoaded, _, stands⟩ := of_openTables opens
  rw [loaded, Except.ok.injEq] at otherLoaded
  subst otherLoaded
  exact ⟨opens, stands⟩

/-- What is shown of a database is what its upkeep leaves. -/
theorem view_openTables
    (opens : (openTables host folder).store = .ok store) :
    ∃ db, loadDatabase host folder = .ok db ∧
      (openTables host folder).view =
        tablesView (TableEngine.upkeep db host.arrival.now).db := by
  obtain ⟨rfl, _, db, loaded, _, stands⟩ := of_openTables opens
  refine ⟨db, loaded, ?_⟩
  rw [Opening.view, opens]
  exact view_of_database rfl stands.database?_eq

/-- A folder with a database shows what the upkeep of the database leaves. -/
theorem viewIn_of_tables
    (opened : host.files.Opened folder)
    (holds : host.files.holds (pathIn folder .sqlite) = true)
    {db : Database}
    (loaded : loadDatabase host folder = .ok db)
    (succeeds : (TableEngine.upkeep db host.arrival.now).failure = none) :
    viewIn host folder = tablesView (TableEngine.upkeep db host.arrival.now).db := by
  obtain ⟨opens, _⟩ := openTables_eq opened loaded succeeds
  obtain ⟨other, otherLoaded, view⟩ := view_openTables opens
  rw [loaded, Except.ok.injEq] at otherLoaded
  subst otherLoaded
  rw [viewIn_of_detected (detect?_eq_sqlite_iff.mpr holds)]
  exact view

end OpeningTables

/-- A database that is up to date shows what its tables hold. -/
theorem Stands.viewIn_eq
    {db : Database}
    {host : Host}
    {folder : FilePath}
    (stands : Stands db host folder)
    (upToDate : TableEngine.UpToDate db) :
    viewIn host folder = tablesView db := by
  have kept := upToDate.upkeep_eq host.arrival.now
  have holds : host.files.holds (pathIn folder .sqlite) = true := by
    rw [Files.holds, stands.node]
    rfl
  rw [viewIn_of_tables stands.opened holds (loadDatabase_of_node stands.node)
    (by rw [kept]), kept]

end TenantStore.Store
