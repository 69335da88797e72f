import TenantStore.Proofs.Store.Results

namespace TenantStore

/-!
# Stores in empty folders

The document can be written to every folder that is there and holds no folders
under the names of its files (`Store.Writable`). So a store of the file engine
is opened in an empty folder, and replaced by what another store holds.
-/

namespace Files

open FilePath (IsPlain)

variable {files after : Files} {folder : FilePath} {name : String}

/-- A folder is there, and nothing stands in it. -/
structure EmptyFolder (files : Files) (folder : FilePath) : Prop where
  opened : files.Opened folder
  nothing : ∀ name, IsPlain name → files.node? (folder.join name) = none

/-! ## Writing and renaming -/

theorem Opened.isFolder_eq (opened : files.Opened folder) :
    files.isFolder (files.locate folder) = true := by
  rw [isFolder, nodeAt?]
  split
  · rfl
  · rename_i nonempty
    have there := opened (files.locate folder)
      (fun none => nonempty (by rw [none]; rfl)) (List.prefix_refl _)
    rw [there]
    rfl

/-- A place in a folder is one for a file unless a folder stands there. -/
theorem Opened.place_free
    (opened : files.Opened folder)
    (plain : IsPlain name)
    (free : files.node? (folder.join name) ≠ some .folder) :
    (files.isFolder (files.locate (folder.join name)) ||
      !files.isFolder (files.locate (folder.join name)).dropLast) = false := by
  have here : files.isFolder (files.locate (folder.join name)) = false :=
    decide_eq_false free
  rw [here, files.locate_join folder plain, List.dropLast_concat, opened.isFolder_eq]
  rfl

theorem Opened.exists_write
    (opened : files.Opened folder)
    (plain : IsPlain name)
    (free : files.node? (folder.join name) ≠ some .folder)
    (bytes : ByteArray) :
    ∃ after, files.write (folder.join name) bytes = .ok after := by
  rw [write, opened.place_free plain free]
  exact ⟨_, rfl⟩

theorem Opened.exists_rename
    (opened : files.Opened folder)
    (plain : IsPlain name)
    (free : files.node? (folder.join name) ≠ some .folder)
    {source : FilePath}
    {node : FileNode}
    (found : files.node? source = some node) :
    ∃ after, files.rename source (folder.join name) = .ok after := by
  rw [rename, found]
  dsimp only
  rw [opened.place_free plain free]
  exact ⟨_, rfl⟩

/-- Nothing stands any more where a file was renamed. -/
theorem node?_source_of_rename
    {source target : String}
    (sourcePlain : IsPlain source)
    (targetPlain : IsPlain target)
    (unlike : source ≠ target)
    (run : files.rename (folder.join source) (folder.join target) = .ok after) :
    after.node? (folder.join source) = none := by
  obtain ⟨node, _, rfl⟩ := rename_eq_ok run
  have apart := FilePath.ofParts_concat_ne (files.locate folder) (files.locate folder)
    targetPlain sourcePlain unlike.symm
  rw [node?_join _ _ sourcePlain]
  change Dict.get? (Dict.insert _ _ _) (FilePath.ofParts (files.locate folder ++ [source])) = _
  rw [files.locate_join folder targetPlain, files.locate_join folder sourcePlain,
    Dict.get?_insert, if_neg apart, Dict.get?_erase, if_pos rfl]

end Files

namespace Store

open Files (ChangesOnly)

/-! ## Writing the document -/

/-- A folder is there, and no folders stand where the document is written. -/
structure Writable (files : Files) (folder : FilePath) : Prop where
  opened : files.Opened folder
  free : ∀ name ∈ documentNames, files.node? (folder.join name) ≠ some .folder

/-- Where the document was written once, it could be written again. -/
theorem Writable.of_writeDocument
    {files : Files}
    {folder : FilePath}
    {document : FileEngine.Document}
    (opened : files.Opened folder)
    (written : (Store.writeDocument files folder document).2 = .ok ()) :
    Writable (Store.writeDocument files folder document).1 folder where
  opened := (writeDocument_changesOnly files folder document).opened isPlain_documentNames opened
  free name member := by
    rcases List.mem_cons.mp member with rfl | last
    · rw [Store.writeDocument, draftPath_eq] at written ⊢
      split at written
      · cases written
      · split at written
        · cases written
        · rename_i renamed
          have unlike : draftName ≠ fileName .jsonFile := by decide
          rw [Files.node?_source_of_rename isPlain_draftName (isPlain_fileName .jsonFile) unlike
            renamed]
          exact (Option.some_ne_none _).symm
    · have there := node?_writeDocument written
      rw [pathIn] at there
      rw [List.mem_singleton.mp last, there]
      intro same
      cases same

/-- The document is written, and could be written again. -/
theorem Writable.writeDocument
    {files : Files}
    {folder : FilePath}
    (writable : Writable files folder)
    (document : FileEngine.Document) :
    (writeDocument files folder document).2 = .ok () ∧
      Writable (writeDocument files folder document).1 folder := by
  have draftMember : draftName ∈ documentNames := by decide
  have documentMember : fileName .jsonFile ∈ documentNames := by decide
  have unlike : draftName ≠ fileName .jsonFile := by decide
  obtain ⟨drafted, wrote⟩ := writable.opened.exists_write isPlain_draftName
    (writable.free draftName draftMember) document.bytes
  have drafting := Files.write_changesOnly isPlain_draftName wrote
  have plainDraft : ∀ name ∈ [draftName], FilePath.IsPlain name := by
    intro name member
    rw [List.mem_singleton.mp member]
    exact isPlain_draftName
  have free : drafted.node? (folder.join (fileName .jsonFile)) ≠ some .folder := by
    rw [drafting.node?_eq plainDraft folder (isPlain_fileName .jsonFile)
      (fun member => unlike (List.mem_singleton.mp member).symm)]
    exact writable.free _ documentMember
  obtain ⟨replaced, renamed⟩ := (drafting.opened plainDraft writable.opened).exists_rename
    (isPlain_fileName .jsonFile) free (Files.node?_write isPlain_draftName wrote)
  have run : Store.writeDocument files folder document = (replaced, .ok ()) := by
    rw [Store.writeDocument, draftPath_eq, wrote]
    dsimp only
    rw [pathIn, renamed]
  have written : (Store.writeDocument files folder document).2 = .ok () := by rw [run]
  exact ⟨written, .of_writeDocument writable.opened written⟩

theorem Writable.persist
    {host : Host}
    {store : Store}
    (writable : Writable host.files store.folder)
    (memory : FileEngine.Memory) :
    (persist host store memory).outcome = .ok .done ∧
      Writable (persist host store memory).host.files store.folder := by
  obtain ⟨written, after⟩ := writable.writeDocument memory.document
  refine ⟨?_, after⟩
  rw [Store.persist]
  dsimp only
  rw [written]
  rfl

/-! ## Opening the file engine -/

section Opening

variable {host : Host} {folder : FilePath}

/-- A store is opened in a folder without a document. -/
theorem Writable.openFile
    (writable : Writable host.files folder)
    (absent : host.files.node? (pathIn folder .jsonFile) = none) :
    ∃ store, (openFile host folder).store = .ok store ∧
      Writable (openFile host folder).host.files folder := by
  have loaded : loadMemory host folder =
      .ok (.empty, [.newFile (pathIn folder .jsonFile)]) := by
    rw [loadMemory, Files.holds, absent]
    rfl
  have persisted := @Writable.persist (host.notify [.newFile (pathIn folder .jsonFile)])
    { folder := folder, keeping := .memory .empty, locks := { sharedReads := false } }
    writable .empty
  rw [Store.openFile, writable.opened.createFolders_eq]
  dsimp only
  rw [loaded]
  dsimp only [Opening.ofReply]
  rw [persisted.1]
  exact ⟨_, rfl, persisted.2⟩

/-- A store of the file engine is made in such a folder from what another one shows. -/
theorem Writable.fileFrom
    {source : Store}
    {view : View}
    (writable : Writable host.files folder)
    (absent : host.files.node? (pathIn folder .jsonFile) = none)
    (shows : source.view host = .ok view) :
    ∃ target, (fileFrom host source folder).store = .ok target ∧
      target.keeping = .memory (.load view.accounts view.installation) := by
  obtain ⟨opened, opens, stillWritable⟩ := writable.openFile absent
  obtain ⟨_, sameFolder, _⟩ := of_openFile opens
  obtain ⟨accounts, installation⟩ :=
    parts_of_view (view_openFile shows writable.opened.createFolders_eq)
  have persisted := @Writable.persist (Store.openFile host folder).host opened
    (sameFolder ▸ stillWritable) (.load view.accounts view.installation)
  have fills : ∃ target, (Store.fileFrom host source folder).store = .ok target := by
    rw [Store.fileFrom, Opening.andThen, opens]
    dsimp only [Opening.ofReply]
    rw [importFrom, accounts, installation]
    dsimp only
    rw [outcome_telling, persisted.1]
    exact ⟨_, rfl⟩
  obtain ⟨target, fills⟩ := fills
  exact ⟨target, fills, holdsJust_fileFrom shows fills⟩

end Opening

/-! ## Filling a database -/

section Tables

variable {host : Host} {folder : FilePath} {source store : Store}

/-- Opening a database in a folder that is there touches its file. -/
theorem openTables_changesOnly (opened : host.files.Opened folder) :
    ChangesOnly folder [fileName .sqlite] host.files (openTables host folder).host.files := by
  rw [openTables, opened.createFolders_eq]
  dsimp only
  split
  · exact .refl _ _ _
  · have changes := host.files.put_changesOnly folder (isPlain_fileName .sqlite)
      (.database (TableEngine.upkeep ‹_› host.arrival.now).db)
    split <;> exact changes

/-- A call on a database touches its file, and leaves the store where it is. -/
theorem perform_changesOnly_tables
    (keeping : store.keeping = .database)
    (call : Call) :
    ChangesOnly store.folder [fileName .sqlite] host.files (store.perform host call).host.files ∧
      (store.perform host call).store.keeping = .database ∧
      (store.perform host call).store.folder = store.folder := by
  rw [perform, keeping]
  dsimp only [performInDatabase]
  rw [path_of_database keeping]
  split
  · exact ⟨.refl _ _ _, keeping, rfl⟩
  · exact ⟨host.files.put_changesOnly store.folder (isPlain_fileName .sqlite) _, keeping, rfl⟩

theorem saveAll_changesOnly
    (keeping : store.keeping = .database)
    (accounts : List Account) :
    ChangesOnly store.folder [fileName .sqlite] host.files
        (saveAll host store accounts).host.files ∧
      (saveAll host store accounts).store.keeping = .database ∧
      (saveAll host store accounts).store.folder = store.folder := by
  induction accounts generalizing host store with
  | nil => exact ⟨.refl _ _ _, keeping, rfl⟩
  | cons account rest inductionHypothesis =>
      obtain ⟨changes, stillKeeping, sameFolder⟩ :=
        @perform_changesOnly_tables host store keeping (.save account)
      rw [saveAll]
      split
      · obtain ⟨later, keeps, same⟩ :=
          @inductionHypothesis (store.perform host (.save account)).host _ stillKeeping
        rw [sameFolder] at later same
        exact ⟨changes.trans later, keeps, same⟩
      · exact ⟨changes, stillKeeping, sameFolder⟩

theorem copy_changesOnly (keeping : store.keeping = .database) :
    ChangesOnly store.folder [fileName .sqlite] host.files
      (copy host source store).host.files := by
  rw [copy]
  split
  · exact .refl _ _ _
  · rename_i accounts _
    obtain ⟨changes, stillKeeping, sameFolder⟩ :=
      @saveAll_changesOnly host store keeping accounts
    dsimp only
    split
    · exact changes
    · refine changes.trans ?_
      rw [copyInstallation]
      split
      · exact .refl _ _ _
      · split
        · exact .refl _ _ _
        · have last := (@perform_changesOnly_tables (saveAll host store accounts).host _
            stillKeeping (.saveInstallation ‹_›)).1
          rwa [sameFolder] at last

/-- Filling a database in a folder that is there touches its file. -/
theorem tablesFrom_changesOnly (opened : host.files.Opened folder) :
    ChangesOnly folder [fileName .sqlite] host.files
      (tablesFrom host source folder).host.files := by
  have opening := openTables_changesOnly opened
  rw [tablesFrom, Opening.andThen]
  split
  · rename_i target opens
    obtain ⟨rfl, _⟩ := of_openTables opens
    have copying := @copy_changesOnly (openTables host folder).host source
      (tableStore folder) rfl
    exact opening.trans copying
  · exact opening

/-- An empty folder takes a document also after a new database was made, wherever it was. -/
theorem Writable.of_tables
    {before after : Files}
    {other : FilePath}
    (changes : ChangesOnly folder [fileName .sqlite] before after)
    (absent : before.node? (pathIn folder .sqlite) = none)
    (empty : before.EmptyFolder other) :
    Writable after other ∧ after.node? (pathIn other .jsonFile) = none := by
  have plain : ∀ name ∈ [fileName .sqlite], FilePath.IsPlain name := by
    intro name member
    rw [List.mem_singleton.mp member]
    exact isPlain_fileName .sqlite
  have kept : ∀ name ∈ documentNames, after.node? (other.join name) = none := by
    intro name member
    have apart : name ∉ [fileName .sqlite] := by
      intro same
      rw [List.mem_singleton.mp same] at member
      exact tables_not_document member
    rw [changes.node?_eq plain other (isPlain_documentNames name member) apart]
    exact empty.nothing name (isPlain_documentNames name member)
  refine ⟨⟨?_, ?_⟩, kept (fileName .jsonFile) (by decide)⟩
  · intro front nonempty within
    rw [Files.locate_eq_of_base changes.base] at within
    have there := empty.opened front nonempty within
    rw [changes.others, there]
    intro name member same
    rw [List.mem_singleton.mp member] at same
    rw [pathIn, before.node?_join folder (isPlain_fileName .sqlite), ← same, there] at absent
    cases absent
  · intro name member
    rw [kept name member]
    exact (Option.some_ne_none _).symm

end Tables

end Store

end TenantStore
