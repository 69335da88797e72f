import TenantStore.Proofs.Json.Indented
import TenantStore.Proofs.Store.Durability
import TenantStore.Proofs.TableEngine.Refusals

namespace TenantStore.Store

/-!
# Writing the file of a store

What a store writes is read back as it was (`written_reads_back`). A write that
fails leaves the file as it was, but the memory has changed by then: the store
goes on as if the call had succeeded, and the next write that succeeds makes the
change last (`failed_call_leaves`). A call that fails on a database changes
nothing.
-/

open FileEngine (Document Flushes Memory)
open Files (ChangesOnly)
open TableEngine (Asks)

/-! ## Reading back -/

/--
Every account is read back from the text that it is written as, without blanks
or indented, and every store document from its bytes. The file that a memory was
written to gives back its accounts and its installation.
-/
theorem written_reads_back
    (account : Account)
    (accounts : Dict Account)
    (installation : String) :
    (Json.ofText? account.toJson.compactText).bind Account.ofJson? = some account ∧
    (Json.ofText? account.toJson.prettyText).bind Account.ofJson? = some account ∧
    Document.ofBytes? (Document.bytes { accounts, installation }) =
      some { accounts, installation } ∧
    ∀ (host : Host) (store : Store) (memory : Memory) (answer : Answer),
      (persist host store memory).outcome = .ok answer →
      ∃ bytes,
        (persist host store memory).host.files.read (pathIn store.folder .jsonFile) =
          .ok bytes ∧
        Document.ofBytes? bytes =
          some { accounts := memory.accounts, installation := memory.installation } := by
  refine ⟨?_, ?_, Document.ofBytes?_bytes _, ?_⟩
  · rw [Json.ofText?_compactText account.isPlain_toJson, Option.bind_some,
      Account.ofJson?_toJson]
  · rw [Json.ofText?_prettyText account.isPlain_toJson, Option.bind_some,
      Account.ofJson?_toJson]
  · intro host store memory answer persisted
    refine ⟨memory.document.bytes, ?_, Document.ofBytes?_bytes memory.document⟩
    rw [Files.read, node?_persist persisted]

/-- An account of values that are rarely seen. -/
def rareAccount : Account where
  id := "\x00\"\\\x1fé"
  createdAt := ⟨0xffffffffffffffff⟩
  peers := .ofList [("", {
    ip := .v6 ⟨[0, 0, 0, 0, 0, 0xffff, 0x0102, 0x0304], rfl⟩
    location := { connectionIp := some (.v6 ⟨[0, 0, 1, 0, 0, 0, 0, 1], rfl⟩) } })]
  settings := some {
    peerLoginExpiration := { seconds := 0xffffffffffffffff, nanos := 999999999 } }

/-- A folder in which a file can be written. -/
def quietHost : Host where
  files := { nodes := .ofList [("/d", .folder)] }
  arrival := { now := ⟨0⟩, newId := fun _ => "" }

/-- A store without accounts. -/
def quietStore : Store where
  folder := "/d"
  keeping := .memory .empty
  locks := { sharedReads := false }

theorem written_reads_back_rare :
    (Json.ofText? rareAccount.toJson.compactText).bind Account.ofJson? = some rareAccount ∧
    ∃ bytes,
      (persist quietHost quietStore
        { accounts := .ofList [("\x7f", rareAccount)] }).host.files.read
          (pathIn "/d" .jsonFile) = .ok bytes ∧
      Document.ofBytes? bytes = some { accounts := .ofList [("\x7f", rareAccount)] } := by
  obtain ⟨compact, _, _, persisted⟩ := written_reads_back rareAccount ∅ ""
  exact ⟨compact, persisted quietHost quietStore { accounts := .ofList [("\x7f", rareAccount)] }
    .done (by decide +kernel)⟩

/-! ## Writes that fail -/

/-- A document that cannot be written leaves every file but its draft. -/
theorem writeDocument_failed
    {files : Files}
    {folder : FilePath}
    {document : Document}
    {problem : Problem}
    (failed : (writeDocument files folder document).2 = .error problem) :
    problem = .files ∧
      ChangesOnly folder [draftName] files (writeDocument files folder document).1 := by
  rw [writeDocument, draftPath_eq] at failed ⊢
  split at failed
  · rename_i other refused
    cases failed
    exact ⟨Files.write_eq_error refused, .refl folder [draftName] files⟩
  · rename_i drafted wrote
    have drafting := Files.write_changesOnly isPlain_draftName wrote
    split at failed
    · rename_i other refused
      cases failed
      exact ⟨Files.rename_eq_error refused, drafting⟩
    · cases failed

/-- A memory that cannot be written leaves the file as it was. -/
theorem persist_failed
    {host : Host}
    {store : Store}
    {memory : Memory}
    {problem : Problem}
    (failed : (persist host store memory).outcome = .error problem) :
    problem = .files ∧
      (persist host store memory).host.files.node? (pathIn store.folder .jsonFile) =
        host.files.node? (pathIn store.folder .jsonFile) := by
  rw [outcome_persist] at failed
  cases written : (writeDocument host.files store.folder memory.document).2 with
  | ok nothing =>
      rw [written] at failed
      cases failed
  | error other =>
      rw [written] at failed
      cases failed
      obtain ⟨isFiles, changes⟩ := writeDocument_failed written
      have plainNames : ∀ name ∈ [draftName], FilePath.IsPlain name :=
        List.forall_mem_singleton.mpr isPlain_draftName
      exact ⟨isFiles,
        changes.node?_eq plainNames store.folder (isPlain_fileName .jsonFile) (by decide)⟩

/-! ## Memories that are kept -/

/-- A store after calls, each on the host that it happens to find. -/
def runAmid (store : Store) (calls : List (Host × Call)) : Store :=
  calls.foldl (fun store call => (store.perform call.1 call.2).store) store

section Memory

variable {store : Store} {memory : Memory}

/-- A call changes the memory of a store in the same way whether or not it is written. -/
theorem kept_perform
    (keeping : store.keeping = .memory memory)
    (host : Host)
    (call : Call) :
    (store.perform host call).store.keeping = .memory (memory.perform call).memory ∧
      (store.perform host call).store.folder = store.folder := by
  rw [perform, keeping]
  dsimp only [performInMemory]
  split <;> exact ⟨rfl, rfl⟩

theorem kept_runAmid
    (keeping : store.keeping = .memory memory)
    (calls : List (Host × Call)) :
    (store.runAmid calls).keeping = .memory (memory.run (calls.map Prod.snd)) ∧
      (store.runAmid calls).folder = store.folder := by
  induction calls generalizing store memory with
  | nil => exact ⟨keeping, rfl⟩
  | cons call rest inductionHypothesis =>
      obtain ⟨kept, folder⟩ := kept_perform keeping call.1 call.2
      obtain ⟨keptAfter, folderAfter⟩ := inductionHypothesis kept
      exact ⟨keptAfter, folderAfter.trans folder⟩

theorem perform_of_writes
    (keeping : store.keeping = .memory memory)
    {call : Call}
    (writes : (memory.perform call).writes = true)
    (host : Host) :
    store.perform host call =
      (persist (host.notify (memory.perform call).notices) store
        (memory.perform call).memory).telling (store.aftermath host call) := by
  rw [perform, keeping]
  dsimp only [performInMemory]
  rw [if_pos writes]

/-- A call that is to be written, and is not, changes nothing. -/
theorem perform_of_unwritten
    (keeping : store.keeping = .memory memory)
    {call : Call}
    (flushes : Flushes call)
    (unwritten : (memory.perform call).writes = false)
    (host : Host) :
    store.perform host call = { host, store, outcome := .error .emptyAccountId } := by
  obtain ⟨folder, kept, locks, writes⟩ := store
  obtain rfl : kept = .memory memory := keeping
  dsimp only [perform, performInMemory]
  rw [unwritten, if_neg Bool.false_ne_true,
    Memory.perform_eq_of_unwritten flushes unwritten, Memory.answer, notify_nil]
  exact telling_of_error _ _ rfl

/-- A call that is to be written, and succeeds, leaves its memory in the file. -/
theorem read_of_flushes
    (keeping : store.keeping = .memory memory)
    {call : Call}
    (flushes : Flushes call)
    {host : Host}
    {answer : Answer}
    (succeeds : (store.perform host call).outcome = .ok answer) :
    ∃ bytes,
      (store.perform host call).host.files.read (pathIn store.folder .jsonFile) = .ok bytes ∧
      Document.ofBytes? bytes = some (memory.perform call).memory.document := by
  cases writes : (memory.perform call).writes with
  | true =>
      rw [perform_of_writes keeping writes, outcome_telling] at succeeds
      refine ⟨_, ?_, Document.ofBytes?_bytes _⟩
      rw [perform_of_writes keeping writes, files_telling, Files.read, node?_persist succeeds]
  | false =>
      rw [perform_of_unwritten keeping flushes writes] at succeeds
      cases succeeds

end Memory

/-- A database that is put in its own place stays as it is. -/
theorem database?_setDatabase_self
    {files : Files}
    {folder : FilePath}
    {db : Relational.Database}
    (found : files.database? (pathIn folder .sqlite) = some db) :
    (files.setDatabase (pathIn folder .sqlite) db).database? (pathIn folder .sqlite) =
      files.database? (pathIn folder .sqlite) := by
  rw [found, Files.database?, Files.setDatabase, pathIn,
    files.node?_put folder (isPlain_fileName .sqlite)]

/-- A call that fails on a database leaves the database and the store as they were. -/
theorem perform_failed_tables
    {host : Host}
    {store : Store}
    {call : Call}
    {problem : Problem}
    (keeping : store.keeping = .database)
    (failed : (store.perform host call).outcome = .error problem) :
    (store.perform host call).store = store ∧
      (store.perform host call).host.files.database? store.path =
        host.files.database? store.path := by
  rw [perform, outcome_telling, keeping] at failed
  rw [perform, store_telling, files_telling, keeping]
  dsimp only [performInDatabase] at failed ⊢
  rw [path_of_database keeping] at failed ⊢
  cases found : host.files.database? (pathIn store.folder .sqlite) with
  | none => exact ⟨rfl, found⟩
  | some db =>
      rw [found] at failed
      dsimp only at failed ⊢
      have unwritten : (TableEngine.perform db call).outcome.isOk = false := by
        rw [failed]
        rfl
      rw [TableEngine.perform_failed failed, unwritten, Bool.and_false,
        if_neg Bool.false_ne_true, database?_setDatabase_self found]
      exact ⟨rfl, found⟩

/-- What a store of the table engine answers depends on its database alone. -/
theorem answersAlike_of_database
    {store : Store}
    (keeping : store.keeping = .database)
    {leftHost rightHost : Host}
    (same : leftHost.files.database? store.path = rightHost.files.database? store.path) :
    AnswersAlike leftHost store rightHost store := by
  intro call _
  rw [perform, perform, keeping]
  dsimp only [performInDatabase]
  rw [same]
  cases rightHost.files.database? store.path <;> rfl

/--
A call that is to be written fails. On a database, or for want of an identifier,
it has changed nothing. Otherwise it is the file that could not be written. Then
the file is as before, but the memory is that after the call: whatever is done
to the store later, and whether or not it can be written, the store answers as
if the call had succeeded, and the next call that is written with success writes
what the failed one has changed.
-/
theorem failed_call_leaves
    {host : Host}
    {store : Store}
    {call : Call}
    {problem : Problem}
    (flushes : Flushes call)
    (failed : (store.perform host call).outcome = .error problem) :
    (store.keeping = .database ∨ problem = .emptyAccountId →
      (store.perform host call).store = store ∧
      (store.perform host call).host.files.database? store.path =
        host.files.database? store.path ∧
      AnswersAlike (store.perform host call).host (store.perform host call).store
        host store) ∧
    ∀ memory, store.keeping = .memory memory → problem ≠ .emptyAccountId →
      problem = .files ∧
      (memory.perform call).outcome = .ok .done ∧
      (store.perform host call).host.files.node? (pathIn store.folder .jsonFile) =
        host.files.node? (pathIn store.folder .jsonFile) ∧
      ∀ later : List (Host × Call),
        let reached := (store.perform host call).store.runAmid later
        let memoryReached := (memory.perform call).memory.run (later.map Prod.snd)
        (∀ host asked, Asks asked →
          (reached.perform host asked).outcome = (memoryReached.perform asked).outcome) ∧
        ∀ host next answer, Flushes next →
          (reached.perform host next).outcome = .ok answer →
          ∃ bytes,
            (reached.perform host next).host.files.read (pathIn store.folder .jsonFile) =
              .ok bytes ∧
            Document.ofBytes? bytes = some (memoryReached.perform next).memory.document := by
  cases keeping : store.keeping with
  | database =>
      refine ⟨fun _ => ?_, nofun⟩
      obtain ⟨storeSame, databaseSame⟩ := perform_failed_tables keeping failed
      have alike := answersAlike_of_database keeping databaseSame
      rw [storeSame]
      exact ⟨rfl, databaseSame, alike⟩
  | memory memory =>
      cases writes : (memory.perform call).writes with
      | true =>
          obtain ⟨kept, folder⟩ := kept_perform keeping host call
          have fileFailed := failed
          rw [perform_of_writes keeping writes, outcome_telling] at fileFailed
          obtain ⟨rfl, fileSame⟩ := persist_failed fileFailed
          refine ⟨by rintro (isDatabase | isName) <;> contradiction, ?_⟩
          rintro _ ⟨⟩ _
          refine ⟨rfl, Memory.outcome_of_written writes, ?_, ?_⟩
          · rw [perform_of_writes keeping writes, files_telling]
            exact fileSame
          · intro later
            obtain ⟨keptLater, folderLater⟩ := kept_runAmid kept later
            refine ⟨fun host asked asks => perform_of_memory keptLater asks, ?_⟩
            intro host next answer nextFlushes succeeds
            rw [← folder, ← folderLater]
            exact read_of_flushes keptLater nextFlushes succeeds
      | false =>
          rw [perform_of_unwritten keeping flushes writes] at failed ⊢
          cases failed
          exact ⟨fun _ => ⟨rfl, rfl, fun _ _ => rfl⟩, fun _ _ named => absurd rfl named⟩

/-- A folder in which the draft of a document cannot be written. -/
def blockedHost : Host where
  files := { nodes := .ofList [("/d", .folder), ("/d/store.json.tmp", .folder)] }
  arrival := { now := ⟨0⟩, newId := fun _ => "" }

/-- An account is there although saving it failed, and lasts once something else is saved. -/
theorem failed_call_leaves_saved :
    (quietStore.perform blockedHost (.save { id := "a" })).outcome = .error .files ∧
      (quietStore.perform blockedHost (.get "a")).outcome =
        .error (.notFound .account "a") ∧
      ((quietStore.perform blockedHost (.save { id := "a" })).store.perform blockedHost
        (.get "a")).outcome = .ok (.account { id := "a" }) ∧
      ∃ bytes,
        ((quietStore.perform blockedHost (.save { id := "a" })).store.perform quietHost
          (.saveInstallation "i")).host.files.read (pathIn "/d" .jsonFile) = .ok bytes ∧
        Document.ofBytes? bytes =
          some { accounts := .ofList [("a", { id := "a" })], installation := "i" } := by
  have failed : (quietStore.perform blockedHost (.save { id := "a" })).outcome =
      .error .files := by
    decide +kernel
  obtain ⟨_, _, _, leaves⟩ := (@failed_call_leaves blockedHost quietStore (.save { id := "a" })
    .files trivial failed).2 .empty rfl nofun
  obtain ⟨answers, lasts⟩ := leaves []
  refine ⟨failed, by decide +kernel, (answers blockedHost (.get "a") trivial).trans
    (by decide +kernel), ?_⟩
  obtain ⟨bytes, read, decoded⟩ := lasts quietHost (.saveInstallation "i") .done trivial
    (by decide +kernel)
  exact ⟨bytes, read, decoded.trans (by decide +kernel)⟩

end TenantStore.Store
