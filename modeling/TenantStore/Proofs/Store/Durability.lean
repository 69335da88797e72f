import TenantStore.Proofs.AccountDocuments
import TenantStore.Proofs.FileEngine.LookupObservation
import TenantStore.Proofs.Store.EmptyFolders

namespace TenantStore

/-!
# What the file keeps of a memory

A store of the file engine writes its file after each call that changes
accounts as a whole or the installation. What peers report of their state and
their place, and when users logged in, stays in memory until then. So between
calls the file says all but that (`Store.Persists`), and a store that is opened
from it starts with what it says (`Store.run_durable`).
-/

namespace Account

/-- The account without what partial updates change. -/
def lasting (account : Account) : Account :=
  { account with
    peers := account.peers.mapValues (fun _ peer =>
      { peer with status := {}, location := {} })
    users := account.users.mapValues (fun _ user => { user with lastLogin := .zero }) }

theorem lasting_modifyPeer
    (account : Account)
    (id : String)
    {change : Peer → Peer}
    (same : ∀ peer, { change peer with status := {}, location := {} } =
      { peer with status := {}, location := {} }) :
    lasting { account with peers := account.peers.modify id change } = lasting account := by
  rw [lasting, Dict.mapValues_modify_of_same account.peers id same]
  rfl

theorem lasting_modifyUser
    (account : Account)
    (id : String)
    {change : User → User}
    (same : ∀ user, { change user with lastLogin := .zero } =
      { user with lastLogin := .zero }) :
    lasting { account with users := account.users.modify id change } = lasting account := by
  rw [lasting, Dict.mapValues_modify_of_same account.users id same]
  rfl

end Account

namespace FileEngine

/-- Calls after which the file is written before they are answered. -/
def Flushes : Call → Prop
  | .save _ => True
  | .delete _ => True
  | .saveInstallation _ => True
  | .close => True
  | _ => False

/-- Two memories hold the same installation and, partial updates apart, the same accounts. -/
structure SameLasting (left right : Document) : Prop where
  installation : left.installation = right.installation
  accounts : left.accounts.mapValues (fun _ => Account.lasting) =
    right.accounts.mapValues (fun _ => Account.lasting)

namespace SameLasting

protected theorem refl (document : Document) : SameLasting document document :=
  ⟨rfl, rfl⟩

theorem trans
    {first second third : Document}
    (left : SameLasting first second)
    (right : SameLasting second third) :
    SameLasting first third :=
  ⟨left.installation.trans right.installation, left.accounts.trans right.accounts⟩

end SameLasting

namespace Memory

/-! ## Calls on a memory -/

theorem sameLasting_updateAccount
    (memory : Memory)
    (id : String)
    (lacking : Problem)
    (has : Account → Bool)
    {change : Account → Account}
    (same : ∀ account, (change account).lasting = account.lasting) :
    SameLasting memory.document
      (memory.update (memory.updateAccount id lacking has change)).memory.document := by
  rcases memory.update_updateAccount id lacking has change with
    kept | ⟨account, stored, changed⟩
  · rw [kept]
    exact .refl _
  · rw [changed]
    exact ⟨rfl, (Dict.mapValues_insert_of_same stored (same account)).symm⟩

theorem sameLasting_updatePeer
    (memory : Memory)
    (accountId peerId : String)
    {change : Peer → Peer}
    (same : ∀ peer, { change peer with status := {}, location := {} } =
      { peer with status := {}, location := {} }) :
    SameLasting memory.document
      (memory.update (memory.updatePeer accountId peerId change)).memory.document := by
  rw [updatePeer_eq]
  exact memory.sameLasting_updateAccount accountId _ _
    (fun account => account.lasting_modifyPeer peerId same)

theorem sameLasting_updateUser
    (memory : Memory)
    (accountId userId : String)
    {change : User → User}
    (same : ∀ user, { change user with lastLogin := .zero } =
      { user with lastLogin := .zero }) :
    SameLasting memory.document
      (memory.update (memory.updateUser accountId userId change)).memory.document := by
  rw [updateUser_eq]
  exact memory.sameLasting_updateAccount accountId _ _
    (fun account => account.lasting_modifyUser userId same)

/-- Reads take out index entries at most. -/
theorem document_of_reads (memory : Memory) {call : Call} (reads : Reads call) :
    (memory.perform call).memory.document = memory.document := by
  rcases reads_memory memory reads with same | ⟨_, _, _, _, same⟩ | ⟨_, _, _, same⟩ |
    ⟨_, _, _, same⟩ <;> rw [same] <;> rfl

/-- A call that is to be written, and is not, fails for want of an identifier. -/
theorem perform_eq_of_unwritten
    {memory : Memory}
    {call : Call}
    (flushes : Flushes call)
    (unwritten : (memory.perform call).writes = false) :
    memory.perform call = memory.answer (.error .emptyAccountId) := by
  cases call with
  | save account =>
      simp only [perform] at unwritten ⊢
      split
      · rfl
      · rename_i named
        rw [if_neg named] at unwritten
        cases unwritten
  | delete account =>
      simp only [perform] at unwritten ⊢
      split
      · rfl
      · rename_i named
        rw [if_neg named] at unwritten
        cases unwritten
  | saveInstallation id => cases unwritten
  | close => cases unwritten
  | _ => exact flushes.elim

/-- What a call changes without its being written does not last. -/
theorem sameLasting_of_unwritten
    {memory : Memory}
    {call : Call}
    (unwritten : (memory.perform call).writes = false) :
    SameLasting memory.document (memory.perform call).memory.document := by
  have read (reads : Reads call) :
      SameLasting memory.document (memory.perform call).memory.document := by
    rw [document_of_reads memory reads]
    exact .refl _
  have flushed (flushes : Flushes call) :
      SameLasting memory.document (memory.perform call).memory.document := by
    rw [perform_eq_of_unwritten flushes unwritten]
    exact .refl _
  cases call with
  | save account => exact flushed trivial
  | delete account => exact flushed trivial
  | saveInstallation id => exact flushed trivial
  | close => exact flushed trivial
  | savePeerStatus account peer status =>
      exact memory.sameLasting_updatePeer account peer (fun _ => rfl)
  | savePeerLocation account peer location =>
      exact memory.sameLasting_updatePeer account peer (fun _ => rfl)
  | saveLastLogin account user time =>
      exact memory.sameLasting_updateUser account user (fun _ => rfl)
  | dropHashIndex hash => exact .refl _
  | dropTokenIndex token => exact .refl _
  | get id => exact read trivial
  | all => exact read trivial
  | find lookup key => exact read trivial
  | idByPeerKey key => exact read trivial
  | tokenByHash hash => exact read trivial
  | userByToken token => exact read trivial
  | installation => exact read trivial

/-- A call that is written succeeds in the memory. -/
theorem outcome_of_written
    {memory : Memory}
    {call : Call}
    (writes : (memory.perform call).writes = true) :
    (memory.perform call).outcome = .ok .done := by
  cases call with
  | save account =>
      simp only [perform] at writes ⊢
      split
      · rename_i nameless
        rw [if_pos nameless] at writes
        cases writes
      · rfl
  | delete account =>
      simp only [perform] at writes ⊢
      split
      · rename_i nameless
        rw [if_pos nameless] at writes
        cases writes
      · rfl
  | savePeerStatus account peer status =>
      simp only [perform, update] at writes
      split at writes <;> cases writes
  | savePeerLocation account peer location =>
      simp only [perform, update] at writes
      split at writes <;> cases writes
  | saveLastLogin account user time =>
      simp only [perform, update] at writes
      split at writes <;> cases writes
  | saveInstallation id => rfl
  | close => rfl
  | _ => cases writes

/-- A call that is to be written, and succeeds, is written. -/
theorem written_of_flushes
    {memory : Memory}
    {call : Call}
    (flushes : Flushes call)
    {answer : Answer}
    (succeeds : (memory.perform call).outcome = .ok answer) :
    (memory.perform call).writes = true := by
  by_contra unwritten
  rw [perform_eq_of_unwritten flushes (Bool.eq_false_iff.mpr unwritten)] at succeeds
  cases succeeds

end Memory

end FileEngine

namespace Store

open FileEngine (Arrival Document Flushes Memory SameLasting)

/-! ## The file beside the memory -/

/-- The file of a store says a document, which says what lasts of the store's memory. -/
structure Persists
    (folder : FilePath)
    (host : Host)
    (store : Store)
    (memory : Memory)
    (document : Document) : Prop where
  place : store.folder = folder
  keeping : store.keeping = .memory memory
  writable : Writable host.files folder
  written : host.files.node? (pathIn folder .jsonFile) = some (.file document.bytes)
  lasting : SameLasting document memory.document

section Persists

variable {host : Host} {store : Store} {memory : Memory} {document : Document}
  {folder : FilePath}

/-- What was written just now is all of the memory. -/
theorem persists_persist
    (opened : host.files.Opened store.folder)
    {answer : Answer}
    (persisted : (persist host store memory).outcome = .ok answer) :
    Persists store.folder (persist host store memory).host (persist host store memory).store
      memory memory.document where
  place := rfl
  keeping := rfl
  writable := .of_writeDocument opened (written_of_persisted persisted)
  written := node?_persist persisted
  lasting := .refl _

/-- What the operator is told does not change what the file says. -/
theorem Persists.notify
    (persists : Persists folder host store memory document)
    (notices : List Notice) :
    Persists folder (host.notify notices) store memory document where
  place := persists.place
  keeping := persists.keeping
  writable := persists.writable
  written := persists.written
  lasting := persists.lasting

/-- Every call is answered as the memory says, and the file goes on saying what lasts. -/
theorem Persists.perform
    (persists : Persists folder host store memory document)
    (call : Call) :
    (store.perform host call).outcome = (memory.perform call).outcome ∧
      ∃ after,
        Persists folder (store.perform host call).host (store.perform host call).store
          (memory.perform call).memory after ∧
        (Flushes call → ∀ answer, (store.perform host call).outcome = .ok answer →
          after = (memory.perform call).memory.document) := by
  obtain ⟨rfl, keeping, writable, written, lasting⟩ := persists
  rw [Store.perform, keeping]
  dsimp only [performInMemory]
  cases writes : (memory.perform call).writes with
  | true =>
      rw [if_pos rfl]
      have persisted := @Writable.persist (host.notify (memory.perform call).notices) store
        writable (memory.perform call).memory
      have kept := @persists_persist (host.notify (memory.perform call).notices) store
        (memory.perform call).memory writable.opened _ persisted.1
      exact ⟨persisted.1.trans (Memory.outcome_of_written writes).symm,
        (memory.perform call).memory.document, kept.notify _, fun _ _ _ => rfl⟩
  | false =>
      rw [if_neg Bool.false_ne_true]
      refine ⟨rfl, document, ⟨rfl, rfl, writable, written, ?_⟩, ?_⟩
      · exact lasting.trans (Memory.sameLasting_of_unwritten writes)
      · intro flushes answer succeeds
        rw [Memory.written_of_flushes flushes succeeds] at writes
        cases writes

/-- Opening the folder again starts with what the file says. -/
theorem Persists.reopen
    (persists : Persists folder host store memory document)
    (later : Arrival) :
    ∃ reopened, (openFile { host with arrival := later } folder).store = .ok reopened ∧
      reopened.keeping = .memory (document.memory.migrate later) := by
  have there := persists.written
  have loaded : ∃ notices, loadMemory { host with arrival := later } folder =
      .ok (document.memory.migrate later, notices) := by
    rw [loadMemory, Files.holds, Files.read]
    simp only [there, Option.isSome_some, ↓reduceIte, bind, Except.bind,
      Document.ofBytes?_bytes]
    exact ⟨_, rfl⟩
  obtain ⟨notices, loaded⟩ := loaded
  have created := persists.writable.opened.createFolders_eq
  have persisted := @Writable.persist (({ host with arrival := later } : Host).notify notices)
    { folder := folder
      keeping := .memory (document.memory.migrate later)
      locks := { sharedReads := false } }
    persists.writable (document.memory.migrate later)
  rw [openFile]
  dsimp only
  rw [created]
  dsimp only
  rw [loaded]
  dsimp only [Opening.ofReply]
  rw [persisted.1]
  exact ⟨_, rfl, rfl⟩

/-- Directly after opening the file says all of the memory. -/
theorem persists_openFile (opens : (openFile host folder).store = .ok store) :
    ∃ memory, Persists folder (openFile host folder).host store memory memory.document := by
  rw [openFile] at opens ⊢
  split at opens
  · cases opens
  · rename_i files created
    obtain ⟨_, opened⟩ := Files.addsFolders_of_createFolders created
    dsimp only at opens ⊢
    split at opens
    · cases opens
    · rename_i memory notices loaded
      obtain ⟨⟨answer, persisted⟩, rfl⟩ := ofReply_eq_ok opens
      exact ⟨memory, persists_persist opened persisted⟩

/-! ## Runs -/

/-- A host and a store on it after some calls. -/
def run (host : Host) (store : Store) (calls : List Call) : Host × Store :=
  calls.foldl
    (fun reached call =>
      let reply := reached.2.perform reached.1 call
      (reply.host, reply.store))
    (host, store)

theorem run_append (host : Host) (store : Store) (first second : List Call) :
    run host store (first ++ second) =
      run (run host store first).1 (run host store first).2 second :=
  List.foldl_append

/-- Over any run the file goes on saying what lasts of the memory. -/
theorem Persists.run
    (persists : Persists folder host store memory document)
    (calls : List Call) :
    ∃ after, Persists folder (run host store calls).1 (run host store calls).2
      (memory.run calls) after := by
  induction calls generalizing host store memory document with
  | nil => exact ⟨document, persists⟩
  | cons call rest inductionHypothesis =>
      obtain ⟨_, _, after, _⟩ := persists.perform call
      exact inductionHypothesis after

/-- No call was made yet, or the last one is to be written and succeeded. -/
def JustWritten (host : Host) (store : Store) (calls : List Call) : Prop :=
  calls = [] ∨
    ∃ earlier call answer, calls = earlier ++ [call] ∧ Flushes call ∧
      ((Store.run host store earlier).2.perform (Store.run host store earlier).1 call).outcome =
        .ok answer

/-- After a call that was written the file says all of the memory. -/
theorem Persists.run_of_justWritten
    (persists : Persists folder host store memory memory.document)
    {calls : List Call}
    (justWritten : JustWritten host store calls) :
    Persists folder (Store.run host store calls).1 (Store.run host store calls).2
      (memory.run calls) (memory.run calls).document := by
  rcases justWritten with rfl | ⟨earlier, call, answer, rfl, flushes, succeeds⟩
  · exact persists
  · obtain ⟨document, before⟩ := persists.run earlier
    obtain ⟨_, after, afterPersists, whole⟩ := before.perform call
    rw [whole flushes answer succeeds] at afterPersists
    rw [run_append, Memory.run, List.foldl_append]
    exact afterPersists

/-- A file says one document. -/
theorem Persists.document_eq
    {other : Document}
    (persists : Persists folder host store memory document)
    (again : Persists folder host store memory other) :
    document = other := by
  have bytes : document.bytes = other.bytes := by
    simpa using persists.written.symm.trans again.written
  have same := congrArg Document.ofBytes? bytes
  rwa [Document.ofBytes?_bytes, Document.ofBytes?_bytes, Option.some.injEq] at same

/--
A store of the file engine was opened, and calls were made on it. Every call is
answered as the memory says, so every write succeeds. The file can be decoded
and says the installation and the accounts of the memory, these up to what
peers report and when users logged in; directly after opening and after each
successful call that is to be written it says them exactly. Whenever the folder
is opened again, the store starts with what the migration makes of the file.
-/
theorem run_durable (opens : (openFile host folder).store = .ok store) :
    ∃ opened : Memory, store.keeping = .memory opened ∧
      ∀ calls : List Call,
        let reached := Store.run (openFile host folder).host store calls
        reached.2.keeping = .memory (opened.run calls) ∧
          (∀ call, (reached.2.perform reached.1 call).outcome =
            ((opened.run calls).perform call).outcome) ∧
          ∃ bytes document,
            reached.1.files.read (pathIn folder .jsonFile) = .ok bytes ∧
            Document.ofBytes? bytes = some document ∧
            document.installation = (opened.run calls).installation ∧
            document.accounts.mapValues (fun _ => Account.lasting) =
              (opened.run calls).accounts.mapValues (fun _ => Account.lasting) ∧
            (JustWritten (openFile host folder).host store calls →
              document.accounts = (opened.run calls).accounts) ∧
            ∀ later : Arrival, ∃ reopened,
              (openFile { reached.1 with arrival := later } folder).store = .ok reopened ∧
                reopened.keeping = .memory (document.memory.migrate later) := by
  obtain ⟨opened, start⟩ := persists_openFile opens
  refine ⟨opened, start.keeping, ?_⟩
  intro calls
  obtain ⟨document, persists⟩ := start.run calls
  refine ⟨persists.keeping, fun call => (persists.perform call).1, document.bytes, document, ?_,
    Document.ofBytes?_bytes document, persists.lasting.installation, persists.lasting.accounts,
    ?_, persists.reopen⟩
  · rw [Files.read, persists.written]
  · intro justWritten
    rw [persists.document_eq (start.run_of_justWritten justWritten)]
    rfl

end Persists

/-- A folder with a document from before settings. -/
def legacyHost : Host where
  files := { nodes := .ofList [
    ("/d", .folder),
    ("/d/store.json", .file ("\x7b\"accounts\":\x7b\"a\":\x7b\"id\":\"a\",\"peers\":" ++
      "\x7b\"p\":\x7b\"id\":\"p\"\x7d\x7d\x7d\x7d\x7d").toUTF8)] }
  arrival := { now := ⟨1⟩, newId := fun _ => "" }

/-- What the document says. -/
def legacyDocument : Document where
  accounts := .ofList [("a", { id := "a", peers := .ofList [("p", { id := "p" })] })]

/-- The store that is opened from it. -/
def legacyStore : Store where
  folder := "/d"
  keeping := .memory (legacyDocument.memory.migrate legacyHost.arrival)
  locks := { sharedReads := false }
  writes := 1

/-- A peer reports that it is connected, which the file says once the store is closed. -/
theorem run_durable_status :
    (openFile legacyHost "/d").store = .ok legacyStore ∧
      ∃ bytes document,
        (run (openFile legacyHost "/d").host legacyStore
          [.savePeerStatus "a" "p" { connected := true }, .close]).1.files.read
            (pathIn "/d" .jsonFile) = .ok bytes ∧
        Document.ofBytes? bytes = some document ∧
        ((document.accounts.get? "a").bind (fun account => account.peers.get? "p")).map
          (fun peer => peer.status.connected) = some true := by
  have opens : (openFile legacyHost "/d").store = .ok legacyStore := by decide +kernel
  obtain ⟨opened, keeping, after⟩ := run_durable opens
  obtain ⟨_, _, bytes, document, found, decoded, _, _, whole, _⟩ :=
    after [.savePeerStatus "a" "p" { connected := true }, .close]
  have justWritten : JustWritten (openFile legacyHost "/d").host legacyStore
      [.savePeerStatus "a" "p" { connected := true }, .close] :=
    .inr ⟨[.savePeerStatus "a" "p" { connected := true }], .close, .done, rfl, trivial,
      by decide +kernel⟩
  refine ⟨opens, bytes, document, found, decoded, ?_⟩
  cases keeping
  rw [whole justWritten]
  decide +kernel

end Store

end TenantStore
