import TenantStore.Proofs.FileEngine.Rebuilding
import TenantStore.Proofs.Store.EmptyFolders
import TenantStore.Proofs.TableEngine.FilledAccounts

namespace TenantStore.Store

/-!
# To a database and back

Accounts that a database can keep as they are (`Portable`) are copied from a
file into a new database and from there into a new file. The store of the new
file has the accounts and the installation of the first one, and its indices
are made from these accounts alone (`tablesFrom_fileFrom`).
-/

open FileEngine (Memory)
open TableEngine (DistinctKeys Fits Represents RulesFiled contentsOf entitiesOf loadAll numbersOf)
open Relational (Database)

/-- Accounts that a database keeps as they are. -/
structure Portable (memory : Memory) : Prop where
  filed : memory.accounts.FiledBy Account.id
  named : ∀ account ∈ memory.accounts.values, account.id ≠ ""
  normal : ∀ account ∈ memory.accounts.values, account.IsNormal
  /-- No two entities of a kind share an identifier, in whichever accounts they are. -/
  identifiers : DistinctKeys memory.accounts.values
  addresses : ∀ account ∈ memory.accounts.values, (account.peers.values.map Peer.ip).Nodup
  rules : ∀ account ∈ memory.accounts.values, RulesFiled account
  numbers : ∀ account ∈ memory.accounts.values, ∀ kind, ∀ value ∈ entitiesOf kind account,
    ∀ number ∈ numbersOf kind value, number.toNat < 0x8000000000000000

namespace Portable

variable {memory : Memory}

theorem fits (portable : Portable memory) : ∀ account ∈ memory.all, Fits account := by
  rw [Memory.all_eq_values portable.filed]
  intro account member
  refine ⟨?_, ?_, portable.addresses account member⟩
  · simpa using portable.named account member
  · rw [portable.normal account member]
    exact portable.numbers account member

/-- The identifiers of the accounts ascend. -/
theorem ordered (portable : Portable memory) :
    (memory.all.map Account.id).Pairwise (fun left right => left ≤ right) := by
  rw [Memory.all_eq_values portable.filed, portable.filed.map_values_eq_keys]
  exact memory.accounts.pairwise_lt_keys.imp Std.le_of_lt

/-- A database that the accounts were saved into loads them as they were. -/
theorem loadAll_eq
    (portable : Portable memory)
    {db : Database}
    {installation : Option String}
    (represents : Represents db (.savedAll (fun _ => []) memory.all) installation) :
    loadAll db = .ok memory.all := by
  have values := Memory.all_eq_values portable.filed
  have distinct : DistinctKeys memory.all := values ▸ portable.identifiers
  have normal : ∀ account ∈ memory.all, account.IsNormal := values ▸ portable.normal
  have filled := @TableEngine.savedAll_contentsOf [] memory.all distinct normal
  have empty : contentsOf [] = fun _ => [] := rfl
  rw [empty, List.nil_append] at filled
  rw [filled] at represents
  exact represents.loadAll_contentsOf distinct normal (values ▸ portable.rules) portable.ordered

end Portable

/--
A conversion to a database in an empty folder succeeds, and so does one from
there to a file in another empty folder. The new store has the same accounts
and the same installation. Its indices are those that follow from the accounts,
whatever those of the first store were; where accounts share no keys, they lead
from every key just to where it is held.
-/
theorem tablesFrom_fileFrom
    {host : Host}
    {source : Store}
    {memory : Memory}
    {folder other : FilePath}
    (keeping : source.keeping = .memory memory)
    (portable : Portable memory)
    (empty : host.files.EmptyFolder folder)
    (otherEmpty : host.files.EmptyFolder other) :
    ∃ tables target restored,
      (tablesFrom host source folder).store = .ok tables ∧
      (fileFrom (tablesFrom host source folder).host tables other).store = .ok target ∧
      target.keeping = .memory restored ∧
      restored.accounts = memory.accounts ∧
      restored.installation = memory.installation ∧
      restored = .ofAccounts memory.accounts memory.installation ∧
      ((∀ lookup, memory.KeysApart lookup) → memory.TokensApart → restored.Exact) := by
  have absent := empty.nothing _ (isPlain_fileName .sqlite)
  have shows := @view_of_memory host source memory keeping
  obtain ⟨tables, fills⟩ := tablesFrom_ok keeping portable.fits empty.opened (.inl absent)
  obtain ⟨db, installation, serves, represents, same⟩ :=
    holdsJust_tablesFrom keeping shows (.inl absent) fills
  have tablesShow : tables.view (tablesFrom host source folder).host =
      .ok { engine := .sqlite, accounts := memory.all, installation := memory.installation } := by
    rw [serves.view_eq, tablesView, portable.loadAll_eq represents, represents.installation_eq,
      same]
    rfl
  obtain ⟨writable, noDocument⟩ :=
    Writable.of_tables (tablesFrom_changesOnly empty.opened) absent otherEmpty
  obtain ⟨target, makes, kept⟩ := writable.fileFrom noDocument tablesShow
  rw [Memory.all_eq_values portable.filed, Memory.load_eq_ofAccounts portable.filed] at kept
  exact ⟨tables, target, _, fills, makes, kept, rfl, rfl, rfl, Memory.exact_ofAccounts⟩

/-- An account with an entity of every kind. -/
def fullAccount : Account where
  id := "a"
  setupKeys := .ofList [("KEY", { id := "k", key := "KEY" })]
  peers := .ofList [("p", { id := "p", key := "public" })]
  users := .ofList [("u", { id := "u", tokens := .ofList [
    ("t", { id := "t", userId := "u", hashedToken := "h" })] })]
  groups := .ofList [("g", { id := "g", peers := ["p"] })]
  policies := [{ id := "o", rules := [{ id := "r", policyId := "o" }] }]
  routes := .ofList [("w", { id := "w", peer := "p" })]
  nameServerGroups := .ofList [("n", { id := "n" })]

/-- A memory whose indices were lost. -/
def unindexedMemory : Memory where
  accounts := .ofList [("a", fullAccount)]
  installation := "i"

/-- Two folders with nothing in them. -/
def foldersHost : Host where
  files := { nodes := .ofList [("/d", .folder), ("/e", .folder)] }
  arrival := { now := ⟨0⟩, newId := fun _ => "" }

theorem emptyFolder_foldersHost
    {folder : FilePath}
    (listed : folder ∈ ["/d", "/e"]) :
    foldersHost.files.EmptyFolder folder where
  opened := by
    have created : ∀ folder ∈ ["/d", "/e"],
        foldersHost.files.createFolders folder = .ok foldersHost.files := by
      decide +kernel
    exact (Files.addsFolders_of_createFolders (created folder listed)).2
  nothing := by
    intro name plain
    have located : ∀ folder ∈ ["/d", "/e"],
        (FilePath.before (foldersHost.files.locate folder)).length = 3 := by
      decide +kernel
    have entries : foldersHost.files.nodes.entries = [("/d", .folder), ("/e", .folder)] := by
      decide +kernel
    rw [Files.node?_join _ _ plain]
    cases found : foldersHost.files.nodes.get?
        (FilePath.ofParts (foldersHost.files.locate folder ++ [name])) with
    | none => rfl
    | some node =>
        have entry := Dict.get?_eq_some_iff.mp found
        rw [entries] at entry
        have lengths : ∀ entry ∈ [("/d", FileNode.folder), ("/e", .folder)],
            entry.1.length = 2 := by
          decide
        have short := lengths _ entry
        rw [FilePath.ofParts_concat, String.length_append, located folder listed] at short
        omega

theorem portable_unindexedMemory : Portable unindexedMemory := by
  have values : unindexedMemory.accounts.values = [fullAccount] := by decide +kernel
  refine ⟨?_, ?_, ?_, ?_, ?_, ?_, ?_⟩
  · intro slot account found
    have entry := Dict.get?_eq_some_iff.mp found
    have entries : unindexedMemory.accounts.entries = [("a", fullAccount)] := by decide +kernel
    rw [entries, List.mem_singleton] at entry
    cases entry
    rfl
  · decide +kernel
  · rw [values, List.forall_mem_singleton]
    change fullAccount.normalized = fullAccount
    decide +kernel
  · intro kind
    revert kind
    decide +kernel
  · decide +kernel
  · decide +kernel
  · decide +kernel

/-- A store of the memory whose indices were lost. -/
def unindexedStore : Store where
  folder := "/s"
  keeping := .memory unindexedMemory
  locks := { sharedReads := false }

/-- The account comes back with the user under its identifier in the index. -/
theorem tablesFrom_fileFrom_full :
    unindexedStore.keeping = .memory unindexedMemory ∧ Portable unindexedMemory ∧
      foldersHost.files.EmptyFolder "/d" ∧ foldersHost.files.EmptyFolder "/e" ∧
      ∃ tables target restored,
        (tablesFrom foldersHost unindexedStore "/d").store = .ok tables ∧
        (fileFrom (tablesFrom foldersHost unindexedStore "/d").host tables "/e").store =
          .ok target ∧
        target.keeping = .memory restored ∧
        restored.accounts.get? "a" = some fullAccount ∧ restored.installation = "i" ∧
        (restored.indices.get .user).get? "u" = some "a" ∧
        restored.tokenOfHash.get? "h" = some "t" := by
  have empty : foldersHost.files.EmptyFolder "/d" := emptyFolder_foldersHost (by decide)
  have otherEmpty : foldersHost.files.EmptyFolder "/e" := emptyFolder_foldersHost (by decide)
  obtain ⟨tables, target, restored, fills, makes, kept, accounts, installation, _, exactly⟩ :=
    @tablesFrom_fileFrom foldersHost unindexedStore unindexedMemory "/d" "/e" rfl
      portable_unindexedMemory empty otherEmpty
  have keysApart : ∀ lookup, unindexedMemory.KeysApart lookup := by
    intro lookup
    cases lookup <;> decide +kernel
  have exactness := exactly keysApart (by decide +kernel)
  have stored : restored.accounts.get? "a" = some fullAccount := by
    rw [accounts]
    decide +kernel
  refine ⟨rfl, portable_unindexedMemory, empty, otherEmpty, tables, target, restored, fills, makes,
    kept, stored, installation, exactness.index_iff.mpr ⟨fullAccount, stored, by decide +kernel⟩,
    ?_⟩
  exact exactness.tokensComplete .byHash stored (by decide +kernel)

end TenantStore.Store
