import TenantStore.Proofs.FileEngine.Searches
import TenantStore.Proofs.Lookups

namespace TenantStore.FileEngine

/-!
# Accounts behind index entries

No run leaves an entry in an index that nothing stands behind: the account or
token that an entry leads to is stored, and the entry is one that it puts into
the index. This needs no condition on the accounts, because whatever goes or
changes gives up its own entries first.
-/

namespace Memory

/-- Behind every entry of an index stands an account that it is taken from. -/
structure Backed (memory : Memory) : Prop where
  accounts : ∀ {lookup : Lookup} {key id : String},
    (memory.indices.get lookup).get? key = some id →
      ∃ account,
        memory.accounts.get? id = some account ∧ key ∈ lookup.keysOf account
  tokens : ∀ {which : TokenIndex} {key value : String},
    (memory.tokenIndex which).get? key = some value →
      ∃ slot account,
        memory.accounts.get? slot = some account ∧
          (key, value) ∈ which.entriesOf account

theorem backed_empty : Memory.empty.Backed where
  accounts := by
    intro lookup key id found
    cases lookup <;> cases found
  tokens := by
    intro which key value found
    cases which <;> cases found

namespace Backed

variable {memory after : Memory}

/-- Taking entries out keeps the others backed. -/
theorem of_fewer
    (backed : memory.Backed)
    (sameAccounts : after.accounts = memory.accounts)
    (fewer : ∀ lookup key id,
      (after.indices.get lookup).get? key = some id →
        (memory.indices.get lookup).get? key = some id)
    (fewerHashes : ∀ hash token,
      after.tokenOfHash.get? hash = some token →
        memory.tokenOfHash.get? hash = some token)
    (fewerTokens : ∀ token user,
      after.userOfToken.get? token = some user →
        memory.userOfToken.get? token = some user) :
    after.Backed where
  accounts found := by
    rw [sameAccounts]
    exact backed.accounts (fewer _ _ _ found)
  tokens := by
    intro which key value found
    rw [sameAccounts]
    cases which with
    | byHash => exact @backed.tokens .byHash key value (fewerHashes _ _ found)
    | byToken => exact @backed.tokens .byToken key value (fewerTokens _ _ found)

theorem save
    (backed : memory.Backed)
    (filed : memory.Filed)
    (account : Account) :
    (memory.save account).Backed where
  accounts := by
    intro lookup key id found
    rw [index_save] at found
    split at found
    · rename_i claimed
      cases found
      exact ⟨account.normalized, by simp, claimed⟩
    · obtain ⟨before, spared⟩ := (index_drop_iff filed).mp found
      obtain ⟨stored, storedFound, listed⟩ := backed.accounts before
      have foreign : account.id ≠ id := by
        rintro rfl
        exact spared stored storedFound ⟨Lookup.mem_keysReleased listed, rfl⟩
      exact ⟨stored, by simp [foreign, storedFound], listed⟩
  tokens := by
    intro which key value found
    rw [tokenIndex_save] at found
    rcases mem_or_get?_of_addEntries found with added | ⟨_, kept⟩
    · exact ⟨account.id, account.normalized, by simp, added⟩
    · obtain ⟨before, spared⟩ := tokenIndex_drop_iff.mp kept
      obtain ⟨slot, stored, storedFound, listed⟩ := backed.tokens before
      have foreign : account.id ≠ slot := by
        rintro rfl
        exact spared stored storedFound listed
      exact ⟨slot, stored, by simp [foreign, storedFound], listed⟩

theorem delete
    (backed : memory.Backed)
    (filed : memory.Filed)
    (account : Account) :
    (memory.delete account).Backed where
  accounts := by
    intro lookup key id found
    obtain ⟨before, foreign⟩ := (index_delete_iff filed).mp found
    obtain ⟨stored, storedFound, listed⟩ := backed.accounts before
    exact ⟨stored, by simp [foreign.symm, storedFound], listed⟩
  tokens := by
    intro which key value found
    obtain ⟨before, spared, _⟩ := tokenIndex_delete_iff.mp found
    obtain ⟨slot, stored, storedFound, listed⟩ := backed.tokens before
    have foreign : account.id ≠ slot := by
      rintro rfl
      exact spared stored storedFound listed
    exact ⟨slot, stored, by simp [foreign, storedFound], listed⟩

/-- Every effect leaves what stands in the indices backed. -/
theorem effect
    (backed : memory.Backed)
    (filed : memory.Filed)
    {call : Call}
    (effect : Effect memory call after) :
    after.Backed := by
  cases effect with
  | kept => exact backed
  | saved account named => exact backed.save filed account
  | deleted account named => exact backed.delete filed account
  | touched stored same =>
      constructor
      · intro lookup key id found
        obtain ⟨account, accountFound, listed⟩ := backed.accounts found
        obtain ⟨later, laterFound, keysSame⟩ :=
          stored_of_touched stored same accountFound
        exact ⟨later, laterFound, (keysSame.keys lookup).symm ▸ listed⟩
      · intro which key value found
        obtain ⟨slot, account, accountFound, listed⟩ := backed.tokens found
        obtain ⟨later, laterFound, keysSame⟩ :=
          stored_of_touched stored same accountFound
        exact ⟨slot, later, laterFound, (keysSame.entriesOf which).symm ▸ listed⟩
  | healed lookup key stale asks =>
      exact backed.of_fewer rfl (fun _ _ _ => Indices.get?_of_get?_modify_erase)
        (fun _ _ found => found) (fun _ _ found => found)
  | healedHash hash stale =>
      exact backed.of_fewer rfl (fun _ _ _ found => found)
        (fun _ _ => Dict.get?_of_get?_erase) (fun _ _ found => found)
  | healedToken token stale =>
      exact backed.of_fewer rfl (fun _ _ _ found => found)
        (fun _ _ found => found) (fun _ _ => Dict.get?_of_get?_erase)
  | droppedHash hash =>
      exact backed.of_fewer rfl (fun _ _ _ found => found)
        (fun _ _ => Dict.get?_of_get?_erase) (fun _ _ found => found)
  | droppedToken token =>
      exact backed.of_fewer rfl (fun _ _ _ found => found)
        (fun _ _ found => found) (fun _ _ => Dict.get?_of_get?_erase)
  | installed id =>
      exact backed.of_fewer rfl (fun _ _ _ found => found)
        (fun _ _ found => found) (fun _ _ found => found)

end Backed

/-- In every state that a run reaches the index entries are backed. -/
theorem Reached.backed
    {permits : Memory → Call → Prop}
    {meets : Memory → Prop}
    {memory : Memory}
    (reached : Reached permits meets memory) :
    memory.Backed := by
  induction reached with
  | start => exact backed_empty
  | step call before permitted met inductionHypothesis =>
      exact inductionHypothesis.effect before.filed (perform_effect _ call)

end Memory

end TenantStore.FileEngine
