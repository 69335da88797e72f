import TenantStore.Proofs.Accounts
import TenantStore.Proofs.FileEngine.CheckedSearches
import TenantStore.Proofs.FileEngine.IndexUpdates

namespace TenantStore.FileEngine

/-!
# Effects of calls on a memory

A call saves or deletes an account, touches an account without changing what
it is found by, removes one entry of an index, replaces the identifier of the
installation, or changes nothing. `Memory.perform_effect` sorts every call, so
that what all calls preserve is shown for these few effects.
-/

/-! ## Entries of the tokens of an account -/

namespace Memory

/-- The tokens of an account are those of its users. -/
theorem mem_tokensOf_iff {account : Account} {held : User × AccessToken} :
    held ∈ tokensOf account ↔
      ∃ id slot,
        account.users.get? id = some held.1 ∧
          held.1.tokens.get? slot = some held.2 := by
  simp only [tokensOf, List.mem_flatMap, List.mem_map, Dict.mem_values_iff]
  constructor
  · rintro ⟨user, ⟨id, found⟩, token, ⟨slot, heldToken⟩, rfl⟩
    exact ⟨id, slot, found, heldToken⟩
  · rintro ⟨id, slot, found, heldToken⟩
    exact ⟨held.1, ⟨id, found⟩, held.2, ⟨slot, heldToken⟩, rfl⟩

/-- The hash entries of an account in normal form are those of its tokens. -/
theorem mem_hashEntries_iff
    {account : Account}
    (normal : account.IsNormal)
    {hash token : String} :
    (hash, token) ∈ hashEntries account ↔
      ∃ id user held,
        account.users.get? id = some user ∧
          user.tokens.get? token = some held ∧ held.hashedToken = hash := by
  simp only [hashEntries, List.mem_map, mem_tokensOf_iff, Prod.mk.injEq]
  constructor
  · rintro ⟨⟨user, held⟩, ⟨id, slot, found, heldToken⟩, rfl, rfl⟩
    refine ⟨id, user, held, found, ?_, rfl⟩
    rw [normal.token_id found heldToken, heldToken]
  · rintro ⟨id, user, held, found, heldToken, sameHash⟩
    exact ⟨(user, held), ⟨id, token, found, heldToken⟩, sameHash,
      normal.token_id found heldToken⟩

/-- The token entries of an account in normal form are those of its users. -/
theorem mem_tokenEntries_iff
    {account : Account}
    (normal : account.IsNormal)
    {token id : String} :
    (token, id) ∈ tokenEntries account ↔
      ∃ user held,
        account.users.get? id = some user ∧
          user.tokens.get? token = some held := by
  simp only [tokenEntries, List.mem_map, mem_tokensOf_iff, Prod.mk.injEq]
  constructor
  · rintro ⟨⟨user, held⟩, ⟨slot, tokenSlot, found, heldToken⟩, rfl, rfl⟩
    refine ⟨user, held, ?_, ?_⟩
    · rw [normal.user_id found, found]
    · rw [normal.token_id found heldToken, heldToken]
  · rintro ⟨user, held, found, heldToken⟩
    exact ⟨(user, held), ⟨id, token, found, heldToken⟩,
      normal.token_id found heldToken, normal.user_id found⟩

end Memory

/-! ## Changes that no lookup sees -/

/-- The accounts are found by the same keys and hold the same tokens. -/
structure SameKeys (old new : Account) : Prop where
  id : new.id = old.id
  keys : ∀ lookup : Lookup, lookup.keysOf new = lookup.keysOf old
  hashes : Memory.hashEntries new = Memory.hashEntries old
  tokens : Memory.tokenEntries new = Memory.tokenEntries old
  normal : old.IsNormal → new.IsNormal

namespace SameKeys

protected theorem refl (account : Account) : SameKeys account account where
  id := rfl
  keys _ := rfl
  hashes := rfl
  tokens := rfl
  normal normal := normal

/-- Changing a peer apart from its identifier and key keeps every key. -/
theorem modifyPeer
    (account : Account)
    (id : String)
    {change : Peer → Peer}
    (sameId : ∀ peer, (change peer).id = peer.id)
    (sameKey : ∀ peer, (change peer).key = peer.key) :
    SameKeys account
      { account with peers := account.peers.modify id change } where
  id := rfl
  keys lookup := by
    cases lookup with
    | peerKey =>
        simp only [Lookup.keysOf, Dict.map_values_modify account.peers id sameKey]
    | peerId =>
        simp only [Lookup.keysOf, Dict.map_values_modify account.peers id sameId]
    | setupKey => rfl
    | user => rfl
    | privateDomain => rfl
  hashes := rfl
  tokens := rfl
  normal := fun normal => normal.modifyPeer id sameId

/-- Changing a user apart from its identifier and tokens keeps every key. -/
theorem modifyUser
    (account : Account)
    (id : String)
    {change : User → User}
    (sameId : ∀ user, (change user).id = user.id)
    (sameTokens : ∀ user, (change user).tokens = user.tokens) :
    SameKeys account
      { account with users := account.users.modify id change } where
  id := rfl
  keys lookup := by
    cases lookup with
    | user =>
        simp only [Lookup.keysOf, Dict.map_values_modify account.users id sameId]
    | setupKey => rfl
    | peerKey => rfl
    | peerId => rfl
    | privateDomain => rfl
  hashes := by
    simp only [Memory.hashEntries, Memory.tokensOf, List.map_flatMap,
      List.map_map]
    exact Dict.flatMap_values_modify account.users id
      (fun user => by simp [sameTokens user, Function.comp_def])
  tokens := by
    simp only [Memory.tokenEntries, Memory.tokensOf, List.map_flatMap,
      List.map_map]
    exact Dict.flatMap_values_modify account.users id
      (fun user => by simp [sameId user, sameTokens user, Function.comp_def])
  normal := fun normal => normal.modifyUser id sameId sameTokens

end SameKeys

/-! ## Effects -/

namespace Memory

/-- What a call can do to a memory. -/
inductive Effect (memory : Memory) : Call → Memory → Prop where
  | kept {call : Call} : Effect memory call memory
  | saved (account : Account) (named : account.id ≠ "") :
      Effect memory (.save account) (memory.save account)
  | deleted (account : Account) (named : account.id ≠ "") :
      Effect memory (.delete account) (memory.delete account)
  | touched {call : Call} {id : String} {old new : Account}
      (stored : memory.accounts.get? id = some old)
      (same : SameKeys old new) :
      Effect memory call
        { memory with accounts := memory.accounts.insert id new }
  | healed {call : Call} (lookup : Lookup) (key : String)
      (stale : (memory.follow lookup key).notices ≠ [])
      (asks : call = .find lookup key ∨
        call = .idByPeerKey key ∧ lookup = .peerKey) :
      Effect memory call
        { memory with
          indices := memory.indices.modify lookup
            (·.erase (lookup.normalize key)) }
  | healedHash (hash : String)
      (stale : (memory.tokenByHash hash).notices ≠ []) :
      Effect memory (.tokenByHash hash)
        { memory with tokenOfHash := memory.tokenOfHash.erase hash }
  | healedToken (token : String)
      (stale : (memory.userByToken token).notices ≠ []) :
      Effect memory (.userByToken token)
        { memory with userOfToken := memory.userOfToken.erase token }
  | droppedHash (hash : String) :
      Effect memory (.dropHashIndex hash)
        { memory with tokenOfHash := memory.tokenOfHash.erase hash }
  | droppedToken (token : String) :
      Effect memory (.dropTokenIndex token)
        { memory with userOfToken := memory.userOfToken.erase token }
  | installed (id : String) :
      Effect memory (.saveInstallation id) { memory with installation := id }

/-- A search leaves the memory alone, or removes the entry it followed. -/
theorem follow_memory (memory : Memory) (lookup : Lookup) (key : String) :
    (memory.follow lookup key).memory = memory ∨
      (memory.follow lookup key).notices ≠ [] ∧
        (memory.follow lookup key).memory =
          { memory with
            indices := memory.indices.modify lookup
              (·.erase (lookup.normalize key)) } := by
  rw [follow_eq]
  exact searchChecked_memory.imp_left And.left

/-- A search for a hash leaves the memory, or drops the entry of the hash. -/
theorem tokenByHash_memory (memory : Memory) (hash : String) :
    (memory.tokenByHash hash).memory = memory ∨
      (memory.tokenByHash hash).notices ≠ [] ∧
        (memory.tokenByHash hash).memory =
          { memory with tokenOfHash := memory.tokenOfHash.erase hash } := by
  rw [tokenByHash_eq]
  exact searchChecked_memory.imp_left And.left

/-- A search for a token leaves the memory, or drops the entry of the token. -/
theorem userByToken_memory (memory : Memory) (token : String) :
    (memory.userByToken token).memory = memory ∨
      (memory.userByToken token).notices ≠ [] ∧
        (memory.userByToken token).memory =
          { memory with userOfToken := memory.userOfToken.erase token } := by
  rw [userByToken_eq]
  exact searchChecked_memory.imp_left And.left

/-! ### Partial updates -/

/-- Change one account, if it has what the change is about. -/
def updateAccount
    (memory : Memory)
    (id : String)
    (lacking : Problem)
    (has : Account → Bool)
    (change : Account → Account) :
    Except Problem Memory :=
  match memory.accounts.get? id with
  | none => .error (.notFound .account id)
  | some account =>
      if has account then
        .ok { memory with accounts := memory.accounts.insert id (change account) }
      else
        .error lacking

/-- A peer is updated as a part of its account. -/
theorem updatePeer_eq
    (memory : Memory)
    (accountId id : String)
    (change : Peer → Peer) :
    memory.updatePeer accountId id change =
      memory.updateAccount accountId (.notFound .peer id) (·.peers.contains id)
        (fun account => { account with peers := account.peers.modify id change }) := by
  rw [updatePeer, account?, updateAccount]
  cases memory.accounts.get? accountId <;> rfl

/-- A user is updated as a part of its account. -/
theorem updateUser_eq
    (memory : Memory)
    (accountId id : String)
    (change : User → User) :
    memory.updateUser accountId id change =
      memory.updateAccount accountId (.notFound .user id) (·.users.contains id)
        (fun account => { account with users := account.users.modify id change }) := by
  rw [updateUser, account?, updateAccount]
  cases memory.accounts.get? accountId <;> rfl

/-- A partial update keeps the memory, or changes the account it names. -/
theorem update_updateAccount
    (memory : Memory)
    (id : String)
    (lacking : Problem)
    (has : Account → Bool)
    (change : Account → Account) :
    (memory.update (memory.updateAccount id lacking has change)).memory = memory ∨
      ∃ account,
        memory.accounts.get? id = some account ∧
          (memory.update (memory.updateAccount id lacking has change)).memory =
            { memory with
              accounts := memory.accounts.insert id (change account) } := by
  unfold updateAccount
  split
  · exact .inl rfl
  · rename_i account stored
    split
    · exact .inr ⟨account, stored, rfl⟩
    · exact .inl rfl

/-- Changing one account without changing its keys is one of the effects. -/
theorem updateAccount_effect
    (memory : Memory)
    (call : Call)
    (id : String)
    (lacking : Problem)
    (has : Account → Bool)
    {change : Account → Account}
    (sameKeys : ∀ account, SameKeys account (change account)) :
    Effect memory call
      (memory.update (memory.updateAccount id lacking has change)).memory := by
  rcases memory.update_updateAccount id lacking has change with
    kept | ⟨account, stored, touched⟩
  · rw [kept]
    exact .kept
  · rw [touched]
    exact .touched stored (sameKeys account)

/-- An update of a peer keeps or touches the memory. -/
theorem updatePeer_effect
    (memory : Memory)
    (call : Call)
    (accountId peerId : String)
    {change : Peer → Peer}
    (sameId : ∀ peer, (change peer).id = peer.id)
    (sameKey : ∀ peer, (change peer).key = peer.key) :
    Effect memory call
      (memory.update (memory.updatePeer accountId peerId change)).memory := by
  rw [updatePeer_eq]
  exact memory.updateAccount_effect call accountId _ _
    (fun account => .modifyPeer account peerId sameId sameKey)

/-- An update of a user keeps or touches the memory. -/
theorem updateUser_effect
    (memory : Memory)
    (call : Call)
    (accountId userId : String)
    {change : User → User}
    (sameId : ∀ user, (change user).id = user.id)
    (sameTokens : ∀ user, (change user).tokens = user.tokens) :
    Effect memory call
      (memory.update (memory.updateUser accountId userId change)).memory := by
  rw [updateUser_eq]
  exact memory.updateAccount_effect call accountId _ _
    (fun account => .modifyUser account userId sameId sameTokens)

/-- Every call has one of the effects. -/
theorem perform_effect (memory : Memory) (call : Call) :
    Effect memory call (memory.perform call).memory := by
  cases call with
  | save account =>
      simp only [perform]
      split
      · exact .kept
      · rename_i named
        exact .saved account (by simpa using named)
  | delete account =>
      simp only [perform]
      split
      · exact .kept
      · rename_i named
        exact .deleted account (by simpa using named)
  | get id => exact .kept
  | all => exact .kept
  | find lookup key =>
      show Effect memory _ (memory.follow lookup key).memory
      rcases follow_memory memory lookup key with same | ⟨stale, healed⟩
      · rw [same]
        exact .kept
      · rw [healed]
        exact .healed lookup key stale (.inl rfl)
  | idByPeerKey key =>
      show Effect memory _ (memory.follow .peerKey key).memory
      rcases follow_memory memory .peerKey key with same | ⟨stale, healed⟩
      · rw [same]
        exact .kept
      · rw [healed]
        exact .healed .peerKey key stale (.inr ⟨rfl, rfl⟩)
  | tokenByHash hash =>
      show Effect memory _ (memory.tokenByHash hash).memory
      rcases tokenByHash_memory memory hash with same | ⟨stale, healed⟩
      · rw [same]
        exact .kept
      · rw [healed]
        exact .healedHash hash stale
  | userByToken token =>
      show Effect memory _ (memory.userByToken token).memory
      rcases userByToken_memory memory token with same | ⟨stale, healed⟩
      · rw [same]
        exact .kept
      · rw [healed]
        exact .healedToken token stale
  | savePeerStatus account peer status =>
      exact updatePeer_effect memory _ account peer
        (fun _ => rfl) (fun _ => rfl)
  | savePeerLocation account peer location =>
      exact updatePeer_effect memory _ account peer
        (fun _ => rfl) (fun _ => rfl)
  | saveLastLogin account user time =>
      exact updateUser_effect memory _ account user
        (fun _ => rfl) (fun _ => rfl)
  | saveInstallation id => exact .installed id
  | installation => exact .kept
  | dropHashIndex hash => exact .droppedHash hash
  | dropTokenIndex token => exact .droppedToken token
  | close => exact .kept

end Memory

end TenantStore.FileEngine
