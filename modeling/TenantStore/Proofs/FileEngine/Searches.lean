import TenantStore.Proofs.FileEngine.Storing

namespace TenantStore.FileEngine

/-!
# What searches find

Each search is described by the index entry that it follows and by what the
account at its end has to hold. A search that finds nothing says so; it has
noticed something exactly when there was an entry to follow.
-/

namespace Memory

/-! ## Accounts -/

/-- An account is found if the index leads to it and it holds the key. -/
theorem follow_found_iff
    {memory : Memory}
    {lookup : Lookup}
    {key : String}
    {account : Account} :
    (memory.follow lookup key).found = .ok account ↔
      ∃ id,
        (memory.indices.get lookup).get? (lookup.normalize key) = some id ∧
          memory.accounts.get? id = some account ∧
          lookup.holds account key = true := by
  rw [follow_eq, searchChecked_found_iff]
  simp only [Option.filter_eq_some_iff]

/-- A search that finds no account says which key was missing. -/
theorem follow_found_cases (memory : Memory) (lookup : Lookup) (key : String) :
    (∃ account, (memory.follow lookup key).found = .ok account ∧
        (memory.follow lookup key).memory = memory ∧
        (memory.follow lookup key).notices = []) ∨
      (memory.follow lookup key).found =
        .error (.notFound lookup.subject key) := by
  rw [follow_eq]
  exact searchChecked_found_cases

/-- A search notices an entry whose account does not hold the key. -/
theorem follow_notices_iff
    {memory : Memory}
    {lookup : Lookup}
    {key : String} :
    (memory.follow lookup key).notices ≠ [] ↔
      ∃ id,
        (memory.indices.get lookup).get? (lookup.normalize key) = some id ∧
          ∀ account, memory.accounts.get? id = some account →
            lookup.holds account key = false := by
  rw [follow_eq, searchChecked_notices_iff]
  simp only [Option.filter_eq_none_iff, Bool.not_eq_true]

/-- A search that notices nothing leaves the memory as it is. -/
theorem follow_memory_of_notices_nil
    {memory : Memory}
    {lookup : Lookup}
    {key : String}
    (quiet : (memory.follow lookup key).notices = []) :
    (memory.follow lookup key).memory = memory := by
  rw [follow_eq] at quiet ⊢
  exact searchChecked_memory_of_quiet quiet

/-- A search that notices something drops the entry that it followed. -/
theorem follow_memory_of_noticed
    {memory : Memory}
    {lookup : Lookup}
    {key : String}
    (noticed : (memory.follow lookup key).notices ≠ []) :
    (memory.follow lookup key).memory =
      { memory with
        indices := memory.indices.modify lookup
          (·.erase (lookup.normalize key)) } := by
  rw [follow_eq] at noticed ⊢
  exact searchChecked_memory_of_noticed noticed

/-- Searching for an identifier finds that of the account found by the key. -/
theorem followId_found_iff
    {memory : Memory}
    (filed : memory.Filed)
    {lookup : Lookup}
    {key id : String} :
    (memory.followId lookup key).found = .ok id ↔
      ∃ account, (memory.follow lookup key).found = .ok account ∧
        account.id = id := by
  unfold followId
  constructor
  · intro found
    rcases follow_found_cases memory lookup key with ⟨account, ok, _⟩ | missing
    · refine ⟨account, ok, ?_⟩
      obtain ⟨owner, entry, stored, _⟩ := follow_found_iff.mp ok
      simp only [ok, Except.map, entry, Option.getD_some, Except.ok.injEq] at found
      rw [filed.id stored, found]
    · simp [missing, Except.map] at found
  · rintro ⟨account, ok, rfl⟩
    obtain ⟨owner, entry, stored, _⟩ := follow_found_iff.mp ok
    simp [ok, Except.map, entry, filed.id stored]

/-! ## Tokens -/

/-- The first user with a token holds it under a hash. -/
def HoldsHash (account : Account) (token hash : String) : Prop :=
  ∃ user held,
    account.userByToken? token = some user ∧
      user.tokens.get? token = some held ∧ held.hashedToken = hash

/-- A token that is held has an entry for its hash. -/
theorem HoldsHash.mem_hashEntries
    {account : Account}
    (normal : account.IsNormal)
    {token hash : String}
    (holds : HoldsHash account token hash) :
    (hash, token) ∈ hashEntries account := by
  obtain ⟨user, held, found, heldToken, sameHash⟩ := holds
  obtain ⟨id, stored⟩ := (Dict.find?_some found).1
  exact (mem_hashEntries_iff normal).mpr
    ⟨id, user, held, stored, heldToken, sameHash⟩

/-- A token is there if some account holds it with that hash. -/
theorem hasToken_iff {memory : Memory} {token hash : String} :
    memory.hasToken token hash = true ↔
      ∃ slot account,
        memory.accounts.get? slot = some account ∧
          HoldsHash account token hash := by
  rw [hasToken, Dict.any_iff]
  constructor
  · rintro ⟨slot, account, stored, holds⟩
    refine ⟨slot, account, stored, ?_⟩
    split at holds
    · rename_i held found
      obtain ⟨user, userFound, heldToken⟩ := Option.bind_eq_some_iff.mp found
      exact ⟨user, held, userFound, heldToken, by simpa using holds⟩
    · cases holds
  · rintro ⟨slot, account, stored, user, held, found, heldToken, sameHash⟩
    refine ⟨slot, account, stored, ?_⟩
    simp [found, heldToken, sameHash]

/-- A token is found if its hash leads to it and it still has that hash. -/
theorem tokenByHash_found_iff {memory : Memory} {hash token : String} :
    (memory.tokenByHash hash).found = .ok token ↔
      memory.tokenOfHash.get? hash = some token ∧
        memory.hasToken token hash = true := by
  rw [tokenByHash_eq, searchChecked_found_iff, ← Option.bind_eq_some_iff,
    Option.bind_guard, Option.filter_eq_some_iff]

/-- A token is found and nothing changes, or it is reported as missing. -/
theorem tokenByHash_found_cases (memory : Memory) (hash : String) :
    (∃ token, (memory.tokenByHash hash).found = .ok token ∧
        (memory.tokenByHash hash).memory = memory ∧
        (memory.tokenByHash hash).notices = []) ∨
      (memory.tokenByHash hash).found =
        .error (.notFound .hashedToken hash) := by
  rw [tokenByHash_eq]
  exact searchChecked_found_cases

/-- A search for a hash notices an entry that leads to no such token. -/
theorem tokenByHash_notices_iff {memory : Memory} {hash : String} :
    (memory.tokenByHash hash).notices ≠ [] ↔
      ∃ token,
        memory.tokenOfHash.get? hash = some token ∧
          memory.hasToken token hash = false := by
  rw [tokenByHash_eq, searchChecked_notices_iff]
  simp only [Option.guard_eq_none_iff]

/-! ## Users -/

/-- A user is known by the index if its account holds it. -/
theorem indexedUser?_eq_some_iff
    {memory : Memory}
    {id : String}
    {user : User} :
    memory.indexedUser? id = some user ↔
      ∃ slot account,
        (memory.indices.get .user).get? id = some slot ∧
          memory.accounts.get? slot = some account ∧
          account.users.get? id = some user := by
  simp only [indexedUser?, Indices.get, bind, Option.bind_eq_some_iff]
  constructor
  · rintro ⟨slot, entry, account, stored, found⟩
    exact ⟨slot, account, entry, stored, found⟩
  · rintro ⟨slot, account, entry, stored, found⟩
    exact ⟨slot, entry, account, stored, found⟩

/-- A user is found if the token leads to it and it still holds the token. -/
theorem userByToken_found_iff
    {memory : Memory}
    {token : String}
    {user : User} :
    (memory.userByToken token).found = .ok user ↔
      ∃ id,
        memory.userOfToken.get? token = some id ∧
          memory.indexedUser? id = some user ∧
          user.tokens.contains token = true := by
  rw [userByToken_eq, searchChecked_found_iff]
  simp only [Option.filter_eq_some_iff]

/-- A search for a token notices an entry that leads to no such user. -/
theorem userByToken_notices_iff {memory : Memory} {token : String} :
    (memory.userByToken token).notices ≠ [] ↔
      ∃ id,
        memory.userOfToken.get? token = some id ∧
          ∀ user, memory.indexedUser? id = some user →
            user.tokens.contains token = false := by
  rw [userByToken_eq, searchChecked_notices_iff]
  simp only [Option.filter_eq_none_iff, Bool.not_eq_true]

/-! ## Answers -/

/-- The answer to a lookup is what following the index finds. -/
theorem outcome_find_iff
    {memory : Memory}
    {lookup : Lookup}
    {key : String}
    {account : Account} :
    (memory.perform (.find lookup key)).outcome = .ok (.account account) ↔
      (memory.follow lookup key).found = .ok account := by
  show (memory.follow lookup key).found.map Answer.account = _ ↔ _
  cases (memory.follow lookup key).found <;> simp [Except.map]

/-- The answer is the identifier of the account that is found. -/
theorem outcome_idByPeerKey_iff
    {memory : Memory}
    (filed : memory.Filed)
    {key id : String} :
    (memory.perform (.idByPeerKey key)).outcome = .ok (.text id) ↔
      ∃ account, (memory.follow .peerKey key).found = .ok account ∧
        account.id = id := by
  rw [← followId_found_iff filed]
  show (memory.followId .peerKey key).found.map Answer.text = _ ↔ _
  cases (memory.followId .peerKey key).found <;> simp [Except.map]

/-- The answer is the token that is found. -/
theorem outcome_tokenByHash_iff {memory : Memory} {hash token : String} :
    (memory.perform (.tokenByHash hash)).outcome = .ok (.text token) ↔
      (memory.tokenByHash hash).found = .ok token := by
  show (memory.tokenByHash hash).found.map Answer.text = _ ↔ _
  cases (memory.tokenByHash hash).found <;> simp [Except.map]

/-- The answer is the user who is found. -/
theorem outcome_userByToken_iff
    {memory : Memory}
    {token : String}
    {user : User} :
    (memory.perform (.userByToken token)).outcome = .ok (.user user) ↔
      (memory.userByToken token).found = .ok user := by
  show (memory.userByToken token).found.map Answer.user = _ ↔ _
  cases (memory.userByToken token).found <;> simp [Except.map]

end Memory

end TenantStore.FileEngine
