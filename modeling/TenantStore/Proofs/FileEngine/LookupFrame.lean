import TenantStore.Proofs.FileEngine.Searches

namespace TenantStore.FileEngine

/-!
# Lookups owned by other accounts

Saving or deleting an account should leave alone what other accounts are found
by. For the account indices it does, because an entry is only removed while it
leads to the account in question. The token indices do not know accounts: an
entry is removed as soon as the account that leaves lists the same token, even
if another account holds it by now. `others_lookups_kept_iff` says exactly
which answers survive.
-/

namespace Memory

/-- The accounts whose entries a call takes out of the indices. -/
def leaving (memory : Memory) : Call → List Account
  | .save account =>
      if account.id.isEmpty then [] else (memory.accounts.get? account.id).toList
  | .delete account =>
      if account.id.isEmpty then
        []
      else
        (memory.accounts.get? account.id).toList ++ [account]
  | _ => []

/-- The account whose entries a call puts into the indices. -/
def arriving : Call → List Account
  | .save account => if account.id.isEmpty then [] else [account.normalized]
  | _ => []

/-- A call that saves or deletes an account. -/
def Stores (call : Call) (account : Account) : Prop :=
  call = .save account ∨ call = .delete account

instance (call : Call) (account : Account) : Decidable (Stores call account) :=
  inferInstanceAs (Decidable (_ ∨ _))

section Stored

variable {memory : Memory} {call : Call} {account : Account}

/-- Storing an account changes no account of another identifier. -/
theorem Stores.accounts_other
    (stores : Stores call account)
    {slot : String}
    (foreign : slot ≠ account.id) :
    (memory.perform call).memory.accounts.get? slot = memory.accounts.get? slot := by
  have unlike : account.id ≠ slot := fun same => foreign same.symm
  rcases stores with rfl | rfl
  · simp only [perform]
    split
    · rfl
    · exact (accounts_save memory account slot).trans (if_neg unlike)
  · simp only [perform]
    split
    · rfl
    · exact (accounts_delete memory account slot).trans (if_neg unlike)

/-- The account under the identifier of the stored one is what has arrived. -/
theorem Stores.accounts_own
    (stores : Stores call account)
    (named : account.id ≠ "") :
    (memory.perform call).memory.accounts.get? account.id =
      (arriving call).head? := by
  rcases stores with rfl | rfl
  · simp [perform, arriving, named, written]
  · simp [perform, arriving, named, written]

/-- Entries of other accounts stay unless the arriving account claims them. -/
theorem Stores.index_iff
    (stores : Stores call account)
    (filed : memory.Filed)
    {lookup : Lookup}
    {key owner : String}
    (foreign : owner ≠ account.id) :
    ((memory.perform call).memory.indices.get lookup).get? key = some owner ↔
      (memory.indices.get lookup).get? key = some owner ∧
        ∀ new ∈ arriving call, key ∉ lookup.keysOf new := by
  rcases stores with rfl | rfl
  · by_cases named : account.id = ""
    · simp [perform, arriving, named, answer]
    · simp only [perform, arriving, String.isEmpty_iff, named, if_false, written,
        List.mem_singleton, forall_eq]
      rw [index_save]
      split
      · rename_i claimed
        simp only [Option.some.injEq, claimed, not_true_eq_false, and_false,
          iff_false]
        exact fun same => foreign same.symm
      · rename_i unclaimed
        rw [index_drop_iff filed]
        constructor
        · rintro ⟨found, _⟩
          exact ⟨found, unclaimed⟩
        · rintro ⟨found, _⟩
          exact ⟨found, fun _ _ both => foreign both.2⟩
  · by_cases named : account.id = ""
    · simp [perform, arriving, named, answer]
    · simp only [perform, arriving, String.isEmpty_iff, named, if_false, written,
        List.not_mem_nil, false_implies, implies_true, and_true]
      rw [index_delete_iff filed]
      exact ⟨And.left, fun found => ⟨found, foreign⟩⟩

/-- Entries of tokens stay unless an account that leaves lists them. -/
theorem Stores.tokenIndex_iff
    (stores : Stores call account)
    (which : TokenIndex)
    {key value : String}
    (absent : ∀ new ∈ arriving call, key ∉ (which.entriesOf new).map Prod.fst) :
    ((memory.perform call).memory.tokenIndex which).get? key = some value ↔
      (memory.tokenIndex which).get? key = some value ∧
        ∀ gone ∈ memory.leaving call, (key, value) ∉ which.entriesOf gone := by
  rcases stores with rfl | rfl
  · by_cases named : account.id = ""
    · simp [perform, leaving, named, answer]
    · simp only [perform, leaving, arriving, String.isEmpty_iff, named, if_false,
        written, List.mem_singleton, forall_eq] at absent ⊢
      rw [tokenIndex_save, get?_addEntries_of_absent absent, tokenIndex_drop_iff]
      simp
  · by_cases named : account.id = ""
    · simp [perform, leaving, named, answer]
    · simp only [perform, leaving, String.isEmpty_iff, named, if_false, written]
      rw [tokenIndex_delete_iff]
      simp [or_imp, forall_and]

/-- An account without an identifier is neither saved nor deleted. -/
theorem Stores.unnamed
    (memory : Memory)
    (stores : Stores call account)
    (unnamed : account.id = "") :
    (memory.perform call).memory = memory ∧
      arriving call = [] ∧ memory.leaving call = [] := by
  rcases stores with rfl | rfl
  · simp [perform, arriving, leaving, unnamed, answer]
  · simp [perform, arriving, leaving, unnamed, answer]

/-- The stored account of the same identifier leaves. -/
theorem Stores.mem_leaving
    (stores : Stores call account)
    (named : account.id ≠ "")
    {stored : Account}
    (found : memory.accounts.get? account.id = some stored) :
    stored ∈ memory.leaving call := by
  rcases stores with rfl | rfl
  · simp [leaving, named, found]
  · simp [leaving, named, found]

/-- What arrives is the saved account in normal form. -/
theorem Stores.of_mem_arriving
    (stores : Stores call account)
    {new : Account}
    (member : new ∈ arriving call) :
    account.id ≠ "" ∧ call = .save account ∧ new = account.normalized := by
  rcases stores with rfl | rfl
  · by_cases unnamed : account.id = ""
    · simp [arriving, unnamed] at member
    · simp only [arriving, String.isEmpty_iff, unnamed, if_false,
        List.mem_singleton] at member
      exact ⟨unnamed, rfl, member⟩
  · simp [arriving] at member

/-! ## The answers that survive -/

/-- A lookup keeps answering another account unless the new one claims its key. -/
theorem Stores.follow_kept_iff
    (stores : Stores call account)
    (filed : memory.Filed)
    {lookup : Lookup}
    {key : String}
    {other : Account}
    (foreign : other.id ≠ account.id)
    (found : (memory.follow lookup key).found = .ok other) :
    ((memory.perform call).memory.follow lookup key).found = .ok other ↔
      ∀ new ∈ arriving call, lookup.normalize key ∉ lookup.keysOf new := by
  obtain ⟨owner, entry, stored, holds⟩ := follow_found_iff.mp found
  have ownerForeign : owner ≠ account.id := filed.id stored ▸ foreign
  rw [follow_found_iff]
  constructor
  · rintro ⟨newOwner, newEntry, newStored, _⟩
    have sameOwner : newOwner = owner := by
      rw [← (filed.perform call).id newStored, filed.id stored]
    rw [sameOwner, stores.index_iff filed ownerForeign] at newEntry
    exact newEntry.2
  · intro unclaimed
    exact ⟨owner, (stores.index_iff filed ownerForeign).mpr ⟨entry, unclaimed⟩,
      (stores.accounts_other ownerForeign).trans stored, holds⟩

theorem Stores.idByPeerKey_kept_iff
    (stores : Stores call account)
    (filed : memory.Filed)
    {key id : String}
    (foreign : id ≠ account.id)
    (found : (memory.perform (.idByPeerKey key)).outcome = .ok (.text id)) :
    ((memory.perform call).memory.perform (.idByPeerKey key)).outcome =
        .ok (.text id) ↔
      ∀ new ∈ arriving call, key ∉ Lookup.peerKey.keysOf new := by
  have afterFiled := filed.perform call
  obtain ⟨other, otherFound, rfl⟩ := (outcome_idByPeerKey_iff filed).mp found
  have kept := stores.follow_kept_iff filed foreign otherFound
  rw [outcome_idByPeerKey_iff afterFiled]
  constructor
  · rintro ⟨later, laterFound, sameId⟩
    obtain ⟨slot, _, stored, _⟩ := follow_found_iff.mp otherFound
    obtain ⟨laterSlot, _, laterStored, _⟩ := follow_found_iff.mp laterFound
    have slotsSame : laterSlot = slot := by
      rw [← afterFiled.id laterStored, sameId, filed.id stored]
    have slotForeign : slot ≠ account.id := filed.id stored ▸ foreign
    rw [slotsSame, stores.accounts_other slotForeign, stored,
      Option.some.injEq] at laterStored
    exact kept.mp (laterStored ▸ laterFound)
  · intro unclaimed
    exact ⟨other, kept.mpr unclaimed, rfl⟩

/-- A hash keeps leading to its token unless an account that leaves lists both. -/
theorem Stores.tokenByHash_kept_iff
    (stores : Stores call account)
    (filed : memory.Filed)
    {hash token : String}
    (absent : ∀ new ∈ arriving call, hash ∉ (hashEntries new).map Prod.fst)
    (found : (memory.tokenByHash hash).found = .ok token) :
    ((memory.perform call).memory.tokenByHash hash).found = .ok token ↔
      ∀ gone ∈ memory.leaving call, (hash, token) ∉ hashEntries gone := by
  by_cases unnamed : account.id = ""
  · obtain ⟨same, _, none⟩ := stores.unnamed memory unnamed
    simp [same, none, found]
  obtain ⟨entry, live⟩ := tokenByHash_found_iff.mp found
  have entryIff :
      (memory.perform call).memory.tokenOfHash.get? hash = some token ↔
        memory.tokenOfHash.get? hash = some token ∧
          ∀ gone ∈ memory.leaving call, (hash, token) ∉ hashEntries gone :=
    stores.tokenIndex_iff .byHash absent
  rw [tokenByHash_found_iff, entryIff]
  constructor
  · rintro ⟨⟨_, spared⟩, _⟩
    exact spared
  · intro spared
    refine ⟨⟨entry, spared⟩, ?_⟩
    obtain ⟨slot, holder, stored, holds⟩ := hasToken_iff.mp live
    have foreign : slot ≠ account.id := by
      intro same
      exact spared holder (stores.mem_leaving unnamed (same ▸ stored))
        (holds.mem_hashEntries (filed.normal stored))
    exact hasToken_iff.mpr
      ⟨slot, holder, (stores.accounts_other foreign).trans stored, holds⟩

/--
A token keeps leading to its user unless an account that leaves lists both, or
the account that arrives claims the user.
-/
theorem Stores.userByToken_kept_iff
    (stores : Stores call account)
    (filed : memory.Filed)
    {token : String}
    {user : User}
    (absent : ∀ new ∈ arriving call, token ∉ (tokenEntries new).map Prod.fst)
    (found : (memory.userByToken token).found = .ok user) :
    ((memory.perform call).memory.userByToken token).found = .ok user ↔
      (∀ gone ∈ memory.leaving call, (token, user.id) ∉ tokenEntries gone) ∧
        ∀ new ∈ arriving call, user.id ∉ Lookup.user.keysOf new := by
  by_cases unnamed : account.id = ""
  · obtain ⟨same, nothing, none⟩ := stores.unnamed memory unnamed
    simp [same, nothing, none, found]
  obtain ⟨id, entry, indexed, contains⟩ := userByToken_found_iff.mp found
  obtain ⟨slot, holder, owned, stored, userFound⟩ :=
    indexedUser?_eq_some_iff.mp indexed
  obtain ⟨held, heldToken⟩ := Dict.contains_iff.mp contains
  have idSame : user.id = id := (filed.normal stored).user_id userFound
  have listed : (token, id) ∈ tokenEntries holder :=
    (mem_tokenEntries_iff (filed.normal stored)).mpr
      ⟨user, held, userFound, heldToken⟩
  have entryIff : ∀ {user},
      (memory.perform call).memory.userOfToken.get? token = some user ↔
        memory.userOfToken.get? token = some user ∧
          ∀ gone ∈ memory.leaving call, (token, user) ∉ tokenEntries gone :=
    stores.tokenIndex_iff .byToken absent
  rw [idSame, userByToken_found_iff]
  constructor
  · rintro ⟨newId, newEntry, newIndexed, _⟩
    obtain ⟨oldEntry, spared⟩ := entryIff.mp newEntry
    have sameId : newId = id := by
      rw [entry, Option.some.injEq] at oldEntry
      exact oldEntry.symm
    subst sameId
    refine ⟨spared, ?_⟩
    intro new arrived claimed
    -- The new account would answer for the user, and it has no such token.
    obtain ⟨newSlot, newHolder, newOwned, newStored, newUser⟩ :=
      indexedUser?_eq_some_iff.mp newIndexed
    obtain ⟨_, rfl, rfl⟩ := stores.of_mem_arriving arrived
    have slotSame : newSlot = account.id := by
      simp only [perform, String.isEmpty_iff, unnamed, if_false, written,
        index_save, claimed, if_true, Option.some.injEq] at newOwned
      exact newOwned.symm
    rw [slotSame, stores.accounts_own unnamed] at newStored
    have holderSame : newHolder = account.normalized := by
      simpa [arriving, unnamed] using newStored.symm
    have newListed : (token, newId) ∈ tokenEntries account.normalized :=
      (mem_tokenEntries_iff (Account.isNormal_normalized account)).mpr
        ⟨user, held, holderSame ▸ newUser, heldToken⟩
    exact absent _ arrived
      (List.mem_map.mpr ⟨(token, newId), newListed, rfl⟩)
  · rintro ⟨spared, unclaimed⟩
    have foreign : slot ≠ account.id := by
      intro same
      exact spared holder (stores.mem_leaving unnamed (same ▸ stored)) listed
    refine ⟨id, entryIff.mpr ⟨entry, spared⟩, ?_, contains⟩
    exact indexedUser?_eq_some_iff.mpr
      ⟨slot, holder, (stores.index_iff filed foreign).mpr ⟨owned, unclaimed⟩,
        (stores.accounts_other foreign).trans stored, userFound⟩

end Stored

/--
What saving or deleting an account does, after any run, to lookups that another
account answered: an account is found as before unless the account that arrives
is found by the same key. A token whose key the arriving account does not list
is found as before unless an account that leaves lists it with the same hash or
user, or the arriving account claims its user.
-/
theorem others_lookups_kept_iff
    {start : Memory}
    (filed : start.Filed)
    (calls : List Call)
    {call : Call}
    {account : Account}
    (stores : Stores call account) :
    let memory := start.run calls
    let after := (memory.perform call).memory
    (∀ lookup key other,
        other.id ≠ account.id →
        (memory.perform (.find lookup key)).outcome = .ok (.account other) →
        ((after.perform (.find lookup key)).outcome = .ok (.account other) ↔
          ∀ new ∈ arriving call, lookup.normalize key ∉ lookup.keysOf new)) ∧
      (∀ key id,
        id ≠ account.id →
        (memory.perform (.idByPeerKey key)).outcome = .ok (.text id) →
        ((after.perform (.idByPeerKey key)).outcome = .ok (.text id) ↔
          ∀ new ∈ arriving call, key ∉ Lookup.peerKey.keysOf new)) ∧
      (∀ hash token,
        (∀ new ∈ arriving call, hash ∉ (hashEntries new).map Prod.fst) →
        (memory.perform (.tokenByHash hash)).outcome = .ok (.text token) →
        ((after.perform (.tokenByHash hash)).outcome = .ok (.text token) ↔
          ∀ gone ∈ memory.leaving call, (hash, token) ∉ hashEntries gone)) ∧
      (∀ token user,
        (∀ new ∈ arriving call, token ∉ (tokenEntries new).map Prod.fst) →
        (memory.perform (.userByToken token)).outcome = .ok (.user user) →
        ((after.perform (.userByToken token)).outcome = .ok (.user user) ↔
          (∀ gone ∈ memory.leaving call, (token, user.id) ∉ tokenEntries gone) ∧
            ∀ new ∈ arriving call, user.id ∉ Lookup.user.keysOf new)) := by
  intro memory after
  have memoryFiled : memory.Filed := filed.run calls
  refine ⟨?_, ?_, ?_, ?_⟩
  · intro lookup key other foreign found
    rw [outcome_find_iff] at found ⊢
    exact stores.follow_kept_iff memoryFiled foreign found
  · intro key id foreign found
    exact stores.idByPeerKey_kept_iff memoryFiled foreign found
  · intro hash token absent found
    rw [outcome_tokenByHash_iff] at found ⊢
    exact stores.tokenByHash_kept_iff memoryFiled absent found
  · intro token user absent found
    rw [outcome_userByToken_iff] at found ⊢
    exact stores.userByToken_kept_iff memoryFiled absent found

/-! ### A user that moves with its token -/

/-- A user with one token. -/
def roamingUser : User where
  id := "u"
  tokens := .ofList [("t", { id := "t", userId := "u", hashedToken := "h" })]

/-- An account with the user. -/
def homeOfRoamingUser (id : String) : Account where
  id := id
  users := .ofList [("u", roamingUser)]

/--
The user is saved into a second account before it is taken out of the first
one. It is still found through the second account, but its token no longer is.
-/
theorem others_lookups_kept_iff_roaming :
    let memory :=
      empty.run [.save (homeOfRoamingUser "a"), .save (homeOfRoamingUser "b")]
    let after := (memory.perform (.save { id := "a" })).memory
    empty.Filed ∧ Stores (.save { id := "a" }) { id := "a" } ∧
      (after.perform (.find .user "u")).outcome =
          .ok (.account (homeOfRoamingUser "b")) ∧
      (memory.perform (.tokenByHash "h")).outcome = .ok (.text "t") ∧
      (after.perform (.tokenByHash "h")).outcome ≠ .ok (.text "t") ∧
      (memory.perform (.userByToken "t")).outcome = .ok (.user roamingUser) ∧
      (after.perform (.userByToken "t")).outcome ≠ .ok (.user roamingUser) := by
  intro memory after
  have stores : Stores (.save { id := "a" }) { id := "a" } := .inl rfl
  obtain ⟨accounts, _, hashes, tokens⟩ := others_lookups_kept_iff filed_empty
    [.save (homeOfRoamingUser "a"), .save (homeOfRoamingUser "b")] stores
  refine ⟨filed_empty, stores, ?_, rfl, ?_, rfl, ?_⟩
  · exact (accounts .user "u" (homeOfRoamingUser "b") (by decide) rfl).mpr
      (by decide)
  · rw [ne_eq, hashes "h" "t" (by decide) rfl]
    decide
  · rw [ne_eq, tokens "t" roamingUser (by decide) rfl]
    decide

end Memory

end TenantStore.FileEngine
