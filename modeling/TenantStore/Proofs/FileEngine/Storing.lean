import TenantStore.Proofs.FileEngine.Effects

namespace TenantStore.FileEngine

/-!
# Saving and deleting, entry by entry

Saving takes the stored account of the same identifier out of the indices and
enters the new one; deleting takes out the stored account and the one that is
given. The lemmas say for every entry of every index whether it is there
afterwards.
-/

/-! ## The token indices -/

/-- The two indices of tokens. -/
inductive TokenIndex where
  /-- Hashes to tokens. -/
  | byHash
  /-- Tokens to users. -/
  | byToken
  deriving Repr, DecidableEq

namespace TokenIndex

/-- The entry of a token that a user holds. -/
def entry : TokenIndex → User × AccessToken → String × String
  | .byHash, (_, token) => (token.hashedToken, token.id)
  | .byToken, (user, token) => (token.id, user.id)

/-- The entries that an account puts into an index of tokens. -/
def entriesOf : TokenIndex → Account → List (String × String)
  | .byHash, account => Memory.hashEntries account
  | .byToken, account => Memory.tokenEntries account

/-- Each token has one entry in each of the two indices. -/
theorem entriesOf_eq (which : TokenIndex) (account : Account) :
    which.entriesOf account = (Memory.tokensOf account).map which.entry := by
  cases which <;> rfl

end TokenIndex

/-- Accounts with the same keys have the same entries for tokens. -/
theorem SameKeys.entriesOf
    {old new : Account}
    (same : SameKeys old new)
    (which : TokenIndex) :
    which.entriesOf new = which.entriesOf old := by
  cases which with
  | byHash => exact same.hashes
  | byToken => exact same.tokens

namespace Memory

/-- An index of tokens. -/
def tokenIndex (memory : Memory) : TokenIndex → Dict String
  | .byHash => memory.tokenOfHash
  | .byToken => memory.userOfToken

/-! ## Accounts in their places -/

/-- Every account is filed under its own identifier and in normal form. -/
structure Filed (memory : Memory) : Prop where
  id : ∀ {slot account},
    memory.accounts.get? slot = some account → account.id = slot
  normal : ∀ {slot account},
    memory.accounts.get? slot = some account → account.IsNormal

theorem filed_empty : Memory.empty.Filed where
  id found := by simp [Memory.empty] at found; cases found
  normal found := by simp [Memory.empty] at found; cases found

/-! ## Accounts after a call -/

theorem accounts_drop (memory : Memory) (id slot : String) :
    (memory.drop id).accounts.get? slot =
      if id = slot then none else memory.accounts.get? slot := by
  unfold drop
  split
  · rename_i absent
    by_cases same : id = slot
    · rw [if_pos same, ← same, absent]
    · rw [if_neg same]
  · exact Dict.get?_erase memory.accounts id slot

/-- A saved account is found in its normal form, and every other one as before. -/
@[simp] theorem accounts_save (memory : Memory) (account : Account) (slot : String) :
    (memory.save account).accounts.get? slot =
      if account.id = slot then some account.normalized
      else memory.accounts.get? slot := by
  show ((memory.drop account.id).accounts.insert account.id
    account.normalized).get? slot = _
  rw [Dict.get?_insert, accounts_drop]
  split <;> rfl

/-- A deleted account is not found, and every other one is as before. -/
@[simp] theorem accounts_delete (memory : Memory) (account : Account) (slot : String) :
    (memory.delete account).accounts.get? slot =
      if account.id = slot then none else memory.accounts.get? slot :=
  accounts_drop memory account.id slot

theorem installation_drop (memory : Memory) (id : String) :
    (memory.drop id).installation = memory.installation := by
  unfold drop
  split <;> rfl

/-- Saving an account leaves the installation. -/
theorem installation_save (memory : Memory) (account : Account) :
    (memory.save account).installation = memory.installation :=
  memory.installation_drop account.id

/-- Deleting an account leaves the installation. -/
theorem installation_delete (memory : Memory) (account : Account) :
    (memory.delete account).installation = memory.installation :=
  memory.installation_drop account.id

/-- Touching an account keeps what each place holds, as far as keys go. -/
theorem stored_of_touched
    {memory : Memory}
    {id slot : String}
    {old new account : Account}
    (stored : memory.accounts.get? id = some old)
    (same : SameKeys old new)
    (found : memory.accounts.get? slot = some account) :
    ∃ later,
      (memory.accounts.insert id new).get? slot = some later ∧
        SameKeys account later := by
  rw [Dict.get?_insert]
  by_cases touched : id = slot
  · rw [← touched, stored, Option.some.injEq] at found
    exact ⟨new, if_pos touched, found ▸ same⟩
  · exact ⟨account, by rw [if_neg touched, found], .refl account⟩

/-- After a change that no lookup sees every account has the keys that it had. -/
theorem touched_of_stored
    {memory : Memory}
    {id slot : String}
    {old new later : Account}
    (stored : memory.accounts.get? id = some old)
    (same : SameKeys old new)
    (found : (memory.accounts.insert id new).get? slot = some later) :
    ∃ account,
      memory.accounts.get? slot = some account ∧ SameKeys account later := by
  rw [Dict.get?_insert] at found
  split at found
  · rename_i touched
    cases found
    exact ⟨old, touched ▸ stored, same⟩
  · exact ⟨later, found, .refl later⟩

/-! ## Dropping the stored account -/

section Drop

variable {memory : Memory} {id : String}

/-- An account takes the entries with it that it releases and that lead to it. -/
theorem index_drop_iff
    (filed : memory.Filed)
    {lookup : Lookup}
    {key owner : String} :
    ((memory.drop id).indices.get lookup).get? key = some owner ↔
      (memory.indices.get lookup).get? key = some owner ∧
        ∀ stored, memory.accounts.get? id = some stored →
          ¬(key ∈ lookup.keysReleased stored ∧ owner = id) := by
  unfold drop
  split
  · rename_i absent
    simp [absent]
  · rename_i stored found
    simp only [unindex, Indices.get_removeAccount, get?_removeKeys_eq_some,
      filed.id found, found, Option.some.injEq, forall_eq']

/-- An account takes the entries of its tokens with it, whoever else has them. -/
theorem tokenIndex_drop_iff {which : TokenIndex} {key value : String} :
    ((memory.drop id).tokenIndex which).get? key = some value ↔
      (memory.tokenIndex which).get? key = some value ∧
        ∀ stored, memory.accounts.get? id = some stored →
          (key, value) ∉ which.entriesOf stored := by
  unfold drop
  split
  · rename_i absent
    simp [absent]
  · rename_i stored found
    cases which <;>
      simp only [tokenIndex, TokenIndex.entriesOf, unindex,
        get?_removeEntries_eq_some, found, Option.some.injEq, forall_eq']

end Drop

/-! ## Saving -/

/-- A saved account takes its keys over. What it had before and has no longer is released. -/
theorem index_save
    (memory : Memory)
    (account : Account)
    (lookup : Lookup)
    (key : String) :
    ((memory.save account).indices.get lookup).get? key =
      if key ∈ lookup.keysOf account.normalized then some account.id
      else ((memory.drop account.id).indices.get lookup).get? key := by
  show (((memory.drop account.id).indices.addAccount account.id
    account.normalized).get lookup).get? key = _
  rw [Indices.get_addAccount, get?_addKeys]

/-- A saved account adds the entries of its tokens to what its former self left. -/
theorem tokenIndex_save
    (memory : Memory)
    (account : Account)
    (which : TokenIndex) :
    (memory.save account).tokenIndex which =
      addEntries (which.entriesOf account.normalized)
        ((memory.drop account.id).tokenIndex which) := by
  cases which <;> rfl

/-! ## Deleting -/

section Delete

variable {memory : Memory} {account : Account}

/-- The account indices keep the entries of other accounts and no others. -/
theorem index_delete_iff
    (filed : memory.Filed)
    {lookup : Lookup}
    {key owner : String} :
    ((memory.delete account).indices.get lookup).get? key = some owner ↔
      (memory.indices.get lookup).get? key = some owner ∧ owner ≠ account.id := by
  show ((((memory.drop account.id).indices.removeAccount account).forget
    account.id).get lookup).get? key = some owner ↔ _
  rw [Indices.get?_forget_eq_some, Indices.get_removeAccount,
    get?_removeKeys_eq_some, index_drop_iff filed]
  constructor
  · rintro ⟨⟨⟨found, _⟩, _⟩, foreign⟩
    exact ⟨found, foreign⟩
  · rintro ⟨found, foreign⟩
    exact ⟨⟨⟨found, fun _ _ both => foreign both.2⟩,
      fun both => foreign both.2⟩, foreign⟩

/-- The token indices lose the entries of both accounts and no others. -/
theorem tokenIndex_delete_iff {which : TokenIndex} {key value : String} :
    ((memory.delete account).tokenIndex which).get? key = some value ↔
      (memory.tokenIndex which).get? key = some value ∧
        (∀ stored, memory.accounts.get? account.id = some stored →
          (key, value) ∉ which.entriesOf stored) ∧
        (key, value) ∉ which.entriesOf account := by
  have indexSame :
      (memory.delete account).tokenIndex which =
        removeEntries (which.entriesOf account)
          ((memory.drop account.id).tokenIndex which) := by
    cases which <;> rfl
  rw [indexSame, get?_removeEntries_eq_some, tokenIndex_drop_iff, and_assoc]

end Delete

/-! ## Filing -/

/-- Every effect leaves the accounts filed. -/
theorem Filed.effect
    {memory after : Memory}
    {call : Call}
    (filed : memory.Filed)
    (effect : Effect memory call after) :
    after.Filed := by
  cases effect with
  | saved account named =>
      constructor
      · intro slot stored found
        rw [accounts_save] at found
        split at found
        · rename_i same
          cases found
          exact same
        · exact filed.id found
      · intro slot stored found
        rw [accounts_save] at found
        split at found
        · cases found
          exact Account.isNormal_normalized account
        · exact filed.normal found
  | deleted account named =>
      constructor
      · intro slot stored found
        rw [accounts_delete] at found
        split at found
        · cases found
        · exact filed.id found
      · intro slot stored found
        rw [accounts_delete] at found
        split at found
        · cases found
        · exact filed.normal found
  | touched stored same =>
      constructor
      · intro slot account found
        rw [Dict.get?_insert] at found
        split at found
        · rename_i sameSlot
          cases found
          rw [same.id, filed.id stored, sameSlot]
        · exact filed.id found
      · intro slot account found
        rw [Dict.get?_insert] at found
        split at found
        · cases found
          exact same.normal (filed.normal stored)
        · exact filed.normal found
  | kept => exact filed
  | healed lookup key stale asks => exact ⟨filed.id, filed.normal⟩
  | healedHash hash stale => exact ⟨filed.id, filed.normal⟩
  | healedToken token stale => exact ⟨filed.id, filed.normal⟩
  | droppedHash hash => exact ⟨filed.id, filed.normal⟩
  | droppedToken token => exact ⟨filed.id, filed.normal⟩
  | installed id => exact ⟨filed.id, filed.normal⟩

/-- Every call leaves the accounts under their own identifiers. -/
theorem Filed.perform
    {memory : Memory}
    (filed : memory.Filed)
    (call : Call) :
    (memory.perform call).memory.Filed :=
  filed.effect (perform_effect memory call)

/-! ## Runs -/

/-- The memory after some calls. -/
def run (memory : Memory) (calls : List Call) : Memory :=
  calls.foldl (fun memory call => (memory.perform call).memory) memory

/-- Accounts stay filed over any run. -/
theorem Filed.run
    {memory : Memory}
    (filed : memory.Filed)
    (calls : List Call) :
    (memory.run calls).Filed := by
  induction calls generalizing memory with
  | nil => exact filed
  | cons call rest inductionHypothesis =>
      exact inductionHypothesis (filed.perform call)

/--
The memories that runs from the empty memory reach, where every call is
permitted in the state it meets and every state after a call meets a condition.
-/
inductive Reached
    (permits : Memory → Call → Prop)
    (meets : Memory → Prop) :
    Memory → Prop where
  | start : Reached permits meets .empty
  | step {memory : Memory} (call : Call)
      (before : Reached permits meets memory)
      (permitted : permits memory call)
      (met : meets (memory.perform call).memory) :
      Reached permits meets (memory.perform call).memory

/-- So they are after every run. -/
theorem Reached.filed
    {permits : Memory → Call → Prop}
    {meets : Memory → Prop}
    {memory : Memory}
    (reached : Reached permits meets memory) :
    memory.Filed := by
  induction reached with
  | start => exact filed_empty
  | step call before permitted met inductionHypothesis =>
      exact inductionHypothesis.perform call

end Memory

end TenantStore.FileEngine
