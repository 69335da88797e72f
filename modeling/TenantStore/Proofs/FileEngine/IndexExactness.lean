import TenantStore.Proofs.FileEngine.IndexCompleteness

namespace TenantStore.FileEngine

/-!
# Exact indices

While stored accounts share no keys, each index is the one that the stored
accounts give: `reached_exact`. A lookup then finds the holder of its key or
says that there is none, and never notices a stale entry.
-/

namespace Memory

/-! ## Runs without shared keys -/

/--
Calls after which indices stay exact. A deleted account brings its own tokens
only, keys that ignore letter case are ASCII, and the token indices are not
tampered with.
-/
def Careful (memory : Memory) : Call → Prop
  | .find lookup key => lookup.ignoresCase = true → Text.isAscii key = true
  | .delete account =>
      ∀ held ∈ tokensOf account, ∀ other ∈ memory.heldTokens,
        other.1 ≠ account.id → other.2.2.id ≠ held.2.id
  | .dropHashIndex _ => False
  | .dropTokenIndex _ => False
  | _ => True

instance (memory : Memory) (call : Call) : Decidable (memory.Careful call) := by
  unfold Careful
  split <;> infer_instance

/-- Stored accounts share no keys and no tokens, and their keys are ASCII. -/
def Distinct (memory : Memory) : Prop :=
  (∀ lookup, memory.KeysApart lookup) ∧ memory.TokensApart ∧
    ∀ entry ∈ memory.accounts.entries, entry.2.HasAsciiKeys

/-- There are five lookups of accounts. -/
theorem forall_lookup_iff {property : Lookup → Prop} :
    (∀ lookup, property lookup) ↔
      property .setupKey ∧ property .peerKey ∧ property .peerId ∧
        property .user ∧ property .privateDomain := by
  constructor
  · intro all
    exact ⟨all _, all _, all _, all _, all _⟩
  · rintro ⟨setupKey, peerKey, peerId, user, privateDomain⟩ lookup
    cases lookup <;> assumption

instance (memory : Memory) : Decidable memory.Distinct :=
  decidable_of_iff
    ((memory.KeysApart .setupKey ∧ memory.KeysApart .peerKey ∧
        memory.KeysApart .peerId ∧ memory.KeysApart .user ∧
        memory.KeysApart .privateDomain) ∧
      memory.TokensApart ∧
        ∀ entry ∈ memory.accounts.entries, entry.2.HasAsciiKeys)
    (and_congr_left' forall_lookup_iff.symm)

/-- The keys of a stored account have no letters beyond ASCII. -/
theorem Distinct.ascii
    {memory : Memory}
    (distinct : memory.Distinct)
    {slot : String}
    {account : Account}
    (stored : memory.accounts.get? slot = some account) :
    account.HasAsciiKeys :=
  distinct.2.2 (slot, account) (Dict.get?_eq_some_iff.mp stored)

/-- A careful deletion names no token of another stored account. -/
theorem Careful.own_entries
    {memory : Memory}
    {account : Account}
    (careful : memory.Careful (.delete account))
    (which : TokenIndex)
    {slot : String}
    {other : Account}
    (foreign : slot ≠ account.id)
    (stored : memory.accounts.get? slot = some other)
    {entry : String × String}
    (listed : entry ∈ which.entriesOf other) :
    entry ∉ which.entriesOf account := by
  intro listedHere
  rw [TokenIndex.entriesOf_eq] at listed listedHere
  obtain ⟨held, member, same⟩ := List.mem_map.mp listed
  obtain ⟨heldHere, memberHere, sameHere⟩ := List.mem_map.mp listedHere
  have idsSame : held.2.id = heldHere.2.id := by
    have entriesSame := same.trans sameHere.symm
    cases which with
    | byHash => exact congrArg Prod.snd entriesSame
    | byToken => exact congrArg Prod.fst entriesSame
  exact careful heldHere memberHere (slot, held)
    (mem_heldTokens stored member) foreign idsSame

/-! ## Exactness -/

/-- Every index is the one that the stored accounts give. -/
structure Exact (memory : Memory) : Prop where
  backed : memory.Backed
  complete : ∀ lookup, memory.Complete lookup
  tokensComplete : ∀ which, memory.TokensComplete which

/-- Empty indices are exact for no accounts. -/
theorem exact_empty : Memory.empty.Exact where
  backed := backed_empty
  complete := complete_empty
  tokensComplete _ _ _ _ _ found := by cases found

/-- Careful calls keep indices exact while accounts share no keys. -/
theorem Exact.perform
    {memory : Memory}
    (exactness : memory.Exact)
    (filed : memory.Filed)
    (distinct : memory.Distinct)
    {call : Call}
    (careful : memory.Careful call)
    (distinctAfter : (memory.perform call).memory.Distinct) :
    (memory.perform call).memory.Exact := by
  obtain ⟨backed, complete, tokensComplete⟩ := exactness
  have effect := perform_effect memory call
  refine ⟨backed.effect filed effect, ?_, ?_⟩
  · intro lookup
    refine (complete lookup).effect filed backed effect (distinctAfter.1 lookup) ?_
    rintro ignores key rfl
    exact follow_quiet filed backed
      (fun _ => ⟨careful ignores, fun _ _ => distinct.ascii⟩)
  · intro which
    generalize after_eq : (memory.perform call).memory = after at effect distinctAfter
    cases effect with
    | saved account named =>
        exact (tokensComplete which).save distinct.2.1 distinctAfter.2.1
    | deleted account named =>
        exact (tokensComplete which).delete distinct.2.1
          (fun _ _ foreign stored _ => careful.own_entries which foreign stored)
    | touched stored same =>
        intro slot key value later found listed
        obtain ⟨account, accountFound, keysSame⟩ :=
          touched_of_stored stored same found
        have kept := tokensComplete which accountFound
          (keysSame.entriesOf which ▸ listed)
        cases which with
        | byHash => exact kept
        | byToken => exact kept
    | healedHash hash stale =>
        exact absurd (tokenByHash_quiet filed backed distinct.2.1 hash) stale
    | healedToken token stale =>
        exact absurd (userByToken_quiet filed backed (complete .user) token) stale
    | droppedHash hash => exact careful.elim
    | droppedToken token => exact careful.elim
    | kept => exact tokensComplete which
    | healed lookup key stale asks =>
        cases which with
        | byHash => exact tokensComplete .byHash
        | byToken => exact tokensComplete .byToken
    | installed id =>
        cases which with
        | byHash => exact tokensComplete .byHash
        | byToken => exact tokensComplete .byToken

/-- Accounts that are not there share no keys. -/
theorem distinct_empty : Memory.empty.Distinct := by
  decide

/-- The accounts share no keys after a run in which they never do. -/
theorem Reached.distinct
    {permits : Memory → Call → Prop}
    {memory : Memory}
    (reached : Reached permits Distinct memory) :
    memory.Distinct := by
  cases reached with
  | start => exact distinct_empty
  | step call before permitted met => exact met

/-- Every state that a careful run without shared keys reaches is exact. -/
theorem Reached.exact
    {memory : Memory}
    (reached : Reached Careful Distinct memory) :
    memory.Exact := by
  induction reached with
  | start => exact exact_empty
  | step call before permitted met inductionHypothesis =>
      exact inductionHypothesis.perform before.filed before.distinct permitted met

/-- A token is held by a user of a stored account. -/
theorem mem_heldTokens_iff
    {memory : Memory}
    {held : String × User × AccessToken} :
    held ∈ memory.heldTokens ↔
      ∃ account,
        memory.accounts.get? held.1 = some account ∧ held.2 ∈ tokensOf account := by
  constructor
  · intro member
    obtain ⟨entry, entryMember, inner⟩ := List.mem_flatMap.mp member
    obtain ⟨token, tokenMember, rfl⟩ := List.mem_map.mp inner
    exact ⟨entry.2, Dict.get?_eq_some_iff.mpr entryMember, tokenMember⟩
  · rintro ⟨account, stored, member⟩
    exact mem_heldTokens stored member

/-- The entries of an exact index of accounts are the keys of the accounts. -/
theorem Exact.index_iff
    {memory : Memory}
    (exactness : memory.Exact)
    {lookup : Lookup}
    {key id : String} :
    (memory.indices.get lookup).get? key = some id ↔
      ∃ account,
        memory.accounts.get? id = some account ∧ key ∈ lookup.keysOf account := by
  constructor
  · exact exactness.backed.accounts
  · rintro ⟨account, stored, listed⟩
    exact exactness.complete lookup stored listed

/-- The entries of an exact index of tokens are those of the stored tokens. -/
theorem Exact.tokenIndex_iff
    {memory : Memory}
    (exactness : memory.Exact)
    {which : TokenIndex}
    {key value : String} :
    (memory.tokenIndex which).get? key = some value ↔
      ∃ held ∈ memory.heldTokens, which.entry held.2 = (key, value) := by
  constructor
  · intro found
    obtain ⟨slot, account, stored, listed⟩ := exactness.backed.tokens found
    rw [TokenIndex.entriesOf_eq] at listed
    obtain ⟨held, member, same⟩ := List.mem_map.mp listed
    exact ⟨(slot, held), mem_heldTokens stored member, same⟩
  · rintro ⟨held, member, same⟩
    obtain ⟨account, stored, heldMember⟩ := mem_heldTokens_iff.mp member
    refine exactness.tokensComplete which stored ?_
    rw [TokenIndex.entriesOf_eq]
    exact List.mem_map.mpr ⟨held.2, heldMember, same⟩

/-- The index of hashes leads to the tokens that are held. -/
theorem Exact.tokenOfHash_iff
    {memory : Memory}
    (exactness : memory.Exact)
    {hash token : String} :
    memory.tokenOfHash.get? hash = some token ↔
      ∃ held ∈ memory.heldTokens,
        held.2.2.hashedToken = hash ∧ held.2.2.id = token := by
  simpa [TokenIndex.entry, tokenIndex] using
    @Exact.tokenIndex_iff memory exactness .byHash hash token

/-- The index of tokens leads to the users who hold them. -/
theorem Exact.userOfToken_iff
    {memory : Memory}
    (exactness : memory.Exact)
    {token user : String} :
    memory.userOfToken.get? token = some user ↔
      ∃ held ∈ memory.heldTokens, held.2.2.id = token ∧ held.2.1.id = user := by
  simpa [TokenIndex.entry, tokenIndex] using
    @Exact.tokenIndex_iff memory exactness .byToken token user

/-! ## Answers of exact indices -/

/-- A call answers what is there or says what is missing, and changes nothing. -/
structure Finds
    (memory : Memory)
    (call : Call)
    (there : Answer → Prop)
    (missing : Problem) : Prop where
  outcome : ∀ answer, (memory.perform call).outcome = .ok answer ↔ there answer
  otherwise : (∀ answer, ¬there answer) →
    (memory.perform call).outcome = .error missing
  unchanged : (memory.perform call).memory = memory
  quiet : (memory.perform call).notices = []

/-- A search that notices nothing finds what it is characterized by. -/
theorem finds_of_search
    {memory : Memory}
    {call : Call}
    (search : Search α)
    {wrap : α → Answer}
    {there : Answer → Prop}
    {missing : Problem}
    (replies : memory.perform call = search.reply wrap)
    (unchanged : search.memory = memory)
    (quiet : search.notices = [])
    (cases : (∃ value, search.found = .ok value) ∨ search.found = .error missing)
    (characterized : ∀ answer,
      (∃ value, search.found = .ok value ∧ wrap value = answer) ↔ there answer) :
    memory.Finds call there missing := by
  have outcomeIff : ∀ answer,
      (memory.perform call).outcome = .ok answer ↔ there answer := by
    intro answer
    rw [replies, ← characterized]
    show search.found.map wrap = _ ↔ _
    cases search.found <;> simp [Except.map]
  refine ⟨outcomeIff, ?_, by rw [replies]; exact unchanged,
    by rw [replies]; exact quiet⟩
  intro none
  rcases cases with ⟨value, found⟩ | absent
  · exact absurd ((characterized _).mp ⟨value, found, rfl⟩) (none _)
  · rw [replies]
    show search.found.map wrap = _
    rw [absent]
    rfl

/-- A checked search that notices nothing leaves the memory as it is. -/
theorem finds_of_checked
    {memory without : Memory}
    {call : Call}
    {search : Search α}
    {wrap : α → Answer}
    {there : Answer → Prop}
    {missing : Problem}
    {entry : Option String}
    {leadsTo : String → Option α}
    {stale : String → Notice}
    (checked : search = memory.searchChecked without missing entry leadsTo stale)
    (replies : memory.perform call = search.reply wrap)
    (quiet : search.notices = [])
    (characterized : ∀ answer,
      (∃ value, search.found = .ok value ∧ wrap value = answer) ↔ there answer) :
    memory.Finds call there missing := by
  subst checked
  exact finds_of_search _ replies (searchChecked_memory_of_quiet quiet) quiet
    (searchChecked_found_cases.imp_left (fun ⟨value, found, _⟩ => ⟨value, found⟩))
    characterized

section Answers

variable {memory : Memory}

/-- A lookup finds the account that has the key. -/
theorem Exact.follow_found_iff
    (exactness : memory.Exact)
    (filed : memory.Filed)
    (distinct : memory.Distinct)
    {lookup : Lookup}
    {key : String}
    (ascii : lookup.ignoresCase = true → Text.isAscii key = true)
    {account : Account} :
    (memory.follow lookup key).found = .ok account ↔
      ∃ slot,
        memory.accounts.get? slot = some account ∧ lookup.Names account key := by
  rw [Memory.follow_found_iff]
  have namesIff : ∀ {slot}, memory.accounts.get? slot = some account →
      (lookup.Names account key ↔ lookup.normalize key ∈ lookup.keysOf account) :=
    fun stored => Lookup.names_iff_mem_keysOf
      (fun ignores => ⟨distinct.ascii stored, ascii ignores⟩)
  constructor
  · rintro ⟨slot, entry, stored, _⟩
    obtain ⟨indexed, indexedStored, listed⟩ := exactness.index_iff.mp entry
    rw [stored, Option.some.injEq] at indexedStored
    exact ⟨slot, stored, (namesIff stored).mpr (indexedStored ▸ listed)⟩
  · rintro ⟨slot, stored, names⟩
    exact ⟨slot, exactness.index_iff.mpr ⟨account, stored, (namesIff stored).mp names⟩,
      stored, names.holds (filed.normal stored)⟩

/-- A hash leads to the token that has it. -/
theorem Exact.tokenByHash_found_iff
    (exactness : memory.Exact)
    (filed : memory.Filed)
    (distinct : memory.Distinct)
    {hash token : String} :
    (memory.tokenByHash hash).found = .ok token ↔
      ∃ held ∈ memory.heldTokens,
        held.2.2.hashedToken = hash ∧ held.2.2.id = token := by
  rw [Memory.tokenByHash_found_iff, exactness.tokenOfHash_iff]
  constructor
  · exact And.left
  · rintro ⟨held, member, sameHash, sameId⟩
    obtain ⟨account, stored, heldMember⟩ := mem_heldTokens_iff.mp member
    have listed : (hash, token) ∈ hashEntries account :=
      List.mem_map.mpr ⟨held.2, heldMember, Prod.ext sameHash sameId⟩
    exact ⟨⟨held, member, sameHash, sameId⟩, hasToken_iff.mpr
      ⟨held.1, account, stored,
        holdsHash_of_entry filed distinct.2.1 stored listed⟩⟩

/-- A token leads to the user who holds it. -/
theorem Exact.userByToken_found_iff
    (exactness : memory.Exact)
    (filed : memory.Filed)
    {token : String}
    {user : User} :
    (memory.userByToken token).found = .ok user ↔
      ∃ held ∈ memory.heldTokens,
        held.2.2.id = token ∧ held.2.1 = user := by
  rw [Memory.userByToken_found_iff]
  constructor
  · rintro ⟨id, entry, indexed, contains⟩
    obtain ⟨slot, account, _, stored, userFound⟩ :=
      indexedUser?_eq_some_iff.mp indexed
    obtain ⟨held, heldToken⟩ := Dict.contains_iff.mp contains
    have normal := filed.normal stored
    exact ⟨(slot, user, held),
      mem_heldTokens stored (mem_tokensOf_iff.mpr ⟨id, token, userFound, heldToken⟩),
      normal.token_id userFound heldToken, rfl⟩
  · rintro ⟨held, member, sameId, rfl⟩
    obtain ⟨account, stored, heldMember⟩ := mem_heldTokens_iff.mp member
    obtain ⟨id, slot, userFound, heldToken⟩ := mem_tokensOf_iff.mp heldMember
    have normal := filed.normal stored
    have userId : held.2.1.id = id := normal.user_id userFound
    have tokenSlot : slot = token :=
      (normal.token_id userFound heldToken).symm.trans sameId
    have known : id ∈ Lookup.user.keysOf account :=
      List.mem_map.mpr
        ⟨held.2.1, Dict.mem_values_iff.mpr ⟨id, userFound⟩, userId⟩
    exact ⟨id, exactness.userOfToken_iff.mpr ⟨held, member, sameId, userId⟩,
      indexedUser?_eq_some_iff.mpr
        ⟨held.1, account, exactness.complete .user stored known, stored, userFound⟩,
      Dict.contains_iff.mpr ⟨held.2.2, tokenSlot ▸ heldToken⟩⟩

end Answers

/-- The answers of a find are the accounts that hold what the key names. -/
theorem Exact.finds_account
    {memory : Memory}
    (exactness : memory.Exact)
    (filed : memory.Filed)
    (distinct : memory.Distinct)
    {lookup : Lookup}
    {key : String}
    (ascii : lookup.ignoresCase = true → Text.isAscii key = true) :
    memory.Finds (.find lookup key)
      (fun answer => ∃ slot account,
        memory.accounts.get? slot = some account ∧ lookup.Names account key ∧
          answer = .account account)
      (.notFound lookup.subject key) := by
  have quiet : (memory.follow lookup key).notices = [] :=
    follow_quiet filed exactness.backed
      (fun ignores => ⟨ascii ignores, fun _ _ => distinct.ascii⟩)
  refine finds_of_checked (follow_eq memory lookup key) rfl quiet ?_
  intro answer
  simp only [exactness.follow_found_iff filed distinct ascii]
  constructor
  · rintro ⟨account, ⟨slot, stored, names⟩, rfl⟩
    exact ⟨slot, account, stored, names, rfl⟩
  · rintro ⟨slot, account, stored, names, rfl⟩
    exact ⟨account, ⟨slot, stored, names⟩, rfl⟩

/-- The key of a peer leads to the identifier of its account. -/
theorem Exact.finds_idByPeerKey
    {memory : Memory}
    (exactness : memory.Exact)
    (filed : memory.Filed)
    (distinct : memory.Distinct)
    (key : String) :
    memory.Finds (.idByPeerKey key)
      (fun answer => ∃ slot account,
        memory.accounts.get? slot = some account ∧
          Lookup.peerKey.Names account key ∧ answer = .text account.id)
      (.notFound .peerKey key) := by
  have noCase : Lookup.peerKey.ignoresCase ≠ true := Bool.false_ne_true
  have quiet : (memory.follow .peerKey key).notices = [] :=
    follow_quiet filed exactness.backed (fun ignores => absurd ignores noCase)
  refine finds_of_search (memory.followId .peerKey key) rfl
    (follow_memory_of_notices_nil quiet) quiet ?_ ?_
  · rcases follow_found_cases memory .peerKey key with ⟨account, found, _⟩ | missing
    · exact .inl ⟨account.id,
        (followId_found_iff filed).mpr ⟨account, found, rfl⟩⟩
    · exact .inr (by simp [followId, missing, Except.map, Lookup.subject])
  · intro answer
    simp only [followId_found_iff filed, exactness.follow_found_iff filed distinct
      (fun ignores => absurd ignores noCase)]
    constructor
    · rintro ⟨_, ⟨account, ⟨slot, stored, names⟩, rfl⟩, rfl⟩
      exact ⟨slot, account, stored, names, rfl⟩
    · rintro ⟨slot, account, stored, names, rfl⟩
      exact ⟨account.id, ⟨account, ⟨slot, stored, names⟩, rfl⟩, rfl⟩

/-- A hash finds its token or is reported as missing, and nothing changes. -/
theorem Exact.finds_tokenByHash
    {memory : Memory}
    (exactness : memory.Exact)
    (filed : memory.Filed)
    (distinct : memory.Distinct)
    (hash : String) :
    memory.Finds (.tokenByHash hash)
      (fun answer => ∃ held ∈ memory.heldTokens,
        held.2.2.hashedToken = hash ∧ answer = .text held.2.2.id)
      (.notFound .hashedToken hash) := by
  have quiet := tokenByHash_quiet filed exactness.backed distinct.2.1 hash
  refine finds_of_checked (tokenByHash_eq memory hash) rfl quiet ?_
  intro answer
  simp only [exactness.tokenByHash_found_iff filed distinct]
  constructor
  · rintro ⟨_, ⟨held, member, sameHash, rfl⟩, rfl⟩
    exact ⟨held, member, sameHash, rfl⟩
  · rintro ⟨held, member, sameHash, rfl⟩
    exact ⟨held.2.2.id, ⟨held, member, sameHash, rfl⟩, rfl⟩

/-- A token finds its user or is reported as missing, and nothing changes. -/
theorem Exact.finds_userByToken
    {memory : Memory}
    (exactness : memory.Exact)
    (filed : memory.Filed)
    (token : String) :
    memory.Finds (.userByToken token)
      (fun answer => ∃ held ∈ memory.heldTokens,
        held.2.2.id = token ∧ answer = .user held.2.1)
      (.notFound .token token) := by
  have quiet :=
    userByToken_quiet filed exactness.backed (exactness.complete .user) token
  refine finds_of_checked (userByToken_eq memory token) rfl quiet ?_
  intro answer
  simp only [exactness.userByToken_found_iff filed]
  constructor
  · rintro ⟨_, ⟨held, member, sameId, rfl⟩, rfl⟩
    exact ⟨held, member, sameId, rfl⟩
  · rintro ⟨held, member, sameId, rfl⟩
    exact ⟨held.2.1, ⟨held, member, sameId, rfl⟩, rfl⟩

/--
In every state that a careful run without shared keys reaches, each of the
seven indices has an entry for every key of a stored account or token, leading
to its holder, and no other entry. So every lookup answers the holder of its
key or says that there is none, and never takes an entry for stale.
-/
theorem reached_exact
    {memory : Memory}
    (reached : Reached Careful Distinct memory) :
    (∀ lookup key id,
        (memory.indices.get lookup).get? key = some id ↔
          ∃ account,
            memory.accounts.get? id = some account ∧
              key ∈ lookup.keysOf account) ∧
      (∀ hash token,
        memory.tokenOfHash.get? hash = some token ↔
          ∃ held ∈ memory.heldTokens,
            held.2.2.hashedToken = hash ∧ held.2.2.id = token) ∧
      (∀ token user,
        memory.userOfToken.get? token = some user ↔
          ∃ held ∈ memory.heldTokens,
            held.2.2.id = token ∧ held.2.1.id = user) ∧
      (∀ lookup key,
        (lookup.ignoresCase = true → Text.isAscii key = true) →
          memory.Finds (.find lookup key)
            (fun answer => ∃ slot account,
              memory.accounts.get? slot = some account ∧
                lookup.Names account key ∧ answer = .account account)
            (.notFound lookup.subject key)) ∧
      (∀ key,
        memory.Finds (.idByPeerKey key)
          (fun answer => ∃ slot account,
            memory.accounts.get? slot = some account ∧
              Lookup.peerKey.Names account key ∧ answer = .text account.id)
          (.notFound .peerKey key)) ∧
      (∀ hash,
        memory.Finds (.tokenByHash hash)
          (fun answer => ∃ held ∈ memory.heldTokens,
            held.2.2.hashedToken = hash ∧ answer = .text held.2.2.id)
          (.notFound .hashedToken hash)) ∧
      ∀ token,
        memory.Finds (.userByToken token)
          (fun answer => ∃ held ∈ memory.heldTokens,
            held.2.2.id = token ∧ answer = .user held.2.1)
          (.notFound .token token) := by
  have exactness := reached.exact
  have filed := reached.filed
  have distinct := reached.distinct
  refine ⟨fun _ _ _ => exactness.index_iff, ?_, ?_,
    fun _ _ ascii => exactness.finds_account filed distinct ascii,
    exactness.finds_idByPeerKey filed distinct,
    exactness.finds_tokenByHash filed distinct,
    exactness.finds_userByToken filed⟩
  · intro hash token
    exact exactness.tokenOfHash_iff
  · intro token user
    exact exactness.userOfToken_iff

/-! ### A household that moves -/

/-- An account with a setup key and a user who holds a token. -/
def household (id : String) : Account where
  id := id
  setupKeys := .ofList [("Key-1", { key := "Key-1" })]
  users := .ofList [("u", {
    id := "u"
    tokens := .ofList [("t", { id := "t", userId := "u", hashedToken := "h" })] })]

/-- What the household has moves to another account once the first has gone. -/
theorem reached_exact_moved :
    let memory := empty.run
      [.save (household "a"), .delete (household "a"), .save (household "b")]
    Reached Careful Distinct memory ∧
      (memory.perform (.find .setupKey "KEY-1")).outcome =
        .ok (.account (household "b")) ∧
      (memory.perform (.find .setupKey "KEY-1")).memory = memory := by
  intro memory
  have reached : Reached Careful Distinct memory :=
    .step (.save (household "b"))
      (.step (.delete (household "a"))
        (.step (.save (household "a")) .start (by decide) (by decide))
        (by decide) (by decide))
      (by decide) (by decide)
  have finds := (reached_exact reached).2.2.2.1 .setupKey "KEY-1" (by decide)
  refine ⟨reached, (finds.outcome _).mpr ?_, finds.unchanged⟩
  exact ⟨"b", household "b", rfl,
    ⟨{ key := "Key-1" }, by decide, by decide⟩, rfl⟩

end Memory

end TenantStore.FileEngine
