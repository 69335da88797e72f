import TenantStore.Proofs.Engines.Mirroring

namespace TenantStore.Engines

/-!
# Answers of a mirror

A database that mirrors a memory answers every question as the memory does.
The lookups of the memory are exact, so both find the one holder of a key or
say that there is none.
-/

open TableEngine
open FileEngine (Memory)
open Relational (Database)

/-- What is assumed of a memory and a database where a question is asked. -/
structure Asked (order : List Account) (memory : Memory) (db : Database) : Prop where
  mirrors : Mirrors order memory db
  exactness : memory.Exact
  filed : memory.Filed
  tidy : Tidy memory.accounts.values
  plain : Plain memory.accounts.values

namespace Asked

variable {order : List Account} {memory : Memory} {db : Database}

/-- The accounts that are asked for share no identifiers. -/
theorem distinctKeys (asked : Asked order memory db) : DistinctKeys order :=
  asked.mirrors.lists.distinctKeys asked.filed asked.tidy

/-- The accounts that are asked for are in the memory. -/
theorem mem_values
    (asked : Asked order memory db)
    {account : Account}
    (member : account ∈ order) :
    account ∈ memory.accounts.values :=
  Dict.mem_values_iff.mpr ⟨account.id, (asked.mirrors.lists.mem_iff account).mp member⟩

/-- They are in normal form. -/
theorem normal
    (asked : Asked order memory db)
    {account : Account}
    (member : account ∈ order) :
    account.IsNormal :=
  asked.filed.normal ((asked.mirrors.lists.mem_iff account).mp member)

/-- The database loads the accounts that the memory stores. -/
theorem account?_eq (asked : Asked order memory db) (id : String) :
    (contentsOf order).account? id = memory.accounts.get? id := by
  cases stored : memory.accounts.get? id with
  | none =>
      apply account?_contentsOf_none
      rintro account member rfl
      rw [(asked.mirrors.lists.mem_iff account).mp member] at stored
      cases stored
  | some account =>
      have sameId : account.id = id := asked.filed.id stored
      have member : account ∈ order :=
        (asked.mirrors.lists.mem_iff account).mpr (sameId ▸ stored)
      rw [← sameId]
      exact account?_contentsOf asked.distinctKeys member (asked.normal member)
        (asked.tidy.rules account (asked.mem_values member))

/-- Both engines get the same account, or report that it is not there. -/
theorem matches_get (asked : Asked order memory db) (id : String) :
    Matches memory db (.get id) := by
  obtain ⟨installation, represents, same⟩ := asked.mirrors.represents
  refine ⟨?_, order, asked.mirrors⟩
  simp only [Memory.perform, TableEngine.perform, answered, Memory.answer,
    represents.loadAccount_eq, asked.account?_eq, Memory.account?]
  cases memory.accounts.get? id <;> rfl

/-- Every account is loaded that some identifiers lead to. -/
theorem mapM_loadAccount
    (asked : Asked order memory db)
    {accounts : List Account}
    (stored : ∀ account ∈ accounts, account ∈ order) :
    (accounts.map Account.id).mapM (loadAccount db) = .ok accounts := by
  obtain ⟨installation, represents, same⟩ := asked.mirrors.represents
  induction accounts with
  | nil => rfl
  | cons account rest inductionHypothesis =>
      have found := (asked.mirrors.lists.mem_iff account).mp
        (stored account List.mem_cons_self)
      have loaded : loadAccount db account.id = .ok account := by
        rw [represents.loadAccount_eq, asked.account?_eq, found]
        rfl
      rw [List.map_cons, List.mapM_cons, loaded, inductionHypothesis
        (fun other member => stored other (List.mem_cons_of_mem _ member))]
      rfl

/-- Both engines get all accounts in the same order. -/
theorem matches_all (asked : Asked order memory db) : Matches memory db .all := by
  obtain ⟨installation, represents, same⟩ := asked.mirrors.represents
  have keys : (contentsOf order .account).map Record.key = order.map Account.id := by
    rw [keys_contentsOf, List.map_eq_flatMap]
    rfl
  have ids : ((contentsOf order .account).map Record.key).mergeSort
      (fun left right => left ≤ right) = memory.all.map Account.id := by
    have perm := asked.mirrors.lists.perm asked.filed
    have all : memory.all.map Account.id =
        (memory.accounts.values.map Account.id).mergeSort
          (fun left right => left ≤ right) :=
      List.map_mergeSort (fun _ _ _ _ => rfl)
    rw [keys, all, Dict.mergeSort_congr (perm.map _)]
  have stored : ∀ account ∈ memory.all, account ∈ order := by
    intro account member
    have perm := asked.mirrors.lists.perm asked.filed
    exact perm.mem_iff.mpr (List.mem_mergeSort.mp member)
  refine ⟨?_, order, asked.mirrors⟩
  simp only [Memory.perform, TableEngine.perform, answered, Memory.answer,
    represents.loadAll_eq, ids, asked.mapM_loadAccount stored]
  rfl

/-! ## Lookups -/

/-- Records that fit a key are those of accounts that hold what the key names. -/
theorem exists_fits_iff
    {account : Account}
    (ascii : account.HasAsciiKeys)
    (plain : (∀ stored ∈ account.setupKeys.values, Text.HasNoNul stored.key) ∧
      Text.HasNoNul account.domain)
    {lookup : Lookup}
    {key : String}
    (named : lookup.ignoresCase = false →
      ∀ peer ∈ account.peers.values, peer.id ≠ "" ∧ peer.key ≠ "")
    (keyAscii : lookup.ignoresCase = true → Text.isAscii key = true)
    (keyPlain : lookup.ignoresCase = true → Text.HasNoNul key) :
    (∃ record ∈ recordsOf account (lookupKind lookup), fits lookup key record = true) ↔
      lookup.Names account key := by
  cases lookup with
  | setupKey =>
      have same : ∀ stored ∈ account.setupKeys.values,
          Text.equalNoCase stored.key key = Text.equalIgnoringCase stored.key key :=
        fun stored member => Text.equalNoCase_eq_equalIgnoringCase
          (ascii.1 stored member) (keyAscii rfl) (plain.1 stored member) (keyPlain rfl)
      constructor
      · rintro ⟨record, listed, fit⟩
        obtain ⟨stored, member, rfl⟩ := List.mem_map.mp listed
        exact ⟨stored, member, (same stored member).symm.trans fit⟩
      · rintro ⟨stored, member, fit⟩
        exact ⟨⟨account.id, stored⟩, List.mem_map.mpr ⟨stored, member, rfl⟩,
          (same stored member).trans fit⟩
  | peerKey =>
      constructor
      · rintro ⟨record, listed, fit⟩
        obtain ⟨peer, member, rfl⟩ := List.mem_map.mp listed
        have sameKey : peer.key = key := of_decide_eq_true fit
        exact ⟨sameKey ▸ (named rfl peer member).2, peer, member, sameKey⟩
      · rintro ⟨_, peer, member, sameKey⟩
        exact ⟨⟨account.id, peer⟩, List.mem_map.mpr ⟨peer, member, rfl⟩,
          decide_eq_true sameKey⟩
  | peerId =>
      constructor
      · rintro ⟨record, listed, fit⟩
        obtain ⟨peer, member, rfl⟩ := List.mem_map.mp listed
        have sameId : peer.id = key := of_decide_eq_true fit
        exact ⟨sameId ▸ (named rfl peer member).1, List.mem_map.mpr ⟨peer, member, sameId⟩⟩
      · rintro ⟨_, listed⟩
        obtain ⟨peer, member, sameId⟩ := List.mem_map.mp listed
        exact ⟨⟨account.id, peer⟩, List.mem_map.mpr ⟨peer, member, rfl⟩,
          decide_eq_true sameId⟩
  | user =>
      constructor
      · rintro ⟨record, listed, fit⟩
        obtain ⟨user, member, rfl⟩ := List.mem_map.mp listed
        exact List.mem_map.mpr ⟨user, member, of_decide_eq_true fit⟩
      · intro listed
        obtain ⟨user, member, sameId⟩ := List.mem_map.mp listed
        exact ⟨⟨account.id, user⟩, List.mem_map.mpr ⟨user, member, rfl⟩,
          decide_eq_true sameId⟩
  | privateDomain =>
      have same : Text.equalNoCase account.domain key =
          Text.equalIgnoringCase account.domain key :=
        Text.equalNoCase_eq_equalIgnoringCase ascii.2 (keyAscii rfl) plain.2 (keyPlain rfl)
      constructor
      · rintro ⟨record, listed, fit⟩
        rw [List.mem_singleton.mp listed] at fit
        obtain ⟨equal, owns⟩ := Bool.and_eq_true _ _ ▸ fit
        exact ⟨owns, same.symm.trans equal⟩
      · rintro ⟨owns, equal⟩
        exact ⟨⟨"", account⟩, List.mem_singleton.mpr rfl,
          Bool.and_eq_true _ _ ▸ ⟨same.trans equal, owns⟩⟩

/-- A record of an account leads back to it. -/
theorem accountOf_eq
    {account : Account}
    {lookup : Lookup}
    {record : Record (lookupKind lookup)}
    (listed : record ∈ recordsOf account (lookupKind lookup)) :
    accountOf lookup record = account.id := by
  cases lookup with
  | setupKey => exact owner_of_mem rfl (by decide) listed
  | peerKey => exact owner_of_mem rfl (by decide) listed
  | peerId => exact owner_of_mem rfl (by decide) listed
  | user => exact owner_of_mem rfl (by decide) listed
  | privateDomain =>
      rw [List.mem_singleton.mp listed]
      rfl

/-- An answer that a search must find agrees with it. -/
theorem agree_of_finds
    {call : Call}
    {there : Answer → Prop}
    {missing : Problem}
    (finds : memory.Finds call there missing)
    {outcome : Outcome}
    (cases : (∃ answer, there answer ∧ outcome = .ok answer) ∨
      (∀ answer, ¬there answer) ∧
        ∃ problem, outcome = .error problem ∧ missing.kind = problem.kind) :
    Agree (memory.perform call).outcome outcome := by
  rcases cases with ⟨answer, here, rfl⟩ | ⟨nowhere, problem, rfl, sameKind⟩
  · rw [(finds.outcome answer).mpr here]
    rfl
  · rw [finds.otherwise nowhere]
    exact sameKind

/-- What a lookup finds in the contents is the account that the memory finds. -/
theorem find?_fits_cases
    (asked : Asked order memory db)
    {lookup : Lookup}
    {key : String}
    (keyAscii : lookup.ignoresCase = true → Text.isAscii key = true)
    (keyPlain : lookup.ignoresCase = true → Text.HasNoNul key) :
    (∃ account record, memory.accounts.get? account.id = some account ∧
        lookup.Names account key ∧
        (contentsOf order (lookupKind lookup)).find? (fits lookup key) = some record ∧
        accountOf lookup record = account.id) ∨
      (∀ slot account, memory.accounts.get? slot = some account →
          ¬lookup.Names account key) ∧
        (contentsOf order (lookupKind lookup)).find? (fits lookup key) = none := by
  have names : ∀ account ∈ order,
      ((∃ record ∈ recordsOf account (lookupKind lookup),
          fits lookup key record = true) ↔ lookup.Names account key) := by
    intro account member
    have stored := asked.mem_values member
    exact exists_fits_iff (asked.tidy.ascii account stored) (asked.plain account stored)
      (fun _ => asked.tidy.peers account stored) keyAscii keyPlain
  cases search : (contentsOf order (lookupKind lookup)).find? (fits lookup key) with
  | some record =>
      obtain ⟨account, member, listed⟩ :=
        List.mem_flatMap.mp (List.mem_of_find?_eq_some search)
      exact .inl ⟨account, record, (asked.mirrors.lists.mem_iff account).mp member,
        (names account member).mp ⟨record, listed, List.find?_some search⟩, rfl,
        accountOf_eq listed⟩
  | none =>
      refine .inr ⟨?_, rfl⟩
      intro slot account stored named
      have sameId : account.id = slot := asked.filed.id stored
      have member : account ∈ order :=
        (asked.mirrors.lists.mem_iff account).mpr (sameId ▸ stored)
      obtain ⟨record, listed, fit⟩ := (names account member).mpr named
      exact List.find?_eq_none.mp search record (mem_contentsOf member listed) fit

/-- Both engines find the same account, by keys in which case does not hide anything. -/
theorem matches_find
    (asked : Asked order memory db)
    {lookup : Lookup}
    {key : String}
    (keyAscii : lookup.ignoresCase = true → Text.isAscii key = true)
    (keyPlain : lookup.ignoresCase = true → Text.HasNoNul key) :
    Matches memory db (.find lookup key) := by
  obtain ⟨installation, represents, same⟩ := asked.mirrors.represents
  have finds := asked.exactness.finds_account asked.filed asked.tidy.distinct keyAscii
  have mirrors : Mirrors order (memory.perform (.find lookup key)).memory db :=
    finds.unchanged.symm ▸ asked.mirrors
  refine ⟨agree_of_finds finds ?_, order, mirrors⟩
  simp only [TableEngine.perform, answered, represents.findAccount_eq]
  rcases asked.find?_fits_cases keyAscii keyPlain with
    ⟨account, record, stored, named, found, holder⟩ | ⟨nowhere, found⟩
  · refine .inl ⟨.account account, ⟨account.id, account, stored, named, rfl⟩, ?_⟩
    rw [found, Option.map_some, holder, foundOr, Except.bind, asked.account?_eq, stored]
    rfl
  · refine .inr ⟨?_, .notFound (lookupSubject lookup) key, ?_, rfl⟩
    · rintro answer ⟨slot, account, stored, named, _⟩
      exact nowhere slot account stored named
    · rw [found]
      rfl

/-- Both engines find the same identifier. -/
theorem matches_idByPeerKey (asked : Asked order memory db) (key : String) :
    Matches memory db (.idByPeerKey key) := by
  obtain ⟨installation, represents, same⟩ := asked.mirrors.represents
  have finds := asked.exactness.finds_idByPeerKey asked.filed asked.tidy.distinct key
  have mirrors : Mirrors order (memory.perform (.idByPeerKey key)).memory db :=
    finds.unchanged.symm ▸ asked.mirrors
  have noCase : Lookup.peerKey.ignoresCase ≠ true := Bool.false_ne_true
  refine ⟨agree_of_finds finds ?_, order, mirrors⟩
  simp only [TableEngine.perform, answered, represents.findAccountId_eq]
  rcases @find?_fits_cases _ _ _ asked .peerKey key (fun ignores => absurd ignores noCase)
    (fun ignores => absurd ignores noCase) with
    ⟨account, record, stored, named, found, holder⟩ | ⟨nowhere, found⟩
  · refine .inl ⟨.text account.id, ⟨account.id, account, stored, named, rfl⟩, ?_⟩
    rw [found, Option.map_some, holder]
    rfl
  · refine .inr ⟨?_, .notFound .peerKey key, ?_, rfl⟩
    · rintro answer ⟨slot, account, stored, named, _⟩
      exact nowhere slot account stored named
    · rw [found]
      rfl

/-! ## Tokens -/

/-- The records of tokens are those of the tokens that the memory holds. -/
theorem mem_tokens_iff
    (asked : Asked order memory db)
    {record : Record .token} :
    record ∈ contentsOf order .token ↔
      ∃ held ∈ memory.heldTokens,
        held.2.1.id = record.owner ∧ held.2.2 = record.value := by
  constructor
  · intro member
    obtain ⟨account, accountMember, listed⟩ := List.mem_flatMap.mp member
    obtain ⟨user, userMember, inner⟩ := List.mem_flatMap.mp listed
    obtain ⟨token, tokenMember, rfl⟩ := List.mem_map.mp inner
    have stored := (asked.mirrors.lists.mem_iff account).mp accountMember
    exact ⟨(account.id, user, token),
      FileEngine.Memory.mem_heldTokens stored (List.mem_flatMap.mpr
        ⟨user, userMember, List.mem_map.mpr ⟨token, tokenMember, rfl⟩⟩), rfl, rfl⟩
  · rintro ⟨held, heldMember, sameOwner, sameValue⟩
    obtain ⟨account, stored, inAccount⟩ :=
      FileEngine.Memory.mem_heldTokens_iff.mp heldMember
    obtain ⟨user, userMember, inner⟩ := List.mem_flatMap.mp inAccount
    obtain ⟨token, tokenMember, pair⟩ := List.mem_map.mp inner
    have sameId : account.id = held.1 := asked.filed.id stored
    have accountMember : account ∈ order :=
      (asked.mirrors.lists.mem_iff account).mpr (sameId ▸ stored)
    refine mem_contentsOf accountMember (List.mem_flatMap.mpr ⟨user, userMember,
      List.mem_map.mpr ⟨token, tokenMember, ?_⟩⟩)
    cases record
    rw [← pair] at sameOwner sameValue
    simp only at sameOwner sameValue
    rw [sameOwner, sameValue]

/-- Both engines find the same token. -/
theorem matches_tokenByHash (asked : Asked order memory db) (hash : String) :
    Matches memory db (.tokenByHash hash) := by
  obtain ⟨installation, represents, same⟩ := asked.mirrors.represents
  have finds := asked.exactness.finds_tokenByHash asked.filed asked.tidy.distinct hash
  have mirrors : Mirrors order (memory.perform (.tokenByHash hash)).memory db :=
    finds.unchanged.symm ▸ asked.mirrors
  refine ⟨agree_of_finds finds ?_, order, mirrors⟩
  simp only [TableEngine.perform, answered, represents.findToken_eq]
  cases search : (contentsOf order .token).find? (fun record =>
      AccessToken.hashedToken record.value = hash) with
  | some record =>
      obtain ⟨held, heldMember, _, sameValue⟩ :=
        asked.mem_tokens_iff.mp (List.mem_of_find?_eq_some search)
      have sameHash : AccessToken.hashedToken record.value = hash := by
        simpa using List.find?_some search
      refine .inl ⟨.text record.key, ⟨held, heldMember, ?_, ?_⟩, rfl⟩
      · rw [sameValue, sameHash]
      · rw [sameValue]
        rfl
  | none =>
      refine .inr ⟨?_, .notFound .hashedToken hash, rfl, rfl⟩
      rintro answer ⟨held, heldMember, sameHash, _⟩
      have known : (Record.mk held.2.1.id held.2.2 : Record .token) ∈
          contentsOf order .token :=
        asked.mem_tokens_iff.mpr ⟨held, heldMember, rfl, rfl⟩
      exact List.find?_eq_none.mp search _ known (decide_eq_true sameHash)

/-- Both engines find the same user. -/
theorem matches_userByToken (asked : Asked order memory db) (token : String) :
    Matches memory db (.userByToken token) := by
  obtain ⟨installation, represents, same⟩ := asked.mirrors.represents
  have finds := asked.exactness.finds_userByToken asked.filed token
  have mirrors : Mirrors order (memory.perform (.userByToken token)).memory db :=
    finds.unchanged.symm ▸ asked.mirrors
  refine ⟨agree_of_finds finds ?_, order, mirrors⟩
  simp only [TableEngine.perform, answered, represents.findUserByToken_eq]
  cases search : (contentsOf order .token).find? (fun record => record.key = token) with
  | some record =>
      obtain ⟨held, heldMember, sameOwner, sameValue⟩ :=
        asked.mem_tokens_iff.mp (List.mem_of_find?_eq_some search)
      have sameKey : record.key = token := by
        simpa using List.find?_some search
      obtain ⟨account, stored, inAccount⟩ :=
        FileEngine.Memory.mem_heldTokens_iff.mp heldMember
      obtain ⟨user, userMember, inner⟩ := List.mem_flatMap.mp inAccount
      obtain ⟨heldToken, _, pair⟩ := List.mem_map.mp inner
      have sameId : account.id = held.1 := asked.filed.id stored
      have accountMember : account ∈ order :=
        (asked.mirrors.lists.mem_iff account).mpr (sameId ▸ stored)
      have loaded := user?_contentsOf asked.distinctKeys accountMember
        (asked.normal accountMember) userMember
      have isUser : held.2.1 = user := congrArg Prod.fst pair.symm
      refine .inl ⟨.user user, ⟨held, heldMember, ?_, by rw [isUser]⟩, ?_⟩
      · rw [sameValue]
        exact sameKey
      · rw [Option.map_some, foundOr, Except.bind, ← sameOwner, isUser, loaded]
        rfl
  | none =>
      refine .inr ⟨?_, .notFound .token token, rfl, rfl⟩
      rintro answer ⟨held, heldMember, sameKey, _⟩
      have known : (Record.mk held.2.1.id held.2.2 : Record .token) ∈
          contentsOf order .token :=
        asked.mem_tokens_iff.mpr ⟨held, heldMember, rfl, rfl⟩
      exact List.find?_eq_none.mp search _ known (decide_eq_true sameKey)

end Asked

end TenantStore.Engines
