import TenantStore.Proofs.FileEngine.LookupObservation
import TenantStore.Proofs.FileEngine.PeerIdentity

namespace TenantStore

/-!
# Loading as saving

Indices come about in two ways: a migration fills them from all accounts, step
by step, and a save enters one account. While accounts share no keys and no
tokens, both make the same indices: saving the accounts of a migrated memory
one by one, in any order, makes that memory again (`migrate_eq_run_saves`).
-/

namespace Account

/-! ## Accounts that lack nothing but identifiers of peers -/

/-- Normal form would change nothing but the identifiers of peers that have none. -/
def LacksOnlyPeerIds (account : Account) : Prop :=
  account.normalized =
    { account with
      peers := account.peers.mapValues (fun slot peer =>
        if peer.id = "" then { peer with id := slot } else peer) }

instance (account : Account) : Decidable account.LacksOnlyPeerIds :=
  inferInstanceAs (Decidable (_ = _))

/-- A peer with an identifier is filed under it. -/
theorem LacksOnlyPeerIds.peer_id
    {account : Account}
    (lacking : account.LacksOnlyPeerIds)
    {place : String}
    {peer : Peer}
    (found : account.peers.get? place = some peer)
    (named : peer.id ≠ "") :
    peer.id = place := by
  have same := congrArg (fun account : Account => account.peers.get? place) lacking
  simp only [normalized, Dict.get?_mapValues, found, Option.map_some, if_neg named,
    Option.some.injEq] at same
  exact (congrArg Peer.id same).symm

end Account

namespace FileEngine

namespace Migration

variable {arrival : Arrival} {slot : String} {account : Account}

theorem id_migrateAccount (arrival : Arrival) (slot : String) (account : Account) :
    (migrateAccount arrival slot account).id = account.id := by
  obtain ⟨_, filled, _⟩ := backfill_eq account
  rw [migrateAccount_eq, filled]
  rfl

/-- A migrated account is in normal form if only identifiers of peers were lacking. -/
theorem isNormal_migrateAccount
    (lacking : account.LacksOnlyPeerIds)
    (places : (account.peers.entries.map (fun entry =>
      finalSlot arrival slot account entry.1 entry.2)).Nodup) :
    (migrateAccount arrival slot account).IsNormal := by
  obtain ⟨_, filled, _⟩ := backfill_eq account
  rw [Account.isNormal_iff]
  refine ⟨?setupKeys, ?peers, ?users, ?groups, ?routes, ?nameServerGroups⟩
  case setupKeys =>
    rw [migrateAccount_eq, filled]
    exact congrArg Account.setupKeys lacking
  case peers =>
    rw [Dict.mapValues_eq_self_iff]
    intro target later found
    obtain ⟨_, _, peers⟩ := get?_peers_migrateAccount_iff places
    obtain ⟨place, peer, peerFound, rfl, rfl⟩ := (peers target later).mp found
    by_cases nameless : peer.id = ""
    · simp [supplyLogin, identifyPeer, finalSlot, newPeerId, relabel, nameless]
    · obtain rfl := lacking.peer_id peerFound nameless
      simp [supplyLogin, identifyPeer, finalSlot, relabel, nameless]
  case users =>
    rw [migrateAccount_eq, filled]
    exact Dict.mapValues_mapValues_of_commute (congrArg Account.users lacking) (fun _ _ => rfl)
  case groups =>
    have settled : account.groups.mapValues (fun id group => { group with id := id }) =
        account.groups := congrArg Account.groups lacking
    have groups : (migrateAccount arrival slot account).groups =
        (account.groups.mapValues (fun _ => supplyGroupIssuer)).mapValues (fun _ group =>
          { group with peers := group.peers.map (finalReference arrival slot account) }) := by
      rw [migrateAccount_eq, identifyPeers, finalReference_backfill, filled]
    rw [groups]
    exact Dict.mapValues_mapValues_of_commute
      (Dict.mapValues_mapValues_of_commute settled (fun _ _ => rfl)) (fun _ _ => rfl)
  case routes =>
    have settled : account.routes.mapValues (fun id route => { route with id := id }) =
        account.routes := congrArg Account.routes lacking
    have routes : (migrateAccount arrival slot account).routes =
        (account.routes.mapValues (fun _ => supplyRoute
          (account.groupAll?.map supplyGroupIssuer))).mapValues (fun _ route =>
            { route with peer := finalReference arrival slot account route.peer }) := by
      rw [migrateAccount_eq, identifyPeers, finalReference_backfill, filled]
    rw [routes]
    refine Dict.mapValues_mapValues_of_commute
      (Dict.mapValues_mapValues_of_commute settled ?_) (fun _ _ => rfl)
    intro _ route
    cases account.groupAll? <;> rfl
  case nameServerGroups =>
    rw [migrateAccount_eq, filled]
    exact congrArg Account.nameServerGroups lacking

end Migration

namespace Memory

open Migration

/-! ## Keys and tokens of migrated accounts -/

/--
Accounts are filed under their own identifiers, share no keys and no tokens, and
lack nothing that saving supplies, apart from identifiers of peers.
-/
structure Tidy (memory : Memory) : Prop where
  id : memory.accounts.FiledBy Account.id
  named : ∀ account ∈ memory.accounts.values, account.id ≠ ""
  lacking : ∀ account ∈ memory.accounts.values, account.LacksOnlyPeerIds
  keysApart : ∀ lookup, memory.KeysApart lookup
  tokensApart : memory.TokensApart

/-- Tokens are apart if they are in each index of tokens. -/
theorem tokensApart_iff {memory : Memory} :
    memory.TokensApart ↔
      ∀ which : TokenIndex, ((memory.accounts.entries.flatMap (fun entry =>
        which.entriesOf entry.2)).map Prod.fst).Nodup := by
  have keys (which : TokenIndex) :
      (memory.accounts.entries.flatMap (fun entry => which.entriesOf entry.2)).map Prod.fst =
        memory.heldTokens.map (fun held => (which.entry held.2).1) := by
    simp only [heldTokens, TokenIndex.entriesOf_eq, List.map_flatMap, List.map_map]
    rfl
  simp only [keys]
  constructor
  · rintro ⟨ids, hashes⟩ which
    cases which with
    | byHash => exact hashes
    | byToken => exact ids
  · intro all
    exact ⟨all .byToken, all .byHash⟩

variable {memory : Memory} {arrival : Arrival}

/-- A migrated memory holds what the migration makes of each account. -/
theorem get?_accounts_migrate_iff {slot : String} {migrated : Account} :
    (memory.migrate arrival).accounts.get? slot = some migrated ↔
      ∃ account, memory.accounts.get? slot = some account ∧
        migrateAccount arrival slot account = migrated := by
  rw [accounts_migrate, Dict.get?_mapValues, Option.map_eq_some_iff]

/-- Fresh identifiers set no two accounts against each other. -/
theorem keysApart_migrate
    (fresh : Fresh arrival memory.accounts)
    {lookup : Lookup}
    (apart : memory.KeysApart lookup) :
    (memory.migrate arrival).KeysApart lookup := by
  have newApart := (List.nodup_flatMap.mp fresh.distinct).2
  rw [KeysApart, accounts_migrate, Dict.mapValues, List.pairwise_map]
  refine List.Pairwise.imp_of_mem ?_ (apart.and newApart)
  rintro left right leftMember rightMember ⟨oldApart, newDisjoint⟩ key
  have leftStored := Dict.get?_eq_some_iff.mpr leftMember
  have rightStored := Dict.get?_eq_some_iff.mpr rightMember
  rw [mem_keysOf_migrateAccount fresh leftStored, mem_keysOf_migrateAccount fresh rightStored]
  rintro (leftOld | ⟨rfl, leftNew⟩) (rightOld | ⟨isPeerId, rightNew⟩)
  · exact oldApart key leftOld rightOld
  · exact fresh.apart rightMember leftMember rightNew (isPeerId ▸ leftOld)
  · exact fresh.apart leftMember rightMember leftNew rightOld
  · exact newDisjoint leftNew rightNew

/-- A migration does not touch tokens. -/
theorem tokensApart_migrate (apart : memory.TokensApart) :
    (memory.migrate arrival).TokensApart := by
  rw [tokensApart_iff] at apart ⊢
  intro which
  rw [accounts_migrate, Dict.mapValues, List.flatMap_map]
  simp only [entriesOf_migrateAccount]
  exact apart which

theorem Tidy.filed_migrate
    (tidy : memory.Tidy)
    (fresh : Fresh arrival memory.accounts) :
    (memory.migrate arrival).Filed where
  id found := by
    obtain ⟨account, stored, rfl⟩ := get?_accounts_migrate_iff.mp found
    exact (id_migrateAccount arrival _ account).trans (tidy.id _ _ stored)
  normal found := by
    obtain ⟨account, stored, rfl⟩ := get?_accounts_migrate_iff.mp found
    exact isNormal_migrateAccount (tidy.lacking account (Dict.mem_values_iff.mpr ⟨_, stored⟩))
      (fresh.finalSlots_nodup stored)

/-- The indices of a migrated memory are those that its accounts give. -/
theorem Tidy.exact_migrate
    (tidy : memory.Tidy)
    (fresh : Fresh arrival memory.accounts) :
    (memory.migrate arrival).Exact := by
  have keysApart := fun lookup => keysApart_migrate fresh (tidy.keysApart lookup)
  have tokensApart := @tokensApart_migrate memory arrival tidy.tokensApart
  rw [migrate_eq fresh] at keysApart tokensApart ⊢
  exact exact_ofAccounts keysApart tokensApart

/-! ## Saving accounts one by one -/

/-- Some accounts of a memory have been saved into another one. -/
structure Resaved (whole : Memory) (saved : List Account) (memory : Memory) : Prop where
  stored : ∀ {slot account}, memory.accounts.get? slot = some account →
    whole.accounts.get? slot = some account
  kept : ∀ account ∈ saved, memory.accounts.get? account.id = some account
  backed : memory.Backed
  indices : ∀ lookup, ∀ account ∈ saved, ∀ key ∈ Lookup.keysOf lookup account,
    (memory.indices.get lookup).get? key = some account.id
  tokens : ∀ which, ∀ account ∈ saved, ∀ entry ∈ TokenIndex.entriesOf which account,
    (memory.tokenIndex which).get? entry.1 = some entry.2

section Resaved

variable {whole : Memory} {saved : List Account} {account : Account}

theorem Resaved.filed (resaved : Resaved whole saved memory) (filed : whole.Filed) :
    memory.Filed where
  id found := filed.id (resaved.stored found)
  normal found := filed.normal (resaved.stored found)

/-- Nothing is saved yet in a memory without indices. -/
theorem resaved_nil
    (unindexed : memory.withoutIndices = memory)
    (stored : ∀ slot account, memory.accounts.get? slot = some account →
      whole.accounts.get? slot = some account) :
    Resaved whole [] memory where
  stored := stored _ _
  kept _ member := absurd member List.not_mem_nil
  backed := by
    rw [← unindexed]
    constructor
    · intro lookup key id found
      cases lookup <;> cases found
    · intro which key value found
      cases which <;> cases found
  indices _ _ member := absurd member List.not_mem_nil
  tokens _ _ member := absurd member List.not_mem_nil

theorem Resaved.present
    (resaved : Resaved whole saved memory)
    {other : Account}
    (member : other ∈ saved) :
    whole.accounts.get? other.id = some other :=
  resaved.stored (resaved.kept other member)

/-- An account saved before is the one saved now, or is filed elsewhere. -/
theorem Resaved.eq_or_foreign
    (resaved : Resaved whole saved memory)
    (present : whole.accounts.get? account.id = some account)
    {other : Account}
    (member : other ∈ account :: saved) :
    other = account ∨ other ∈ saved ∧ account.id ≠ other.id := by
  rcases List.mem_cons.mp member with here | before
  · exact .inl here
  · by_cases same : account.id = other.id
    · left
      rw [same, resaved.present before, Option.some.injEq] at present
      exact present
    · exact .inr ⟨before, same⟩

/-- An entry for a key goes to the account saved now, or was there and stays. -/
theorem Resaved.indices_save
    (resaved : Resaved whole saved memory)
    (filed : whole.Filed)
    {lookup : Lookup}
    (keysApart : whole.KeysApart lookup)
    (present : whole.accounts.get? account.id = some account)
    {other : Account}
    (member : other ∈ account :: saved)
    {key : String}
    (listed : key ∈ lookup.keysOf other) :
    ((memory.save account).indices.get lookup).get? key = some other.id := by
  rw [index_save, filed.normal present]
  rcases resaved.eq_or_foreign present member with rfl | ⟨before, foreign⟩
  · exact if_pos listed
  · have unclaimed : key ∉ lookup.keysOf account := fun claimed =>
      foreign (keysApart.slot_eq present (resaved.present before) claimed listed)
    rw [if_neg unclaimed, index_drop_iff (resaved.filed filed)]
    exact ⟨resaved.indices lookup other before key listed,
      fun _ _ both => foreign both.2.symm⟩

/-- An entry for a token comes with the account saved now, or was there and stays. -/
theorem Resaved.tokens_save
    (resaved : Resaved whole saved memory)
    (filed : whole.Filed)
    (tokensApart : whole.TokensApart)
    (present : whole.accounts.get? account.id = some account)
    {which : TokenIndex}
    {other : Account}
    (member : other ∈ account :: saved)
    {key value : String}
    (listed : (key, value) ∈ which.entriesOf other) :
    ((memory.save account).tokenIndex which).get? key = some value := by
  rw [tokenIndex_save, filed.normal present]
  rcases resaved.eq_or_foreign present member with rfl | ⟨before, foreign⟩
  · obtain ⟨newValue, newListed, entry⟩ := exists_get?_addEntries
      ((memory.drop other.id).tokenIndex which)
      (List.mem_map.mpr ⟨(key, value), listed, rfl⟩)
    rw [entry, (tokensApart.entry_eq present present newListed listed).2]
  · have otherPresent := resaved.present before
    have unclaimed : key ∉ (which.entriesOf account).map Prod.fst := by
      intro claimed
      obtain ⟨⟨_, newValue⟩, newListed, rfl⟩ := List.mem_map.mp claimed
      exact foreign (tokensApart.entry_eq present otherPresent newListed listed).1
    rw [get?_addEntries_of_absent unclaimed, tokenIndex_drop_iff]
    refine ⟨resaved.tokens which other before _ listed, ?_⟩
    intro old oldFound oldListed
    exact foreign (tokensApart.entry_eq (resaved.stored oldFound) otherPresent
      oldListed listed).1

/-- Saving one more account of the whole keeps the entries of those saved before. -/
theorem Resaved.save
    (resaved : Resaved whole saved memory)
    (filed : whole.Filed)
    (keysApart : ∀ lookup, whole.KeysApart lookup)
    (tokensApart : whole.TokensApart)
    (present : whole.accounts.get? account.id = some account) :
    Resaved whole (account :: saved) (memory.save account) where
  stored := by
    intro slot other found
    rw [accounts_save, filed.normal present] at found
    split at found
    · rename_i here
      rw [← here, present, found]
    · exact resaved.stored found
  kept := by
    intro other member
    rw [accounts_save, filed.normal present]
    rcases resaved.eq_or_foreign present member with rfl | ⟨before, foreign⟩
    · exact if_pos rfl
    · rw [if_neg foreign, resaved.kept other before]
  backed := resaved.backed.save (resaved.filed filed) account
  indices lookup _ member _ listed :=
    resaved.indices_save filed (keysApart lookup) present member listed
  tokens _ _ member _ listed :=
    resaved.tokens_save filed tokensApart present member listed

/-- A save of an account with an identifier succeeds. -/
theorem perform_save_of_named (named : account.id ≠ "") :
    memory.perform (.save account) = (memory.save account).written := by
  simp [perform, named]

/-- Over a run of saves more and more accounts are saved. -/
theorem Resaved.run
    (resaved : Resaved whole saved memory)
    (filed : whole.Filed)
    (keysApart : ∀ lookup, whole.KeysApart lookup)
    (tokensApart : whole.TokensApart)
    {order : List Account}
    (present : ∀ account ∈ order,
      account.id ≠ "" ∧ whole.accounts.get? account.id = some account) :
    Resaved whole (order.reverse ++ saved) (memory.run (order.map .save)) ∧
      (memory.run (order.map .save)).installation = memory.installation := by
  induction order generalizing memory saved with
  | nil => exact ⟨resaved, rfl⟩
  | cons account rest inductionHypothesis =>
      obtain ⟨named, here⟩ := present account List.mem_cons_self
      have saved := resaved.save filed keysApart tokensApart here
      obtain ⟨later, installation⟩ := inductionHypothesis saved
        (fun other member => present other (List.mem_cons_of_mem _ member))
      have step : memory.run ((account :: rest).map .save) =
          (memory.save account).run (rest.map .save) := by
        rw [List.map_cons, run, List.foldl_cons, perform_save_of_named named]
        rfl
      rw [step, List.reverse_cons, List.append_assoc]
      exact ⟨later, installation.trans (memory.installation_save account)⟩

/-- Once all accounts of an exact memory are saved, the memory has been made again. -/
theorem Resaved.eq_whole
    (resaved : Resaved whole saved memory)
    (exactness : whole.Exact)
    (filed : whole.Filed)
    (all : ∀ account ∈ whole.accounts.values, account ∈ saved) :
    memory = { whole with installation := memory.installation } := by
  have mem_saved : ∀ {slot account}, whole.accounts.get? slot = some account →
      account ∈ saved ∧ account.id = slot := by
    intro slot account found
    exact ⟨all account (Dict.mem_values_iff.mpr ⟨slot, found⟩), filed.id found⟩
  apply ext_lookups
  case accounts =>
    apply Dict.ext_get?
    intro slot
    apply Option.ext
    intro account
    refine ⟨resaved.stored, ?_⟩
    intro found
    obtain ⟨member, rfl⟩ := mem_saved found
    exact resaved.kept account member
  case installation => rfl
  case indices =>
    intro lookup
    apply Dict.ext_get?
    intro key
    apply Option.ext
    intro id
    constructor
    · intro found
      obtain ⟨account, stored, listed⟩ := resaved.backed.accounts found
      exact exactness.complete lookup (resaved.stored stored) listed
    · intro found
      obtain ⟨account, stored, listed⟩ := exactness.backed.accounts found
      obtain ⟨member, rfl⟩ := mem_saved stored
      exact resaved.indices lookup account member key listed
  case tokens =>
    intro which
    apply Dict.ext_get?
    intro key
    apply Option.ext
    intro value
    have tokenIndexSame :
        ({ whole with installation := memory.installation } : Memory).tokenIndex which =
          whole.tokenIndex which := by
      cases which <;> rfl
    rw [tokenIndexSame]
    constructor
    · intro found
      obtain ⟨slot, account, stored, listed⟩ := resaved.backed.tokens found
      exact exactness.tokensComplete which (resaved.stored stored) listed
    · intro found
      obtain ⟨slot, account, stored, listed⟩ := exactness.backed.tokens found
      exact resaved.tokens which account (mem_saved stored).1 (key, value) listed

end Resaved

/-! ## Reads -/

/-- No read but the one of the installation depends on it. -/
theorem outcome_installation
    (memory : Memory)
    (installation : String)
    {call : Call}
    (reads : Reads call)
    (other : call ≠ .installation) :
    (({ memory with installation := installation } : Memory).perform call).outcome =
      (memory.perform call).outcome := by
  cases call with
  | get id => rfl
  | all => rfl
  | find lookup key =>
      show (follow { memory with installation := installation } lookup key).found.map
        Answer.account = (memory.follow lookup key).found.map _
      rw [follow_found_eq, follow_found_eq]
      rfl
  | idByPeerKey key =>
      show (followId { memory with installation := installation } .peerKey key).found.map
        Answer.text = (memory.followId .peerKey key).found.map _
      rw [followId_found_eq, followId_found_eq]
      rfl
  | tokenByHash hash =>
      show (tokenByHash { memory with installation := installation } hash).found.map
        Answer.text = (memory.tokenByHash hash).found.map _
      rw [tokenByHash_found_eq, tokenByHash_found_eq]
      rfl
  | userByToken token =>
      show (userByToken { memory with installation := installation } token).found.map
        Answer.user = (memory.userByToken token).found.map _
      rw [userByToken_found_eq, userByToken_found_eq]
      rfl
  | installation => exact absurd rfl other
  | _ => exact reads.elim

/-! ## Loading and saving -/

/-- The accounts of a migrated memory have identifiers, under which they are filed. -/
theorem Tidy.present_migrate
    (tidy : memory.Tidy)
    (fresh : Fresh arrival memory.accounts)
    {account : Account}
    (member : account ∈ (memory.migrate arrival).accounts.values) :
    account.id ≠ "" ∧
      (memory.migrate arrival).accounts.get? account.id = some account := by
  obtain ⟨slot, found⟩ := Dict.mem_values_iff.mp member
  have filedHere : account.id = slot := (tidy.filed_migrate fresh).id found
  refine ⟨?_, filedHere ▸ found⟩
  obtain ⟨before, stored, rfl⟩ := get?_accounts_migrate_iff.mp found
  rw [id_migrateAccount]
  exact tidy.named before (Dict.mem_values_iff.mpr ⟨slot, stored⟩)

/--
A tidy memory is migrated, with fresh identifiers, into one with all accounts in
normal form. Whoever starts without index entries, with or without accounts of
the migrated memory, and saves all of these one by one in any order, succeeds
each time and ends with the same accounts and the same seven indices. So every
read but that of the installation is answered alike.
-/
theorem migrate_eq_run_saves
    (tidy : memory.Tidy)
    (fresh : Fresh arrival memory.accounts) :
    (∀ account ∈ (memory.migrate arrival).accounts.values, account.IsNormal) ∧
      ∀ start : Memory, start.withoutIndices = start →
        (∀ slot account, start.accounts.get? slot = some account →
          (memory.migrate arrival).accounts.get? slot = some account) →
        ∀ order : List Account, order.Perm (memory.migrate arrival).accounts.values →
          (∀ reached : Memory, ∀ account ∈ order,
            (reached.perform (.save account)).outcome = .ok .done) ∧
          start.run (order.map .save) =
            { memory.migrate arrival with installation := start.installation } ∧
          ∀ call, Reads call → call ≠ .installation →
            ((start.run (order.map .save)).perform call).outcome =
              ((memory.migrate arrival).perform call).outcome := by
  have filed := tidy.filed_migrate fresh
  constructor
  · intro account member
    obtain ⟨slot, found⟩ := Dict.mem_values_iff.mp member
    exact filed.normal found
  intro start unindexed stored order permuted
  have present : ∀ account ∈ order, account.id ≠ "" ∧
      (memory.migrate arrival).accounts.get? account.id = some account :=
    fun account member => tidy.present_migrate fresh (permuted.mem_iff.mp member)
  obtain ⟨resaved, installation⟩ := (resaved_nil unindexed stored).run filed
    (fun lookup => keysApart_migrate fresh (tidy.keysApart lookup))
    (tokensApart_migrate tidy.tokensApart) present
  have again := resaved.eq_whole (tidy.exact_migrate fresh) filed
    (fun account member => by simpa using permuted.mem_iff.mpr member)
  rw [installation] at again
  refine ⟨?_, again, ?_⟩
  · intro reached account member
    rw [perform_save_of_named (present account member).1]
    rfl
  · intro call reads other
    rw [again]
    exact outcome_installation _ _ reads other

/-- An account whose peer has no identifier, and one with a setup key and a token. -/
def mixedMemory : Memory where
  accounts := .ofList [("acc1", legacyAccount), ("b", household "b")]

/-- The two accounts are migrated, and saved in the opposite order into an empty memory. -/
theorem migrate_eq_run_saves_mixed :
    let migrated := mixedMemory.migrate plainArrival
    let order := [migrateAccount plainArrival "b" (household "b"),
      migrateAccount plainArrival "acc1" legacyAccount]
    mixedMemory.Tidy ∧ Fresh plainArrival mixedMemory.accounts ∧
      order.Perm migrated.accounts.values ∧
      empty.run (order.map .save) = migrated ∧
      migrated.indices.peerId.get? "peer-public" = some "acc1" ∧
      ((empty.run (order.map .save)).perform (.find .setupKey "key-1")).outcome =
        (migrated.perform (.find .setupKey "key-1")).outcome := by
  intro migrated order
  have tidy : mixedMemory.Tidy :=
    ⟨by decide +kernel, by decide +kernel, by decide +kernel,
      forall_lookup_iff.mpr (by decide +kernel), by decide +kernel⟩
  have fresh : Fresh plainArrival mixedMemory.accounts :=
    ⟨by decide +kernel, by decide +kernel, by decide +kernel⟩
  have permuted : order.Perm migrated.accounts.values := by
    rw [accounts_migrate]
    exact .swap _ _ []
  obtain ⟨_, again, alike⟩ := (migrate_eq_run_saves tidy fresh).2 empty rfl
    (fun _ _ found => by cases found) order permuted
  exact ⟨tidy, fresh, permuted, again, by decide +kernel,
    alike (.find .setupKey "key-1") trivial Call.noConfusion⟩

end Memory

end FileEngine

end TenantStore
