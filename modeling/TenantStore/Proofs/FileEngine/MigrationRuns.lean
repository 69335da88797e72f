import TenantStore.Proofs.FileEngine.MigratedAccounts
import TenantStore.Proofs.FileEngine.Rebuilding

namespace TenantStore.FileEngine

/-!
# What a migration leaves

A migration fills the indices on the way and patches them where its last step
gives peers new identifiers. While these are fresh, the indices are in the end
those made anew from the changed accounts: `migrate_eq`. A second migration
finds every account in current shape, so it makes the same memory again.
-/

namespace Migration

/-! ## Accounts along the steps -/

/-- A step changes each account on its own, and keeps the installation. -/
def Step.ChangesBy (step : Step) (change : String → Account → Account) : Prop :=
  ∀ memory,
    (step.change memory).accounts = memory.accounts.mapValues change ∧
      (step.change memory).installation = memory.installation

/-- A step that leaves accounts and installation changes by nothing. -/
theorem Step.ChangesBy.of_same
    {step : Step}
    (same : ∀ memory,
      (step.change memory).accounts = memory.accounts ∧
        (step.change memory).installation = memory.installation) :
    step.ChangesBy (fun _ => id) := by
  intro memory
  have kept : memory.accounts.mapValues (fun _ => id) = memory.accounts :=
    Dict.mapValues_of_forall_mem (fun _ _ => rfl)
  rw [kept]
  exact same memory

/-- A run of steps applies to each account the changes of the steps in turn. -/
theorem runSteps_changes
    {steps : List Step}
    {changes : List (String → Account → Account)}
    (each : List.Forall₂ Step.ChangesBy steps changes)
    (memory : Memory) :
    (runSteps steps memory).1.accounts =
        memory.accounts.mapValues (fun slot account =>
          changes.foldl (fun account change => change slot account) account) ∧
      (runSteps steps memory).1.installation = memory.installation := by
  induction each generalizing memory with
  | nil => exact ⟨(Dict.mapValues_of_forall_mem (fun _ _ => rfl)).symm, rfl⟩
  | cons here _ inductionHypothesis =>
      obtain ⟨accounts, installation⟩ := here memory
      obtain ⟨laterAccounts, laterInstallation⟩ := inductionHypothesis _
      refine ⟨?_, laterInstallation.trans installation⟩
      rw [accounts, Dict.mapValues_mapValues] at laterAccounts
      exact laterAccounts

/-- Each step changes accounts as its place among the changes says. -/
theorem steps_change (arrival : Arrival) :
    List.Forall₂ Step.ChangesBy (steps arrival) (accountChanges arrival) := by
  refine .cons ?_ (.cons ?_ (.cons ?_ (.cons ?_ (.cons ?_ (.cons ?_ (.cons ?_ (.cons ?_
    (.cons ?_ .nil))))))))
  case refine_2 => exact .of_same (fun _ => ⟨rfl, rfl⟩)
  case refine_4 => exact .of_same (fun _ => ⟨rfl, rfl⟩)
  all_goals exact fun _ => ⟨rfl, rfl⟩

/-- Every account is migrated on its own. -/
theorem accounts_migrate (arrival : Arrival) (memory : Memory) :
    (memory.migrate arrival).accounts =
      memory.accounts.mapValues (migrateAccount arrival) :=
  (runSteps_changes (steps_change arrival) memory.withoutIndices).1

/-- A migration leaves the installation. -/
theorem installation_migrate (arrival : Arrival) (memory : Memory) :
    (memory.migrate arrival).installation = memory.installation :=
  (runSteps_changes (steps_change arrival) memory.withoutIndices).2

/-! ## Indices along the steps -/

/-- The new identifiers, entered after all steps but the last, are known from the start. -/
theorem enterAll_newPeerEntries_backfill
    (arrival : Arrival)
    (accounts : Dict Account)
    (index : Dict String) :
    enterAll (newPeerEntries arrival) (accounts.mapValues (fun _ => backfill)) index =
      enterAll (newPeerEntries arrival) accounts index := by
  rw [enterAll_mapValues]
  congr 1
  funext slot account
  rw [newPeerEntries, newPeerIds_backfill]
  rfl

/-- Each index is filled from the accounts as they were, and that of peers patched. -/
theorem get_indices_migrate (arrival : Arrival) (memory : Memory) (lookup : Lookup) :
    (memory.migrate arrival).indices.get lookup =
      if lookup = .peerId then
        enterAll (newPeerEntries arrival) memory.accounts
          (enterAll (keyEntries lookup) memory.accounts ∅)
      else
        enterAll (keyEntries lookup) memory.accounts ∅ := by
  have settled (entriesOf : String → Account → List (String × String)) :=
    enterAll_mapValues entriesOf memory.accounts (fun _ => supplySettings) ∅
  cases lookup
  case setupKey => exact settled _
  case peerKey => exact settled _
  case user => exact settled _
  case privateDomain =>
    exact (enterAll_mapValues _ (memory.accounts.mapValues (fun _ => supplySettings))
      (fun _ => supplyUserIssuers) ∅).trans (settled _)
  case peerId =>
    rw [if_pos rfl, ← enterAll_newPeerEntries_backfill]
    have backfilled : (((((memory.accounts.mapValues (fun _ => supplySettings)).mapValues
        (fun _ => supplyUserIssuers)).mapValues (fun _ => upgradePolicies)).mapValues
        (fun _ => labelPeers)).mapValues (fun _ => supplyGroupIssuers)).mapValues
        (fun _ => supplyRouteGroups) = memory.accounts.mapValues (fun _ => backfill) := by
      simp only [Dict.mapValues_mapValues]
      rfl
    rw [← backfilled]
    exact congrArg (enterAll (newPeerEntries arrival) _) (settled (keyEntries .peerId))

/-- The indices of tokens are those of the tokens that were there. -/
theorem tokenIndex_migrate (arrival : Arrival) (memory : Memory) (which : TokenIndex) :
    (memory.migrate arrival).tokenIndex which =
      enterAll (fun _ => which.entriesOf) memory.accounts ∅ := by
  have settled :=
    enterAll_mapValues (fun _ => which.entriesOf) memory.accounts (fun _ => supplySettings) ∅
  cases which
  case byHash => exact settled
  case byToken => exact settled

/-! ## Fresh identifiers -/

/-- The identifiers that peers are about to get. -/
def newIds (arrival : Arrival) (accounts : Dict Account) : List String :=
  accounts.entries.flatMap (fun entry => newPeerIds arrival entry.1 entry.2)

/-- New identifiers are not empty, differ from each other, and are not in use. -/
structure Fresh (arrival : Arrival) (accounts : Dict Account) : Prop where
  nonempty : ∀ id ∈ newIds arrival accounts, id ≠ ""
  distinct : (newIds arrival accounts).Nodup
  unused : ∀ id ∈ newIds arrival accounts, ∀ account ∈ accounts.values,
    ∀ entry ∈ account.peers.entries, id ≠ entry.1 ∧ id ≠ entry.2.id

variable {arrival : Arrival} {accounts : Dict Account}
  {slot : String} {account : Account}

/-- What is new in an account is new in the whole. -/
theorem mem_newIds (stored : accounts.get? slot = some account) {id : String}
    (new : id ∈ newPeerIds arrival slot account) :
    id ∈ newIds arrival accounts :=
  List.mem_flatMap.mpr ⟨(slot, account), Dict.get?_eq_some_iff.mp stored, new⟩

/-- No identifier is given twice in one account. -/
theorem Fresh.distinct_within
    (fresh : Fresh arrival accounts)
    (stored : accounts.get? slot = some account) :
    (newPeerIds arrival slot account).Nodup := by
  have nodup := fresh.distinct
  rw [newIds, List.nodup_flatMap] at nodup
  exact nodup.1 (slot, account) (Dict.get?_eq_some_iff.mp stored)

/-- If new identifiers differ from each other and from slots, peers end up in different places. -/
theorem finalSlots_nodup
    (distinct : (newPeerIds arrival slot account).Nodup)
    (unused : ∀ id ∈ newPeerIds arrival slot account, id ∉ account.peers.keys) :
    (account.peers.entries.map (fun entry =>
      finalSlot arrival slot account entry.1 entry.2)).Nodup := by
  have entriesDistinct : account.peers.entries.Nodup := account.peers.keys_nodup.of_map _
  have inUse : ∀ left ∈ account.peers.entries, ∀ right ∈ account.peers.entries,
      left.2.id = "" → newPeerId arrival slot account left.1 left.2 ≠ right.1 := by
    intro left leftMember right rightMember nameless same
    have new : newPeerId arrival slot account left.1 left.2 ∈ newPeerIds arrival slot account :=
      mem_newPeerIds (Dict.get?_eq_some_iff.mpr leftMember) nameless
    exact unused _ new (same ▸ List.mem_map.mpr ⟨right, rightMember, rfl⟩)
  apply List.Nodup.map_on _ entriesDistinct
  intro left leftMember right rightMember same
  unfold finalSlot at same
  split at same <;> split at same
  · rename_i leftNameless rightNameless
    apply List.inj_on_of_nodup_map distinct _ _ same
    · exact List.mem_filter.mpr ⟨leftMember, leftNameless⟩
    · exact List.mem_filter.mpr ⟨rightMember, rightNameless⟩
  · rename_i leftNameless _
    exact absurd same (inUse left leftMember right rightMember
      (String.isEmpty_iff.mp leftNameless))
  · rename_i _ rightNameless
    exact absurd same.symm (inUse right rightMember left leftMember
      (String.isEmpty_iff.mp rightNameless))
  · exact List.inj_on_of_nodup_map account.peers.keys_nodup leftMember rightMember same

/-- While new identifiers are fresh, no two peers end up in one place. -/
theorem Fresh.finalSlots_nodup
    (fresh : Fresh arrival accounts)
    (stored : accounts.get? slot = some account) :
    (account.peers.entries.map (fun entry =>
      finalSlot arrival slot account entry.1 entry.2)).Nodup := by
  apply Migration.finalSlots_nodup (fresh.distinct_within stored)
  intro id new used
  obtain ⟨entry, entryMember, rfl⟩ := List.mem_map.mp used
  exact (fresh.unused _ (mem_newIds stored new) account
    (Dict.mem_values_iff.mpr ⟨slot, stored⟩) entry entryMember).1 rfl

/-! ## The keys of a migrated account -/

/-- What a peer is found by. -/
def names (peer : Peer) : String × String :=
  (peer.key, peer.id)

/-- A label has no part in identifying a peer. -/
theorem names_identifyPeer_relabel
    (arrival : Arrival)
    (accountSlot : String)
    (account : Account)
    (slot label : String)
    (peer : Peer) :
    names (identifyPeer arrival accountSlot account slot (relabel label peer)) =
      names (identifyPeer arrival accountSlot account slot peer) := by
  by_cases nameless : peer.id.isEmpty = true <;>
    simp [identifyPeer, relabel, nameless, names, newPeerId]

/-- If no two peers end up in one place, the last step loses none. -/
theorem mem_names_identifyPeers
    (distinct : (account.peers.entries.map (fun entry =>
      finalSlot arrival slot account entry.1 entry.2)).Nodup)
    {pair : String × String} :
    pair ∈ (identifyPeers arrival slot account).peers.values.map names ↔
      pair ∈ account.peers.entries.map (fun entry =>
        names (identifyPeer arrival slot account entry.1 entry.2)) := by
  have kept (peer : Peer) : names (supplyLogin (arrival.loginTime slot) peer) = names peer := rfl
  rw [List.mem_map, List.mem_map]
  constructor
  · rintro ⟨identified, member, rfl⟩
    obtain ⟨place, peer, found, rfl⟩ := mem_identifyPeers member
    exact ⟨(place, peer), Dict.get?_eq_some_iff.mp found, (kept _).symm⟩
  · rintro ⟨entry, member, rfl⟩
    refine ⟨_, Dict.mem_values_iff.mpr ⟨_, (Dict.get?_ofList_iff ?_).mpr
      (List.mem_map.mpr ⟨entry, member, rfl⟩)⟩, kept _⟩
    rw [List.map_map]
    exact distinct

/-- The names of the peers of a migrated account, in terms of the account before. -/
theorem mem_names_migrateAccount
    (fresh : Fresh arrival accounts)
    (stored : accounts.get? slot = some account)
    {pair : String × String} :
    pair ∈ (migrateAccount arrival slot account).peers.values.map names ↔
      pair ∈ account.peers.entries.map (fun entry =>
        names (identifyPeer arrival slot account entry.1 entry.2)) := by
  obtain ⟨labelOf, filled, _⟩ := backfill_eq account
  have places := fresh.finalSlots_nodup stored
  have samePlaces :
      (backfill account).peers.entries.map (fun entry =>
          finalSlot arrival slot (backfill account) entry.1 entry.2) =
        account.peers.entries.map (fun entry =>
          finalSlot arrival slot account entry.1 entry.2) := by
    rw [filled]
    exact List.map_map
  have sameNames :
      (backfill account).peers.entries.map (fun entry =>
          names (identifyPeer arrival slot (backfill account) entry.1 entry.2)) =
        account.peers.entries.map (fun entry =>
          names (identifyPeer arrival slot account entry.1 entry.2)) := by
    rw [filled]
    refine List.map_map.trans (List.map_congr_left ?_)
    intro entry _
    exact names_identifyPeer_relabel arrival slot account entry.1 _ entry.2
  rw [← samePlaces] at places
  rw [migrateAccount_eq, mem_names_identifyPeers places, sameNames]

/-- A peer keeps its key. -/
theorem identifyPeer_key (arrival : Arrival) (accountSlot : String) (account : Account)
    (slot : String) (peer : Peer) :
    (identifyPeer arrival accountSlot account slot peer).key = peer.key := by
  rw [identifyPeer]
  split <;> rfl

/-- What a peer is found by is found in a migrated account on the identified peers. -/
theorem mem_names_part_migrateAccount
    (fresh : Fresh arrival accounts)
    (stored : accounts.get? slot = some account)
    {read : Peer → String}
    {part : String × String → String}
    (parts : ∀ peer, part (names peer) = read peer)
    {name : String} :
    name ∈ (migrateAccount arrival slot account).peers.values.map read ↔
      ∃ entry ∈ account.peers.entries,
        read (identifyPeer arrival slot account entry.1 entry.2) = name := by
  have split (peers : Dict Peer) :
      peers.values.map read = (peers.values.map names).map part := by
    rw [List.map_map]
    exact List.map_congr_left (fun peer _ => (parts peer).symm)
  rw [split, List.mem_map]
  simp only [mem_names_migrateAccount fresh stored, List.mem_map]
  constructor
  · rintro ⟨_, ⟨entry, member, rfl⟩, rfl⟩
    exact ⟨entry, member, (parts _).symm⟩
  · rintro ⟨entry, member, rfl⟩
    exact ⟨_, ⟨entry, member, rfl⟩, parts _⟩

/-- An account has the peer keys that it had. -/
theorem mem_peerKey_migrateAccount
    (fresh : Fresh arrival accounts)
    (stored : accounts.get? slot = some account)
    {key : String} :
    key ∈ (migrateAccount arrival slot account).peers.values.map Peer.key ↔
      key ∈ account.peers.values.map Peer.key := by
  have parts (peer : Peer) : (names peer).1 = peer.key := rfl
  rw [mem_names_part_migrateAccount fresh stored parts]
  simp only [identifyPeer_key, Dict.values, List.map_map, List.mem_map, Function.comp_apply]

/-- An account has the peer identifiers that it had, and the new ones. -/
theorem mem_peerId_migrateAccount
    (fresh : Fresh arrival accounts)
    (stored : accounts.get? slot = some account)
    {id : String}
    (named : id ≠ "") :
    id ∈ (migrateAccount arrival slot account).peers.values.map Peer.id ↔
      id ∈ account.peers.values.map Peer.id ∨ id ∈ newPeerIds arrival slot account := by
  have parts (peer : Peer) : (names peer).2 = peer.id := rfl
  rw [mem_names_part_migrateAccount fresh stored parts]
  constructor
  · rintro ⟨entry, member, rfl⟩
    by_cases nameless : entry.2.id = ""
    · right
      simpa [identifyPeer, nameless] using
        mem_newPeerIds (Dict.get?_eq_some_iff.mpr member) nameless
    · left
      exact List.mem_map.mpr ⟨entry.2, List.mem_map.mpr ⟨entry, member, rfl⟩, by
        simp [identifyPeer, nameless]⟩
  · rintro (old | new)
    · obtain ⟨_, valueMember, rfl⟩ := List.mem_map.mp old
      obtain ⟨entry, member, rfl⟩ := List.mem_map.mp valueMember
      exact ⟨entry, member, by simp [identifyPeer, named]⟩
    · obtain ⟨entry, member, rfl⟩ := List.mem_map.mp new
      obtain ⟨present, nameless⟩ := List.mem_filter.mp member
      exact ⟨entry, present, by simp [identifyPeer, String.isEmpty_iff.mp nameless]⟩

/-- A migrated account is found by what it was found by, and by the new identifiers. -/
theorem mem_keysOf_migrateAccount
    (fresh : Fresh arrival accounts)
    (stored : accounts.get? slot = some account)
    (lookup : Lookup)
    {key : String} :
    key ∈ lookup.keysOf (migrateAccount arrival slot account) ↔
      key ∈ lookup.keysOf account ∨
        lookup = .peerId ∧ key ∈ newPeerIds arrival slot account := by
  obtain ⟨labelOf, filled, _⟩ := backfill_eq account
  cases lookup
  case setupKey =>
    have same : (migrateAccount arrival slot account).setupKeys = account.setupKeys := by
      rw [migrateAccount_eq, filled]
      rfl
    simp [Lookup.keysOf, same]
  case peerKey =>
    simp only [Lookup.keysOf, List.mem_filter, mem_peerKey_migrateAccount fresh stored]
    simp
  case peerId =>
    by_cases named : key = ""
    · have notNew : "" ∉ newPeerIds arrival slot account := fun new =>
        fresh.nonempty "" (mem_newIds stored new) rfl
      simp [Lookup.keysOf, named, notNew]
    · simp only [Lookup.keysOf, List.mem_filter, mem_peerId_migrateAccount fresh stored named]
      simp [named]
  case user =>
    have same : (migrateAccount arrival slot account).users =
        account.users.mapValues (fun _ => supplyUserIssuer) := by
      rw [migrateAccount_eq, filled]
      rfl
    have ids : (account.users.values.map supplyUserIssuer).map User.id =
        account.users.values.map User.id := List.map_map
    simp [Lookup.keysOf, same, Dict.values_mapValues, ids]
  case privateDomain =>
    have same : Lookup.privateDomain.keysOf (migrateAccount arrival slot account) =
        Lookup.privateDomain.keysOf account := by
      rw [migrateAccount_eq, filled]
      rfl
    simp [same]

/-- An account has the tokens that it had. -/
theorem entriesOf_migrateAccount
    (arrival : Arrival)
    (slot : String)
    (account : Account)
    (which : TokenIndex) :
    which.entriesOf (migrateAccount arrival slot account) = which.entriesOf account := by
  obtain ⟨_, filled, _⟩ := backfill_eq account
  have users : (migrateAccount arrival slot account).users =
      account.users.mapValues (fun _ => supplyUserIssuer) := by
    rw [migrateAccount_eq, filled]
    rfl
  simp only [TokenIndex.entriesOf_eq, Memory.tokensOf, users, Dict.values_mapValues,
    List.flatMap_map, List.map_flatMap, List.map_map]
  cases which <;> rfl

/-! ## The memory afterwards -/

/-- An identifier that some peer is about to get is one that no peer has. -/
theorem Fresh.apart
    (fresh : Fresh arrival accounts)
    {key : String}
    {left right : String × Account}
    (leftMember : left ∈ accounts.entries)
    (rightMember : right ∈ accounts.entries)
    (new : key ∈ newPeerIds arrival left.1 left.2) :
    key ∉ Lookup.peerId.keysOf right.2 := by
  intro old
  obtain ⟨peer, peerMember, rfl⟩ := List.mem_map.mp (List.mem_filter.mp old).1
  obtain ⟨entry, entryMember, rfl⟩ := List.mem_map.mp peerMember
  have isNew := mem_newIds (Dict.get?_eq_some_iff.mpr leftMember) new
  exact (fresh.unused _ isNew right.2 (List.mem_map.mpr ⟨right, rightMember, rfl⟩)
    entry entryMember).2 rfl

/-- Patching the index of peers makes what entering the changed accounts makes. -/
theorem enterAll_peerId_migrateAccount (fresh : Fresh arrival accounts) :
    enterAll (newPeerEntries arrival) accounts (enterAll (keyEntries .peerId) accounts ∅) =
      enterAll (keyEntries .peerId) (accounts.mapValues (migrateAccount arrival)) ∅ := by
  have patched := @enterAll_keys_append (fun _ => Lookup.peerId.keysOf) (newPeerIds arrival)
    accounts ∅ (fun _ leftMember _ rightMember _ => fresh.apart leftMember rightMember)
  rw [enterAll_mapValues]
  refine patched.trans (enterAll_keys_congr ∅ ?_)
  intro entry member key
  rw [List.mem_append, or_comm,
    mem_keysOf_migrateAccount fresh (Dict.get?_eq_some_iff.mpr member)]
  simp

/-- The other indices are the same for the accounts before and after. -/
theorem enterAll_migrateAccount
    (fresh : Fresh arrival accounts)
    {lookup : Lookup}
    (other : lookup ≠ .peerId) :
    enterAll (keyEntries lookup) accounts ∅ =
      enterAll (keyEntries lookup) (accounts.mapValues (migrateAccount arrival)) ∅ := by
  rw [enterAll_mapValues]
  refine @enterAll_keys_congr (fun _ => lookup.keysOf) _ accounts ∅ ?_
  intro entry member key
  rw [mem_keysOf_migrateAccount fresh (Dict.get?_eq_some_iff.mpr member)]
  simp [other]

/-- A migration makes the memory that the changed accounts make anew. -/
theorem migrate_eq
    {memory : Memory}
    (fresh : Fresh arrival memory.accounts) :
    memory.migrate arrival =
      .ofAccounts (memory.accounts.mapValues (migrateAccount arrival))
        memory.installation := by
  apply Memory.ext_lookups
  · exact accounts_migrate arrival memory
  · exact installation_migrate arrival memory
  · intro lookup
    rw [get_indices_migrate, Memory.ofAccounts, Indices.get_of]
    split
    · rename_i isPeerId
      rw [isPeerId]
      exact enterAll_peerId_migrateAccount fresh
    · rename_i other
      exact enterAll_migrateAccount fresh other
  · intro which
    rw [tokenIndex_migrate, Memory.tokenIndex_ofAccounts, enterAll_mapValues]
    simp only [entriesOf_migrateAccount]

/-- Accounts with identifiers for all peers need no new ones. -/
theorem fresh_of_named (later : Arrival)
    (named : ∀ slot account, accounts.get? slot = some account →
      ∀ peer ∈ account.peers.values, peer.id ≠ "") :
    Fresh later accounts := by
  have none : newIds later accounts = [] := by
    rw [List.eq_nil_iff_forall_not_mem]
    intro id new
    obtain ⟨⟨slot, account⟩, member, newHere⟩ := List.mem_flatMap.mp new
    obtain ⟨entry, entryMember, _⟩ := List.mem_map.mp newHere
    obtain ⟨present, nameless⟩ := List.mem_filter.mp entryMember
    exact named slot account (Dict.get?_eq_some_iff.mpr member) entry.2
      (List.mem_map.mpr ⟨entry, present, rfl⟩) (String.isEmpty_iff.mp nameless)
  constructor <;> simp [none]

/-- Every account is current after a migration. -/
theorem isCurrent_of_migrate
    {memory : Memory}
    (clock : arrival.Running)
    (fresh : Fresh arrival memory.accounts)
    (found : (memory.migrate arrival).accounts.get? slot = some account) :
    account.IsCurrent := by
  rw [accounts_migrate, Dict.get?_mapValues, Option.map_eq_some_iff] at found
  obtain ⟨before, stored, rfl⟩ := found
  exact isCurrent_migrateAccount clock (fun id new =>
    fresh.nonempty id (mem_newIds stored new))

/--
After a migration with a running clock and fresh identifiers the same places
hold accounts, all of them in current shape; an account that was in this shape
before is as it was; and any later migration makes the same memory again, its
indices included.
-/
theorem migrate_settles
    (memory : Memory)
    (arrival : Arrival)
    (clock : arrival.Running)
    (fresh : Fresh arrival memory.accounts) :
    (memory.migrate arrival).accounts.keys = memory.accounts.keys ∧
      (memory.migrate arrival).installation = memory.installation ∧
      (∀ slot account, (memory.migrate arrival).accounts.get? slot = some account →
        account.IsCurrent) ∧
      (∀ slot account, memory.accounts.get? slot = some account → account.IsCurrent →
        (memory.migrate arrival).accounts.get? slot = some account) ∧
      ∀ later : Arrival,
        (memory.migrate arrival).migrate later = memory.migrate arrival := by
  have current := fun {slot} {account} => @isCurrent_of_migrate arrival slot account memory
    clock fresh
  refine ⟨?_, installation_migrate arrival memory, fun _ _ => current, ?_, ?_⟩
  · rw [accounts_migrate]
    exact List.map_map
  · intro slot account stored currentBefore
    rw [accounts_migrate, Dict.get?_mapValues, stored, Option.map_some,
      migrateAccount_of_isCurrent arrival slot currentBefore]
  · intro later
    have freshLater : Fresh later (memory.migrate arrival).accounts :=
      fresh_of_named later (fun _ _ found peer member => ((current found).peers peer member).id)
    have unchanged : (memory.migrate arrival).accounts.mapValues (migrateAccount later) =
        (memory.migrate arrival).accounts := by
      rw [Dict.mapValues_eq_self_iff]
      intro slot account found
      exact migrateAccount_of_isCurrent later slot (current found)
    rw [migrate_eq freshLater, unchanged, accounts_migrate, installation_migrate,
      ← migrate_eq fresh]

/-- An account from before settings, issuers and identifiers of peers. -/
def legacyAccount : Account where
  id := "acc1"
  peers := .ofList [("public", { key := "public", name := "Laptop" })]
  users := .ofList [("u1", { id := "u1" })]
  groups := .ofList [("all", { id := "all", name := "All", peers := ["public"] })]
  policies := [{ id := "pol1", rules := [{ id := "rule1" }] }]
  routes := .ofList [("r1", { id := "r1", peer := "public" })]

/-- A time and identifiers for the peers of one account. -/
def plainArrival : Arrival where
  now := ⟨1⟩
  newId origin := "peer-" ++ origin.key

/-- The old account gets into shape, and the next start changes nothing. -/
theorem migrate_settles_legacy :
    plainArrival.Running ∧
      Fresh plainArrival (Dict.ofList [("acc1", legacyAccount)]) ∧
      ∃ migrated : Memory,
        Memory.migrate plainArrival { accounts := .ofList [("acc1", legacyAccount)] } =
            migrated ∧
          (∀ slot account, migrated.accounts.get? slot = some account →
            account.IsCurrent) ∧
          migrated.indices.peerId.get? "peer-public" = some "acc1" ∧
          ∀ later : Arrival, migrated.migrate later = migrated := by
  have clock : plainArrival.Running := fun _ => rfl
  have fresh : Fresh plainArrival (Dict.ofList [("acc1", legacyAccount)]) :=
    ⟨by decide +kernel, by decide +kernel, by decide +kernel⟩
  obtain ⟨_, _, current, _, again⟩ :=
    migrate_settles { accounts := .ofList [("acc1", legacyAccount)] } plainArrival clock fresh
  exact ⟨clock, fresh, _, rfl, current, by decide +kernel, again⟩

end Migration

end TenantStore.FileEngine
