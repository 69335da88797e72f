import Mathlib.Data.List.Pairwise
import Mathlib.Data.Set.Function
import TenantStore.Proofs.FileEngine.MigrationRuns

namespace TenantStore.FileEngine.Migration

/-!
# Peers under new identifiers

The last step of a migration files each peer without an identifier under a new
one, and rewrites the groups and routes that refer to it. While nothing in the
account has the new identifiers already, no peer is lost and every reference
goes on naming the peer that it named: `migrate_rekeys`.
-/

/-! ## What re-keying keeps -/

/-- What an account refers to as peers: the members of groups and the peers of routes. -/
def peerReferences (account : Account) : List String :=
  account.groups.values.flatMap Group.peers ++ account.routes.values.map Route.peer

/-- New identifiers of an account under which nothing is filed in it, and to which nothing
refers. -/
structure Unmentioned (arrival : Arrival) (slot : String) (account : Account) : Prop where
  slots : ∀ id ∈ newPeerIds arrival slot account, id ∉ account.peers.keys
  references : ∀ id ∈ newPeerIds arrival slot account, id ∉ peerReferences account

/--
A later record of a peer. It has the identifier that the peer had, or else the
given one; besides, at most a label and a login that the peer lacked are new.
-/
def Continues (newId : String) (peer later : Peer) : Prop :=
  later = { peer with
    id := if peer.id = "" then newId else peer.id
    dnsLabel := if peer.dnsLabel = "" then later.dnsLabel else peer.dnsLabel
    lastLogin := if peer.lastLogin.isZero then later.lastLogin else peer.lastLogin }

/--
What an account becomes when its peers without an identifier move to new ones.
A function from old slots to new ones says where each peer goes; it keeps all
other slots, and references are rewritten by it.
-/
structure Rekeys
    (newId : String → Peer → String)
    (move : String → String)
    (before after : Account) : Prop where
  bijective : Set.BijOn move {slot | slot ∈ before.peers.keys} {slot | slot ∈ after.peers.keys}
  moved : ∀ slot peer, before.peers.get? slot = some peer → peer.id = "" →
    move slot = newId slot peer ∧ move slot ≠ slot
  stayed : ∀ slot peer, before.peers.get? slot = some peer → peer.id ≠ "" →
    move slot = slot
  peers : ∀ slot peer, before.peers.get? slot = some peer →
    ∃ later, after.peers.get? (move slot) = some later ∧
      Continues (newId slot peer) peer later
  members : after.groups.mapValues (fun _ group => group.peers) =
    before.groups.mapValues (fun _ group => group.peers.map move)
  routes : after.routes.mapValues (fun _ route => route.peer) =
    before.routes.mapValues (fun _ route => move route.peer)
  dangling : ∀ reference ∈ peerReferences before, before.peers.get? reference = none →
    move reference = reference ∧ after.peers.get? reference = none

variable {arrival : Arrival} {accounts : Dict Account}
  {slot : String} {account : Account}

/-! ## Where peers and references go -/

theorem finalReference_of_found
    {place : String}
    {peer : Peer}
    (found : account.peers.get? place = some peer) :
    finalReference arrival slot account place = finalSlot arrival slot account place peer := by
  rw [finalReference, found]

theorem finalReference_of_dangling
    {reference : String}
    (dangling : account.peers.get? reference = none) :
    finalReference arrival slot account reference = reference := by
  rw [finalReference, dangling]

theorem finalSlot_of_nameless
    (place : String)
    {peer : Peer}
    (nameless : peer.id = "") :
    finalSlot arrival slot account place peer = newPeerId arrival slot account place peer := by
  simp [finalSlot, nameless]

theorem finalSlot_of_named
    (place : String)
    {peer : Peer}
    (named : peer.id ≠ "") :
    finalSlot arrival slot account place peer = place := by
  simp [finalSlot, named]

/-- The steps before the last do not change where a reference leads in the end. -/
theorem finalReference_backfill (arrival : Arrival) (slot : String) (account : Account) :
    finalReference arrival slot (backfill account) = finalReference arrival slot account := by
  obtain ⟨labelOf, filled, _⟩ := backfill_eq account
  funext reference
  cases found : account.peers.get? reference with
  | none =>
      have dangling : (backfill account).peers.get? reference = none := by
        rw [filled, Dict.get?_mapValues, found, Option.map_none]
      rw [finalReference_of_dangling found, finalReference_of_dangling dangling]
  | some peer =>
      have relabeled : (backfill account).peers.get? reference =
          some (relabel (labelOf reference peer) peer) := by
        rw [filled, Dict.get?_mapValues, found, Option.map_some]
      rw [finalReference_of_found found, finalReference_of_found relabeled, filled]
      rfl

/-- If no two peers end up in one place, each is there in the end, and nothing else. -/
theorem get?_peers_identifyPeers_iff
    (places : (account.peers.entries.map (fun entry =>
      finalSlot arrival slot account entry.1 entry.2)).Nodup)
    {target : String}
    {later : Peer} :
    (identifyPeers arrival slot account).peers.get? target = some later ↔
      ∃ place peer, account.peers.get? place = some peer ∧
        finalSlot arrival slot account place peer = target ∧
        supplyLogin (arrival.loginTime slot) (identifyPeer arrival slot account place peer) =
          later := by
  have distinct : ((account.peers.entries.map (fun entry =>
      (finalSlot arrival slot account entry.1 entry.2,
        supplyLogin (arrival.loginTime slot)
          (identifyPeer arrival slot account entry.1 entry.2)))).map Prod.fst).Nodup := by
    rw [List.map_map]
    exact places
  rw [identifyPeers, Dict.get?_ofList_iff distinct, List.mem_map]
  constructor
  · rintro ⟨⟨place, peer⟩, member, same⟩
    exact ⟨place, peer, Dict.get?_eq_some_iff.mpr member,
      congrArg Prod.fst same, congrArg Prod.snd same⟩
  · rintro ⟨place, peer, found, sameSlot, samePeer⟩
    exact ⟨(place, peer), Dict.get?_eq_some_iff.mp found, Prod.ext sameSlot samePeer⟩

/-- A peer that got a label, an identifier and a login where it lacked them is continued. -/
theorem continues_identifyPeer
    (arrival : Arrival)
    (slot place : String)
    (account : Account)
    {label : String}
    {peer : Peer}
    (kept : peer.dnsLabel ≠ "" → label = peer.dnsLabel) :
    Continues (newPeerId arrival slot account place peer) peer
      (supplyLogin (arrival.loginTime slot)
        (identifyPeer arrival slot account place (relabel label peer))) := by
  have labels : (if peer.dnsLabel = "" then label else peer.dnsLabel) = label := by
    split
    · rfl
    · rename_i labeled
      exact (kept labeled).symm
  by_cases nameless : peer.id = "" <;> by_cases login : peer.lastLogin.isZero = true <;>
    simp [Continues, supplyLogin, identifyPeer, newPeerId, relabel, nameless, login, labels]

/-- The peers of a migrated account, in terms of the account before. -/
theorem get?_peers_migrateAccount_iff
    (places : (account.peers.entries.map (fun entry =>
      finalSlot arrival slot account entry.1 entry.2)).Nodup) :
    ∃ labelOf : String → Peer → String,
      (∀ place peer, account.peers.get? place = some peer → peer.dnsLabel ≠ "" →
        labelOf place peer = peer.dnsLabel) ∧
      ∀ target later,
        (migrateAccount arrival slot account).peers.get? target = some later ↔
          ∃ place peer, account.peers.get? place = some peer ∧
            finalSlot arrival slot account place peer = target ∧
            supplyLogin (arrival.loginTime slot) (identifyPeer arrival slot account place
              (relabel (labelOf place peer) peer)) = later := by
  obtain ⟨labelOf, filled, labels⟩ := backfill_eq account
  have backfilledPlaces : ((backfill account).peers.entries.map (fun entry =>
      finalSlot arrival slot (backfill account) entry.1 entry.2)).Nodup := by
    rw [filled, Dict.mapValues, List.map_map]
    exact places
  refine ⟨labelOf, fun place peer found => (labels place peer found).2, ?_⟩
  intro target later
  rw [migrateAccount_eq, get?_peers_identifyPeers_iff backfilledPlaces]
  constructor
  · rintro ⟨place, labeled, found, sameSlot, samePeer⟩
    rw [filled, Dict.get?_mapValues, Option.map_eq_some_iff] at found
    obtain ⟨peer, peerFound, rfl⟩ := found
    rw [filled] at sameSlot samePeer
    exact ⟨place, peer, peerFound, sameSlot, samePeer⟩
  · rintro ⟨place, peer, found, sameSlot, samePeer⟩
    refine ⟨place, relabel (labelOf place peer) peer, ?_, ?_, ?_⟩
    · rw [filled, Dict.get?_mapValues, found, Option.map_some]
    · rw [filled]
      exact sameSlot
    · rw [filled]
      exact samePeer

/-- A peer is filed under its identifier in the end, if that is new. -/
theorem get?_peers_migrateAccount_of_found
    (places : (account.peers.entries.map (fun entry =>
      finalSlot arrival slot account entry.1 entry.2)).Nodup)
    {place : String}
    {peer : Peer}
    (found : account.peers.get? place = some peer) :
    ∃ later,
      (migrateAccount arrival slot account).peers.get?
          (finalSlot arrival slot account place peer) = some later ∧
        Continues (newPeerId arrival slot account place peer) peer later := by
  obtain ⟨labelOf, labels, peers⟩ := get?_peers_migrateAccount_iff places
  exact ⟨_, (peers _ _).mpr ⟨place, peer, found, rfl, rfl⟩,
    continues_identifyPeer arrival slot place account (labels place peer found)⟩

/-- Every slot of a migrated account is where some peer of the account before has gone. -/
theorem exists_finalSlot_of_mem_keys
    (places : (account.peers.entries.map (fun entry =>
      finalSlot arrival slot account entry.1 entry.2)).Nodup)
    {target : String}
    (member : target ∈ (migrateAccount arrival slot account).peers.keys) :
    ∃ place peer, account.peers.get? place = some peer ∧
      finalSlot arrival slot account place peer = target := by
  obtain ⟨_, _, peers⟩ := get?_peers_migrateAccount_iff places
  obtain ⟨later, laterFound⟩ := Dict.mem_keys_iff.mp member
  obtain ⟨place, peer, found, same, _⟩ := (peers target later).mp laterFound
  exact ⟨place, peer, found, same⟩

/-! ## Nothing is lost -/

/-- The slots of peers before and after correspond to each other. -/
theorem bijOn_finalReference
    (places : (account.peers.entries.map (fun entry =>
      finalSlot arrival slot account entry.1 entry.2)).Nodup) :
    Set.BijOn (finalReference arrival slot account)
      {place | place ∈ account.peers.keys}
      {place | place ∈ (migrateAccount arrival slot account).peers.keys} := by
  refine ⟨?mapsTo, ?injOn, ?surjOn⟩
  case mapsTo =>
    intro place member
    obtain ⟨peer, found⟩ := Dict.mem_keys_iff.mp member
    obtain ⟨later, laterFound, _⟩ := get?_peers_migrateAccount_of_found places found
    rw [← finalReference_of_found found] at laterFound
    exact Dict.mem_keys_iff.mpr ⟨later, laterFound⟩
  case injOn =>
    intro left leftMember right rightMember same
    obtain ⟨leftPeer, leftFound⟩ := Dict.mem_keys_iff.mp leftMember
    obtain ⟨rightPeer, rightFound⟩ := Dict.mem_keys_iff.mp rightMember
    rw [finalReference_of_found leftFound, finalReference_of_found rightFound] at same
    have entriesSame := List.inj_on_of_nodup_map places
      (Dict.get?_eq_some_iff.mp leftFound) (Dict.get?_eq_some_iff.mp rightFound) same
    exact congrArg Prod.fst entriesSame
  case surjOn =>
    intro target member
    obtain ⟨place, peer, found, same⟩ := exists_finalSlot_of_mem_keys places member
    exact ⟨place, Dict.mem_keys_iff.mpr ⟨peer, found⟩,
      (finalReference_of_found found).trans same⟩

theorem groups_migrateAccount (arrival : Arrival) (slot : String) (account : Account) :
    (migrateAccount arrival slot account).groups.mapValues (fun _ group => group.peers) =
      account.groups.mapValues (fun _ group =>
        group.peers.map (finalReference arrival slot account)) := by
  obtain ⟨_, filled, _⟩ := backfill_eq account
  rw [migrateAccount_eq, identifyPeers, finalReference_backfill, filled]
  simp only [Dict.mapValues_mapValues]
  rfl

theorem supplyRoute_peer (all : Option Group) (route : Route) :
    (supplyRoute all route).peer = route.peer := by
  cases all <;> rfl

theorem routes_migrateAccount (arrival : Arrival) (slot : String) (account : Account) :
    (migrateAccount arrival slot account).routes.mapValues (fun _ route => route.peer) =
      account.routes.mapValues (fun _ route =>
        finalReference arrival slot account route.peer) := by
  obtain ⟨_, filled, _⟩ := backfill_eq account
  rw [migrateAccount_eq, identifyPeers, finalReference_backfill, filled]
  simp only [Dict.mapValues_mapValues, supplyRoute_peer]

/-- A reference that named no peer names none of the new identifiers either. -/
theorem dangling_migrateAccount
    (places : (account.peers.entries.map (fun entry =>
      finalSlot arrival slot account entry.1 entry.2)).Nodup)
    (unmentioned : Unmentioned arrival slot account)
    {reference : String}
    (member : reference ∈ peerReferences account)
    (dangling : account.peers.get? reference = none) :
    (migrateAccount arrival slot account).peers.get? reference = none := by
  rw [Option.eq_none_iff_forall_ne_some]
  intro later laterFound
  obtain ⟨place, peer, found, same⟩ :=
    exists_finalSlot_of_mem_keys places (Dict.mem_keys_iff.mpr ⟨later, laterFound⟩)
  by_cases nameless : peer.id = ""
  · rw [finalSlot_of_nameless place nameless] at same
    exact unmentioned.references _ (mem_newPeerIds found nameless) (same ▸ member)
  · rw [finalSlot_of_named place nameless] at same
    rw [same, dangling] at found
    cases found

/-- A migration re-keys the peers of an account whose new identifiers are not in use in it. -/
theorem rekeys_migrateAccount
    (distinct : (newPeerIds arrival slot account).Nodup)
    (unmentioned : Unmentioned arrival slot account) :
    Rekeys (newPeerId arrival slot account) (finalReference arrival slot account) account
      (migrateAccount arrival slot account) := by
  have places := finalSlots_nodup distinct unmentioned.slots
  constructor
  case bijective => exact bijOn_finalReference places
  case moved =>
    intro place peer found nameless
    rw [finalReference_of_found found, finalSlot_of_nameless place nameless]
    refine ⟨rfl, fun same => ?_⟩
    apply unmentioned.slots _ (mem_newPeerIds found nameless)
    rw [same]
    exact Dict.mem_keys_iff.mpr ⟨peer, found⟩
  case stayed =>
    intro place peer found named
    rw [finalReference_of_found found, finalSlot_of_named place named]
  case peers =>
    intro place peer found
    rw [finalReference_of_found found]
    exact get?_peers_migrateAccount_of_found places found
  case members => exact groups_migrateAccount arrival slot account
  case routes => exact routes_migrateAccount arrival slot account
  case dangling =>
    intro reference member dangling
    exact ⟨finalReference_of_dangling dangling,
      dangling_migrateAccount places unmentioned member dangling⟩

/-! ## The index of peers -/

/-- A key that one account alone has leads to it, whatever the index led to before. -/
theorem get?_enterAll_keys_of_mem
    {keysOf : String → Account → List String}
    (distinct : (accounts.entries.flatMap (fun entry => keysOf entry.1 entry.2)).Nodup)
    (stored : accounts.get? slot = some account)
    (index : Dict String)
    {key : String}
    (has : key ∈ keysOf slot account) :
    (enterAll (fun slot account => (keysOf slot account).map (fun key => (key, slot)))
      accounts index).get? key = some slot := by
  have symmetric : Std.Symm (Function.onFun List.Disjoint
      (fun entry : String × Account => keysOf entry.1 entry.2)) :=
    ⟨fun _ _ disjoint _ inRight inLeft => disjoint inLeft inRight⟩
  have apart := (List.nodup_flatMap.mp distinct).2.forall
  have member := Dict.get?_eq_some_iff.mp stored
  have present : (accounts.entries.reverse.find? (fun entry =>
      key ∈ keysOf entry.1 entry.2)).isSome = true := by
    rw [List.find?_isSome]
    exact ⟨(slot, account), List.mem_reverse.mpr member, decide_eq_true has⟩
  obtain ⟨entry, found⟩ := Option.isSome_iff_exists.mp present
  have entryMember := List.mem_reverse.mp (List.mem_of_find?_eq_some found)
  have listed := List.find?_some found
  have entryHas : key ∈ keysOf entry.1 entry.2 := of_decide_eq_true listed
  have same : entry = (slot, account) := by
    by_contra different
    exact apart entryMember member different entryHas has
  rw [get?_enterAll_keys, found, same]
  rfl

/-- A new identifier leads to the account whose peer has got it. -/
theorem get?_peerId_migrate_of_new
    {memory : Memory}
    (distinct : (newIds arrival memory.accounts).Nodup)
    (stored : memory.accounts.get? slot = some account)
    {id : String}
    (new : id ∈ newPeerIds arrival slot account) :
    (memory.migrate arrival).indices.peerId.get? id = some slot := by
  have entered := get_indices_migrate arrival memory .peerId
  rw [if_pos rfl] at entered
  exact (congrArg (fun index => index.get? id) entered).trans
    (get?_enterAll_keys_of_mem distinct stored _ new)

/--
A migration re-keys the peers of every account in which its new identifiers,
which differ from each other, are not in use: the peers without an identifier
move to their new ones, each of them and no others; all peers are kept with
what they had; groups and routes name the same peers as before; and each new
identifier leads to the account.
-/
theorem migrate_rekeys
    {memory : Memory}
    {arrival : Arrival}
    (distinct : (newIds arrival memory.accounts).Nodup)
    {slot : String}
    {account : Account}
    (stored : memory.accounts.get? slot = some account)
    (unmentioned : Unmentioned arrival slot account) :
    ∃ migrated move,
      (memory.migrate arrival).accounts.get? slot = some migrated ∧
        Rekeys (newPeerId arrival slot account) move account migrated ∧
        ∀ place peer, account.peers.get? place = some peer → peer.id = "" →
          (memory.migrate arrival).indices.peerId.get? (move place) = some slot := by
  have distinctWithin : (newPeerIds arrival slot account).Nodup :=
    (List.nodup_flatMap.mp distinct).1 (slot, account) (Dict.get?_eq_some_iff.mp stored)
  have rekeys := rekeys_migrateAccount distinctWithin unmentioned
  refine ⟨_, _, ?_, rekeys, ?_⟩
  · rw [accounts_migrate, Dict.get?_mapValues, stored, Option.map_some]
  · intro place peer found nameless
    rw [(rekeys.moved place peer found nameless).1]
    exact get?_peerId_migrate_of_new distinct stored (mem_newPeerIds found nameless)

/-- An account with an old peer, a new one, and a member of a group that is gone. -/
def mixedAccount : Account where
  id := "acc1"
  peers := .ofList [
    ("public", { key := "public", name := "Laptop" }),
    ("p2", { id := "p2", key := "other", dnsLabel := "desk" })]
  groups := .ofList [("g", { id := "g", peers := ["public", "p2", "public", "gone"] })]
  routes := .ofList [("r1", { id := "r1", peer := "public" })]

/-- The old peer moves and is referred to under its identifier; the new one stays. -/
theorem migrate_rekeys_mixed :
    let memory : Memory := { accounts := .ofList [("acc1", mixedAccount)] }
    (newIds plainArrival memory.accounts).Nodup ∧
      Unmentioned plainArrival "acc1" mixedAccount ∧
      ∃ migrated move,
        (memory.migrate plainArrival).accounts.get? "acc1" = some migrated ∧
          Rekeys (newPeerId plainArrival "acc1" mixedAccount) move mixedAccount migrated ∧
          move "public" = "peer-public" ∧ move "p2" = "p2" ∧ move "gone" = "gone" ∧
          (memory.migrate plainArrival).indices.peerId.get? "peer-public" = some "acc1" := by
  intro memory
  have distinct : (newIds plainArrival memory.accounts).Nodup := by decide +kernel
  have unmentioned : Unmentioned plainArrival "acc1" mixedAccount :=
    ⟨by decide +kernel, by decide +kernel⟩
  obtain ⟨migrated, move, stored, rekeys, indexed⟩ :=
    @migrate_rekeys memory plainArrival distinct "acc1" mixedAccount rfl unmentioned
  have nameless : mixedAccount.peers.get? "public" =
      some { key := "public", name := "Laptop" } := by decide
  have named : mixedAccount.peers.get? "p2" =
      some { id := "p2", key := "other", dnsLabel := "desk" } := by decide
  have moved : move "public" = "peer-public" :=
    (rekeys.moved _ _ nameless rfl).1.trans (by decide +kernel)
  refine ⟨distinct, unmentioned, migrated, move, stored, rekeys, moved,
    rekeys.stayed _ _ named (by decide), ?_, ?_⟩
  · exact (rekeys.dangling "gone" (by decide) (by decide)).1
  · rw [← moved]
    exact indexed "public" _ nameless rfl

end TenantStore.FileEngine.Migration
