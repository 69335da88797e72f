import TenantStore.FileEngine.Migration
import TenantStore.Proofs.Dictionaries

namespace TenantStore

/-!
# Accounts in current shape

The steps of a migration change each account on its own. Each of them makes
one part of the current shape and leaves the parts that other steps make, so
an account has the whole shape in the end: `isCurrent_migrateAccount`. An
account that has it already is not changed: `migrateAccount_of_isCurrent`.
-/

/-! ## The shape -/

/-- A rule with everything that later versions added. -/
structure PolicyRule.IsCurrent (rule : PolicyRule) (policyId : String) : Prop where
  protocol : rule.protocol ≠ .unset
  bidirectional : rule.protocol = .all → rule.bidirectional = true
  policy : rule.policyId = "" → policyId = ""

/-- A peer with an identifier, a label and a login. -/
structure Peer.IsCurrent (peer : Peer) : Prop where
  id : peer.id ≠ ""
  dnsLabel : peer.dnsLabel ≠ ""
  lastLogin : peer.lastLogin.isZero = false

/-- An account that lacks nothing that later versions added. -/
structure Account.IsCurrent (account : Account) : Prop where
  settings : account.settings.isSome = true
  users : ∀ user ∈ account.users.values, user.issued ≠ ""
  groups : ∀ group ∈ account.groups.values, group.issued ≠ ""
  policies : ∀ policy ∈ account.policies, ∀ rule ∈ policy.rules, rule.IsCurrent policy.id
  peers : ∀ peer ∈ account.peers.values, peer.IsCurrent
  routes : account.groupAll?.isSome = true →
    ∀ route ∈ account.routes.values, route.groups ≠ []

/-- The clock tells a time whenever an account asks it. -/
def FileEngine.Arrival.Running (arrival : FileEngine.Arrival) : Prop :=
  ∀ accountSlot, (arrival.loginTime accountSlot).isZero = false

namespace DnsLabel

/-- No name gives an empty label. -/
theorem ofName_ne_empty (name : String) : ofName name ≠ "" := by
  unfold ofName
  split
  · decide
  · rename_i chars nonempty
    intro empty
    exact nonempty (String.ofList_eq_empty_iff.mp empty)

theorem numbered_ne_empty (base : String) (number : Nat) : numbered base number ≠ "" := by
  intro empty
  have chars := String.ofList_eq_empty_iff.mp empty
  simp at chars

/-- The search for a free label does not end at an empty one. -/
theorem firstFree_ne_empty
    (base : String)
    (taken : List String)
    (fuel number : Nat) :
    firstFree base taken fuel number ≠ "" := by
  induction fuel generalizing number with
  | zero => exact numbered_ne_empty base number
  | succ fuel inductionHypothesis =>
      rw [firstFree]
      split
      · exact inductionHypothesis (number + 1)
      · exact numbered_ne_empty base number

/-- An unused label is not empty. -/
theorem unused_ne_empty (name : String) (taken : List String) : unused name taken ≠ "" := by
  simp only [unused]
  split
  · exact firstFree_ne_empty (ofName name) taken taken.length 1
  · exact ofName_ne_empty name

end DnsLabel

namespace FileEngine.Migration

/-! ## Rules -/

/-- The protocol is set once the rule is up to date. -/
theorem currentProtocol_ne_unset (rule : PolicyRule) : rule.currentProtocol ≠ .unset := by
  unfold PolicyRule.currentProtocol
  split
  · exact RuleProtocol.noConfusion
  · assumption

/-- A rule is up to date after its upgrade. -/
theorem isCurrent_upgrade (policyId : String) (rule : PolicyRule) :
    (rule.upgrade policyId).IsCurrent policyId where
  protocol := currentProtocol_ne_unset rule
  bidirectional all := by
    have current : rule.currentProtocol = .all := all
    simp [PolicyRule.upgrade, current]
  policy unnamed := by
    have same : (if rule.policyId.isEmpty then policyId else rule.policyId) = "" := unnamed
    split at same
    · exact same
    · rename_i named
      exact absurd (String.isEmpty_iff.mpr same) named

/-- A rule that is up to date is left as it is. -/
theorem upgrade_of_isCurrent
    {policyId : String}
    {rule : PolicyRule}
    (current : rule.IsCurrent policyId) :
    rule.upgrade policyId = rule := by
  have protocol : rule.currentProtocol = rule.protocol := if_neg current.protocol
  have bidirectional :
      (rule.bidirectional || decide (rule.protocol = .all)) = rule.bidirectional := by
    by_cases all : rule.protocol = .all
    · simp [current.bidirectional all]
    · simp [all]
  have policy :
      (if rule.policyId.isEmpty then policyId else rule.policyId) = rule.policyId := by
    split
    · rename_i unnamed
      rw [String.isEmpty_iff] at unnamed
      rw [unnamed, current.policy unnamed]
    · rfl
  rw [PolicyRule.upgrade, protocol, bidirectional, policy]

/-- A rule is left as it is exactly when it is in current shape. -/
theorem upgrade_eq_self_iff {policyId : String} {rule : PolicyRule} :
    rule.upgrade policyId = rule ↔ rule.IsCurrent policyId :=
  ⟨fun same => same ▸ isCurrent_upgrade policyId rule, upgrade_of_isCurrent⟩

/-- Policies are left as they are exactly when all their rules are in current shape. -/
theorem upgradePolicies_eq_self_iff {account : Account} :
    upgradePolicies account = account ↔
      ∀ policy ∈ account.policies, ∀ rule ∈ policy.rules, rule.IsCurrent policy.id := by
  have policies : upgradePolicies account = account ↔
      account.policies.map Policy.upgrade = account.policies.map id := by
    rw [List.map_id]
    exact ⟨congrArg Account.policies, fun same => by rw [upgradePolicies, same]⟩
  have rules (policy : Policy) : policy.upgrade = policy ↔
      policy.rules.map (PolicyRule.upgrade policy.id) = policy.rules.map id := by
    rw [List.map_id]
    exact ⟨congrArg Policy.rules, fun same => by rw [Policy.upgrade, same]⟩
  simp only [policies, List.map_inj_left, id_eq, rules, upgrade_eq_self_iff]

/-! ## Labels of peers -/

/-- A peer with another label. -/
def relabel (label : String) (peer : Peer) : Peer :=
  { peer with dnsLabel := label }

/--
Labelling peers changes labels only: those that have their turn get one, and the
others keep theirs.
-/
theorem foldl_labelPeer (slots : List String) (account : Account) :
    ∃ labelOf : String → Peer → String,
      slots.foldl labelPeer account =
          { account with
            peers := account.peers.mapValues (fun slot peer =>
              relabel (labelOf slot peer) peer) } ∧
        ∀ slot peer, account.peers.get? slot = some peer →
          (slot ∈ slots → labelOf slot peer ≠ "") ∧
            (slot ∉ slots → labelOf slot peer = peer.dnsLabel) := by
  induction slots generalizing account with
  | nil =>
      refine ⟨fun _ peer => peer.dnsLabel, ?_, ?_⟩
      · have same : account.peers.mapValues (fun _ peer => peer) = account.peers :=
          Dict.mapValues_of_forall_mem (fun _ _ => rfl)
        simp only [relabel, same, List.foldl_nil]
      · intro slot peer _
        exact ⟨fun member => absurd member List.not_mem_nil, fun _ => rfl⟩
  | cons head rest inductionHypothesis =>
      obtain ⟨labelOf, labeled, labels⟩ := inductionHypothesis (labelPeer account head)
      let turn (slot : String) (peer : Peer) : Peer :=
        if slot = head then relabel (account.unusedLabel peer.name) peer else peer
      refine ⟨fun slot peer => labelOf slot (turn slot peer), ?_, ?_⟩
      · have peers :
            (labelPeer account head).peers.mapValues (fun slot peer =>
                relabel (labelOf slot peer) peer) =
              account.peers.mapValues (fun slot peer =>
                relabel (labelOf slot (turn slot peer)) peer) := by
          rw [labelPeer, Dict.modify, Dict.mapValues_mapValues]
          congr 1
          funext slot peer
          by_cases here : slot = head <;> simp [turn, here, relabel]
        rw [List.foldl_cons, labeled, peers, labelPeer]
      · intro slot peer found
        have turned : (labelPeer account head).peers.get? slot = some (turn slot peer) := by
          rw [labelPeer, Dict.modify, Dict.get?_mapValues, found]
          rfl
        obtain ⟨reached, passed⟩ := labels slot (turn slot peer) turned
        constructor
        · intro member
          by_cases later : slot ∈ rest
          · exact reached later
          · have here : slot = head := (List.mem_cons.mp member).resolve_right later
            refine (passed later).trans_ne ?_
            rw [show turn slot peer = _ from if_pos here]
            exact DnsLabel.unused_ne_empty _ _
        · intro absent
          rw [List.mem_cons, not_or] at absent
          refine (passed absent.2).trans ?_
          rw [show turn slot peer = peer from if_neg absent.1]

/-- A peer gets a label if it has none. -/
theorem mem_unlabeledSlots_iff {account : Account} {slot : String} {peer : Peer}
    (found : account.peers.get? slot = some peer) :
    slot ∈ unlabeledSlots account ↔ peer.dnsLabel = "" := by
  rw [unlabeledSlots, Dict.mem_keys_iff, Dict.get?_filter, found]
  simp [isUnlabeled, Option.filter]

/--
Labelling the peers of an account gives a label to each of them that has none, and
changes nothing else.
-/
theorem labelPeers_eq (account : Account) :
    ∃ labelOf : String → Peer → String,
      labelPeers account =
          { account with
            peers := account.peers.mapValues (fun slot peer =>
              relabel (labelOf slot peer) peer) } ∧
        ∀ slot peer, account.peers.get? slot = some peer →
          labelOf slot peer ≠ "" ∧
            (peer.dnsLabel ≠ "" → labelOf slot peer = peer.dnsLabel) := by
  obtain ⟨labelOf, labeled, labels⟩ := foldl_labelPeer (unlabeledSlots account) account
  refine ⟨labelOf, labeled, ?_⟩
  intro slot peer found
  obtain ⟨given, kept⟩ := labels slot peer found
  rw [mem_unlabeledSlots_iff found] at given kept
  refine ⟨?_, kept⟩
  by_cases unlabeled : peer.dnsLabel = ""
  · exact given unlabeled
  · rw [kept unlabeled]
    exact unlabeled

/-- Labels that are there are left as they are. -/
theorem labelPeers_of_labeled {account : Account}
    (labeled : ∀ peer ∈ account.peers.values, peer.dnsLabel ≠ "") :
    labelPeers account = account := by
  have none : unlabeledSlots account = [] := by
    rw [List.eq_nil_iff_forall_not_mem]
    intro slot member
    obtain ⟨⟨_, peer⟩, kept, rfl⟩ := List.mem_map.mp member
    obtain ⟨entry, unlabeled⟩ := List.mem_filter.mp kept
    exact labeled peer (List.mem_map.mpr ⟨_, entry, rfl⟩) (by simpa [isUnlabeled] using unlabeled)
  rw [labelPeers, none, List.foldl_nil]

/-! ## Issuers and groups of routes -/

/-- Where an issuer lacks, it is supplied. -/
theorem suppliedIssuer_ne_empty (issued : String) :
    (if issued.isEmpty then issuedHere else issued) ≠ "" := by
  split
  · decide
  · rename_i given
    exact fun empty => given (String.isEmpty_iff.mpr empty)

/-- An issuer that is there is left as it is. -/
theorem supplyUserIssuer_of_issued {user : User} (issued : user.issued ≠ "") :
    supplyUserIssuer user = user := by
  simp [supplyUserIssuer, issued]

/-- An issuer that is there is left as it is. -/
theorem supplyGroupIssuer_of_issued {group : Group} (issued : group.issued ≠ "") :
    supplyGroupIssuer group = group := by
  simp [supplyGroupIssuer, issued]

/-- A route has groups afterwards, the given one if it had none. -/
theorem supplyRouteGroup_groups (group : String) (route : Route) :
    (supplyRouteGroup group route).groups ≠ [] := by
  rw [supplyRouteGroup]
  split
  · simp
  · rename_i given
    simpa using given

/-- Groups that are there are left as they are. -/
theorem supplyRouteGroup_of_groups (group : String) {route : Route} (given : route.groups ≠ []) :
    supplyRouteGroup group route = route := by
  simp [supplyRouteGroup, given]

/-- A route is given to the group of all peers, if there is one and it lacks groups. -/
def supplyRoute (all : Option Group) (route : Route) : Route :=
  match all with
  | none => route
  | some group => supplyRouteGroup group.id route

/-- Only routes change, and only if the account has a group of all peers. -/
theorem supplyRouteGroups_eq (account : Account) :
    supplyRouteGroups account =
      { account with
        routes := account.routes.mapValues (fun _ => supplyRoute account.groupAll?) } := by
  rw [supplyRouteGroups]
  split
  · rename_i none
    have same : account.routes.mapValues (fun _ => supplyRoute Option.none) = account.routes :=
      Dict.mapValues_of_forall_mem (fun _ _ => rfl)
    rw [none, same]
  · rename_i group found
    rw [found]
    rfl

/-! ## Every step but the last -/

/-- What the steps before the last make of an account. -/
def backfill (account : Account) : Account :=
  supplyRouteGroups (supplyGroupIssuers (labelPeers (upgradePolicies
    (supplyUserIssuers (supplySettings account)))))

/-- The group of all peers stays the same group when issuers are supplied. -/
theorem groupAll?_supplyGroupIssuers (account : Account) :
    (supplyGroupIssuers account).groupAll? = account.groupAll?.map supplyGroupIssuer :=
  Dict.find?_mapValues account.groups (fun _ => rfl)

/-- What the steps before the last one do to an account, in one record. -/
theorem backfill_eq (account : Account) :
    ∃ labelOf : String → Peer → String,
      backfill account =
          { account with
            settings := some (account.settings.getD legacySettings)
            users := account.users.mapValues (fun _ => supplyUserIssuer)
            policies := account.policies.map Policy.upgrade
            peers := account.peers.mapValues (fun slot peer =>
              relabel (labelOf slot peer) peer)
            groups := account.groups.mapValues (fun _ => supplyGroupIssuer)
            routes := account.routes.mapValues (fun _ => supplyRoute
              (account.groupAll?.map supplyGroupIssuer)) } ∧
        ∀ slot peer, account.peers.get? slot = some peer →
          labelOf slot peer ≠ "" ∧
            (peer.dnsLabel ≠ "" → labelOf slot peer = peer.dnsLabel) := by
  obtain ⟨labelOf, labeled, labels⟩ :=
    labelPeers_eq (upgradePolicies (supplyUserIssuers (supplySettings account)))
  refine ⟨labelOf, ?_, labels⟩
  rw [backfill, supplyRouteGroups_eq, groupAll?_supplyGroupIssuers, labeled]
  rfl

/-! ## Identifiers of peers -/

/-- A peer without an identifier gets one of the new ones. -/
theorem mem_newPeerIds
    {arrival : Arrival}
    {accountSlot slot : String}
    {account : Account}
    {peer : Peer}
    (found : account.peers.get? slot = some peer)
    (nameless : peer.id = "") :
    newPeerId arrival accountSlot account slot peer ∈
      newPeerIds arrival accountSlot account :=
  List.mem_map.mpr ⟨(slot, peer),
    List.mem_filter.mpr ⟨Dict.get?_eq_some_iff.mp found, by simp [nameless]⟩, rfl⟩

/-- A peer of an account with the last step done comes from a peer before it. -/
theorem mem_identifyPeers
    {arrival : Arrival}
    {accountSlot : String}
    {account : Account}
    {identified : Peer}
    (member : identified ∈ (identifyPeers arrival accountSlot account).peers.values) :
    ∃ slot peer, account.peers.get? slot = some peer ∧
      identified = supplyLogin (arrival.loginTime accountSlot)
        (identifyPeer arrival accountSlot account slot peer) := by
  obtain ⟨key, entryMember⟩ := Dict.mem_of_mem_values_ofList member
  obtain ⟨⟨slot, peer⟩, old, same⟩ := List.mem_map.mp entryMember
  exact ⟨slot, peer, Dict.get?_eq_some_iff.mpr old, (congrArg Prod.snd same).symm⟩

/-- No reference moves while every peer has an identifier. -/
theorem finalReference_of_named
    {arrival : Arrival}
    {accountSlot : String}
    {account : Account}
    (named : ∀ peer ∈ account.peers.values, peer.id ≠ "")
    (reference : String) :
    finalReference arrival accountSlot account reference = reference := by
  rw [finalReference]
  split
  · rfl
  · rename_i peer found
    have kept := named peer (Dict.mem_values_iff.mpr ⟨reference, found⟩)
    simp [finalSlot, kept]

/-- The last step leaves an account alone whose peers have identifiers and logins. -/
theorem identifyPeers_of_identified
    (arrival : Arrival)
    (accountSlot : String)
    {account : Account}
    (identified : ∀ peer ∈ account.peers.values,
      peer.id ≠ "" ∧ peer.lastLogin.isZero = false) :
    identifyPeers arrival accountSlot account = account := by
  have references : finalReference arrival accountSlot account = id :=
    funext (finalReference_of_named (fun peer member => (identified peer member).1))
  have entries : account.peers.entries.map (fun entry =>
      (finalSlot arrival accountSlot account entry.1 entry.2,
        supplyLogin (arrival.loginTime accountSlot)
          (identifyPeer arrival accountSlot account entry.1 entry.2))) =
      account.peers.entries := by
    refine Eq.trans (List.map_congr_left ?_) (List.map_id _)
    intro entry member
    obtain ⟨named, login⟩ := identified entry.2 (List.mem_map.mpr ⟨entry, member, rfl⟩)
    simp [finalSlot, identifyPeer, supplyLogin, named, login]
  have groups : account.groups.mapValues (fun _ group =>
      { group with peers := group.peers.map id }) = account.groups :=
    Dict.mapValues_of_forall_mem (fun group _ => by rw [List.map_id])
  have routes : account.routes.mapValues (fun _ route =>
      { route with peer := id route.peer }) = account.routes :=
    Dict.mapValues_of_forall_mem (fun _ _ => rfl)
  rw [identifyPeers, references, entries, Dict.ofList_entries, groups, routes]

/-- After the last step all peers have identifiers and logins. -/
theorem identified_identifyPeers
    {arrival : Arrival}
    {accountSlot : String}
    {account : Account}
    (clock : arrival.Running)
    (newIds : ∀ id ∈ newPeerIds arrival accountSlot account, id ≠ "") :
    ∀ peer ∈ (identifyPeers arrival accountSlot account).peers.values,
      peer.id ≠ "" ∧ peer.lastLogin.isZero = false := by
  intro identified member
  obtain ⟨slot, peer, found, rfl⟩ := mem_identifyPeers member
  constructor
  · simp only [supplyLogin, identifyPeer]
    split
    · rename_i nameless
      exact newIds _ (mem_newPeerIds found (String.isEmpty_iff.mp nameless))
    · rename_i named
      exact fun empty => named (String.isEmpty_iff.mpr empty)
  · simp only [supplyLogin]
    split
    · exact clock accountSlot
    · rename_i loggedIn
      exact Bool.eq_false_iff.mpr loggedIn

/-! ## All steps -/

/-- What each of the steps does to an account; steps that fill indices do nothing. -/
def accountChanges (arrival : Arrival) : List (String → Account → Account) := [
  fun _ => supplySettings,
  fun _ => id,
  fun _ => supplyUserIssuers,
  fun _ => id,
  fun _ => upgradePolicies,
  fun _ => labelPeers,
  fun _ => supplyGroupIssuers,
  fun _ => supplyRouteGroups,
  identifyPeers arrival
]

/-- What the migration makes of an account that is filed under an identifier. -/
def migrateAccount (arrival : Arrival) (accountSlot : String) (account : Account) :
    Account :=
  (accountChanges arrival).foldl (fun account change => change accountSlot account) account

/-- The last step, and what comes before it. -/
theorem migrateAccount_eq (arrival : Arrival) (accountSlot : String) (account : Account) :
    migrateAccount arrival accountSlot account =
      identifyPeers arrival accountSlot (backfill account) :=
  rfl

/-- Every step leaves an account in current shape as it is. -/
theorem change_of_isCurrent
    {arrival : Arrival}
    (accountSlot : String)
    {account : Account}
    (current : account.IsCurrent) :
    ∀ change ∈ accountChanges arrival, change accountSlot account = account := by
  obtain ⟨settings, settingsFound⟩ := Option.isSome_iff_exists.mp current.settings
  have supplied : supplySettings account = account := by
    rw [supplySettings, settingsFound, Option.getD_some, ← settingsFound]
  have users : supplyUserIssuers account = account := by
    rw [supplyUserIssuers, Dict.mapValues_of_forall_mem (fun user member =>
      supplyUserIssuer_of_issued (current.users user member))]
  have groups : supplyGroupIssuers account = account := by
    rw [supplyGroupIssuers, Dict.mapValues_of_forall_mem (fun group member =>
      supplyGroupIssuer_of_issued (current.groups group member))]
  have routes : supplyRouteGroups account = account := by
    rw [supplyRouteGroups_eq, Dict.mapValues_of_forall_mem]
    intro route member
    cases all : account.groupAll? with
    | none => rfl
    | some group =>
        exact supplyRouteGroup_of_groups group.id
          (current.routes (by rw [all, Option.isSome_some]) route member)
  have labels : labelPeers account = account :=
    labelPeers_of_labeled (fun peer member => (current.peers peer member).dnsLabel)
  have identified : identifyPeers arrival accountSlot account = account :=
    identifyPeers_of_identified arrival accountSlot (fun peer member =>
      ⟨(current.peers peer member).id, (current.peers peer member).lastLogin⟩)
  simp only [accountChanges, List.forall_mem_cons, id_eq, List.not_mem_nil,
    false_implies, implies_true, and_true, true_and]
  exact ⟨supplied, users, upgradePolicies_eq_self_iff.mpr current.policies, labels, groups,
    routes, identified⟩

/-- Changes that leave an account as it is do so one after the other. -/
theorem foldl_of_fixed
    {changes : List (String → Account → Account)}
    {accountSlot : String}
    {account : Account}
    (fixed : ∀ change ∈ changes, change accountSlot account = account) :
    changes.foldl (fun account change => change accountSlot account) account = account := by
  induction changes with
  | nil => rfl
  | cons change rest inductionHypothesis =>
      rw [List.foldl_cons, fixed change List.mem_cons_self]
      exact inductionHypothesis (fun later member => fixed later (List.mem_cons_of_mem _ member))

/-- An account in current shape is left as it is. -/
theorem migrateAccount_of_isCurrent
    (arrival : Arrival)
    (accountSlot : String)
    {account : Account}
    (current : account.IsCurrent) :
    migrateAccount arrival accountSlot account = account :=
  foldl_of_fixed (change_of_isCurrent accountSlot current)

/-- New identifiers leave the group of all peers where it is. -/
theorem isSome_groupAll?_identifyPeers
    (arrival : Arrival)
    (accountSlot : String)
    (account : Account) :
    (identifyPeers arrival accountSlot account).groupAll?.isSome =
      account.groupAll?.isSome := by
  have same : (identifyPeers arrival accountSlot account).groupAll? =
      account.groupAll?.map (fun group =>
        { group with
          peers := group.peers.map (finalReference arrival accountSlot account) }) :=
    Dict.find?_mapValues account.groups (fun _ => rfl)
  rw [same, Option.isSome_map]

/-- Filling in what lacks does not add a group of all peers. -/
theorem isSome_groupAll?_backfill (account : Account) :
    (backfill account).groupAll?.isSome = account.groupAll?.isSome := by
  obtain ⟨_, filled, _⟩ := backfill_eq account
  have same : (backfill account).groupAll? = account.groupAll?.map supplyGroupIssuer := by
    rw [filled]
    exact Dict.find?_mapValues account.groups (fun _ => rfl)
  rw [same, Option.isSome_map]

/-- Which identifiers are new does not depend on what was filled in. -/
theorem newPeerIds_backfill (arrival : Arrival) (accountSlot : String) (account : Account) :
    newPeerIds arrival accountSlot (backfill account) =
      newPeerIds arrival accountSlot account := by
  obtain ⟨labelOf, filled, _⟩ := backfill_eq account
  rw [filled]
  simp only [newPeerIds, Dict.mapValues, List.filter_map, List.map_map]
  rfl

/-- The migration gives an account the current shape. -/
theorem isCurrent_migrateAccount
    {arrival : Arrival}
    {accountSlot : String}
    {account : Account}
    (clock : arrival.Running)
    (newIds : ∀ id ∈ newPeerIds arrival accountSlot account, id ≠ "") :
    (migrateAccount arrival accountSlot account).IsCurrent := by
  have newIdsLater := newIds
  rw [← newPeerIds_backfill] at newIdsLater
  obtain ⟨labelOf, filled, labels⟩ := backfill_eq account
  rw [migrateAccount_eq]
  constructor
  case settings =>
    rw [filled]
    rfl
  case users =>
    intro user member
    rw [filled] at member
    obtain ⟨_, before, _, rfl⟩ := Dict.mem_values_mapValues.mp member
    exact suppliedIssuer_ne_empty before.issued
  case groups =>
    intro group member
    rw [filled] at member
    obtain ⟨slot, referring, found, rfl⟩ := Dict.mem_values_mapValues.mp member
    obtain ⟨_, before, _, rfl⟩ :=
      Dict.mem_values_mapValues.mp (Dict.mem_values_iff.mpr ⟨slot, found⟩)
    exact suppliedIssuer_ne_empty before.issued
  case policies =>
    intro policy member rule ruleMember
    rw [filled] at member
    obtain ⟨before, _, rfl⟩ := List.mem_map.mp member
    obtain ⟨_, _, rfl⟩ := List.mem_map.mp ruleMember
    exact isCurrent_upgrade before.id _
  case peers =>
    intro peer member
    obtain ⟨named, login⟩ := identified_identifyPeers clock newIdsLater peer member
    obtain ⟨slot, labeled, found, rfl⟩ := mem_identifyPeers member
    have labelKept : (supplyLogin (arrival.loginTime accountSlot) (identifyPeer arrival accountSlot
        (backfill account) slot labeled)).dnsLabel = labeled.dnsLabel := by
      simp only [supplyLogin, identifyPeer]
      split <;> rfl
    rw [filled, Dict.get?_mapValues, Option.map_eq_some_iff] at found
    obtain ⟨before, beforeFound, rfl⟩ := found
    exact ⟨named, labelKept ▸ (labels slot before beforeFound).1, login⟩
  case routes =>
    intro all route member
    rw [isSome_groupAll?_identifyPeers, isSome_groupAll?_backfill] at all
    obtain ⟨group, groupFound⟩ := Option.isSome_iff_exists.mp all
    obtain ⟨slot, referring, found, rfl⟩ := Dict.mem_values_mapValues.mp member
    rw [filled, groupFound] at found
    obtain ⟨_, before, _, rfl⟩ :=
      Dict.mem_values_mapValues.mp (Dict.mem_values_iff.mpr ⟨slot, found⟩)
    exact supplyRouteGroup_groups group.id before

end FileEngine.Migration

end TenantStore
