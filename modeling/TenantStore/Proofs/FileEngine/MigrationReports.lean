import TenantStore.Proofs.FileEngine.MigrationRuns

namespace TenantStore

/-!
# What a migration reports

A step of a migration reports how many records it changes. Each step but one
counts nothing exactly when it leaves every account alone. The step of the
policies also counts a policy without an identifier that has a rule without
the identifier of its policy: there is none to supply, so the rule stays as it
is and is counted again by every later migration.
-/

/-- Whether a policy lacks the identifier that one of its rules lacks as well. -/
def Policy.isNameless (policy : Policy) : Bool :=
  policy.id.isEmpty && policy.rules.any (fun rule => rule.policyId.isEmpty)

namespace FileEngine.Migration

/-- How many policies a migration counts though it cannot change them. -/
def namelessPolicies (accounts : Dict Account) : Nat :=
  countIn (fun account => account.policies.countP Policy.isNameless) accounts

/-! ## Counts of all accounts -/

/-- Nothing is counted if nothing is counted in any account. -/
theorem countIn_eq_zero_iff {count : Account → Nat} {accounts : Dict Account} :
    countIn count accounts = 0 ↔ ∀ account ∈ accounts.values, count account = 0 := by
  rw [countIn, ← List.sum_eq_foldr, List.sum_eq_zero_iff_forall_eq_nat, List.forall_mem_map]

/-- A change that a count does not see leaves it in the whole. -/
theorem countIn_mapValues_of_same
    {count : Account → Nat}
    {change : String → Account → Account}
    (same : ∀ slot account, count (change slot account) = count account)
    (accounts : Dict Account) :
    countIn count (accounts.mapValues change) = countIn count accounts := by
  rw [countIn, Dict.map_values_mapValues same, countIn]

/-- If nothing is counted in just the accounts that stay, none is if all stay. -/
theorem countIn_eq_zero_iff_unchanged
    {count : Account → Nat}
    {change : String → Account → Account}
    {accounts : Dict Account}
    (each : ∀ slot account, accounts.get? slot = some account →
      (count account = 0 ↔ change slot account = account)) :
    countIn count accounts = 0 ↔ accounts.mapValues change = accounts := by
  rw [countIn_eq_zero_iff, Dict.mapValues_eq_self_iff]
  constructor
  · intro none slot account found
    exact (each slot account found).mp (none account (Dict.mem_values_iff.mpr ⟨slot, found⟩))
  · intro kept account member
    obtain ⟨slot, found⟩ := Dict.mem_values_iff.mp member
    exact (each slot account found).mpr (kept slot account found)

/-- Where a value counts just if a change affects it, nothing counts if all stay. -/
theorem countP_values_eq_zero_iff
    {counts : α → Bool}
    {change : α → α}
    (each : ∀ value, counts value = false ↔ change value = value)
    (dict : Dict α) :
    dict.values.countP counts = 0 ↔ dict.mapValues (fun _ => change) = dict := by
  rw [List.countP_eq_zero, Dict.mapValues_eq_self_iff]
  constructor
  · intro none key value found
    exact (each value).mp
      (Bool.eq_false_iff.mpr (none value (Dict.mem_values_iff.mpr ⟨key, found⟩)))
  · intro kept value member
    obtain ⟨key, found⟩ := Dict.mem_values_iff.mp member
    exact Bool.eq_false_iff.mp ((each value).mpr (kept key value found))

/-! ## What each step counts in an account -/

/-- Settings are supplied if there are none. -/
theorem settings_counted_iff (account : Account) :
    (if account.settings.isNone then 1 else 0) = 0 ↔ supplySettings account = account := by
  constructor
  · intro none
    have given : account.settings.isSome = true := by
      cases settings : account.settings <;> simp [settings] at none ⊢
    obtain ⟨settings, found⟩ := Option.isSome_iff_exists.mp given
    rw [supplySettings, found, Option.getD_some, ← found]
  · intro kept
    have settings : account.settings = some (account.settings.getD legacySettings) :=
      (congrArg Account.settings kept).symm
    rw [settings]
    rfl

/-- An issuer counts as lacking just if another one is supplied. -/
theorem suppliedIssuer_eq_iff (issued : String) :
    (if issued.isEmpty then issuedHere else issued) = issued ↔ issued.isEmpty = false := by
  constructor
  · intro kept
    have given := suppliedIssuer_ne_empty issued
    rw [kept] at given
    simpa using given
  · intro given
    rw [given, if_neg Bool.false_ne_true]

/-- The users who are counted are those who change. -/
theorem userIssuers_counted_iff (account : Account) :
    account.users.values.countP (fun user => user.issued.isEmpty) = 0 ↔
      supplyUserIssuers account = account := by
  have each (user : User) : user.issued.isEmpty = false ↔ supplyUserIssuer user = user :=
    (suppliedIssuer_eq_iff user.issued).symm.trans
      ⟨fun same => by rw [supplyUserIssuer, same], congrArg User.issued⟩
  rw [countP_values_eq_zero_iff each]
  exact ⟨fun kept => by rw [supplyUserIssuers, kept], congrArg Account.users⟩

/-- The groups that are counted are those that change. -/
theorem groupIssuers_counted_iff (account : Account) :
    account.groups.values.countP (fun group => group.issued.isEmpty) = 0 ↔
      supplyGroupIssuers account = account := by
  have each (group : Group) : group.issued.isEmpty = false ↔ supplyGroupIssuer group = group :=
    (suppliedIssuer_eq_iff group.issued).symm.trans
      ⟨fun same => by rw [supplyGroupIssuer, same], congrArg Group.issued⟩
  rw [countP_values_eq_zero_iff each]
  exact ⟨fun kept => by rw [supplyGroupIssuers, kept], congrArg Account.groups⟩

/-- The routes that are counted are those that change. Without a group of all peers none does. -/
theorem routeGroups_counted_iff (account : Account) :
    (if account.groupAll?.isSome then
        account.routes.values.countP (fun route => route.groups.isEmpty)
      else
        0) = 0 ↔
      supplyRouteGroups account = account := by
  cases all : account.groupAll? with
  | none => simp [supplyRouteGroups, all]
  | some group =>
      have each (route : Route) :
          route.groups.isEmpty = false ↔ supplyRouteGroup group.id route = route := by
        constructor
        · intro given
          exact supplyRouteGroup_of_groups group.id (by simpa using given)
        · intro kept
          have groups := supplyRouteGroup_groups group.id route
          rw [kept] at groups
          simpa using groups
      rw [Option.isSome_some, if_pos rfl, countP_values_eq_zero_iff each,
        show supplyRouteGroups account = { account with
          routes := account.routes.mapValues (fun _ => supplyRouteGroup group.id) } by
            rw [supplyRouteGroups, all]]
      exact ⟨fun kept => by rw [kept], congrArg Account.routes⟩

/-- The peers that are counted are those that get a label. -/
theorem labels_counted_iff (account : Account) :
    (unlabeledSlots account).length = 0 ↔ labelPeers account = account := by
  rw [List.length_eq_zero_iff]
  constructor
  · intro none
    rw [labelPeers, none, List.foldl_nil]
  · intro kept
    obtain ⟨labelOf, labeled, labels⟩ := labelPeers_eq account
    rw [List.eq_nil_iff_forall_not_mem]
    intro slot member
    obtain ⟨peer, found⟩ : ∃ peer, account.peers.get? slot = some peer := by
      obtain ⟨⟨_, peer⟩, entry, rfl⟩ := List.mem_map.mp member
      exact ⟨peer, Dict.get?_eq_some_iff.mpr (List.mem_filter.mp entry).1⟩
    have peers := congrArg (fun account => account.peers.get? slot) (labeled.symm.trans kept)
    have same : relabel (labelOf slot peer) peer = peer := by
      simpa [found] using peers
    rw [mem_unlabeledSlots_iff found] at member
    exact (labels slot peer found).1 ((congrArg Peer.dnsLabel same).trans member)

/-- No peer is counted if all have an identifier and have logged in. -/
theorem identities_counted_zero_iff (account : Account) :
    account.peers.values.countP (fun peer => peer.lastLogin.isZero)
        + account.peers.values.countP (fun peer => peer.id.isEmpty) = 0 ↔
      ∀ peer ∈ account.peers.values, peer.id ≠ "" ∧ peer.lastLogin.isZero = false := by
  simp only [Nat.add_eq_zero_iff, List.countP_eq_zero, String.isEmpty_iff, Bool.not_eq_true]
  rw [and_comm, forall₂_and]

/-- The peers that are counted are those that change, if the clock runs and new identifiers are not
empty. -/
theorem identities_counted_iff
    {arrival : Arrival}
    {accountSlot : String}
    {account : Account}
    (clock : arrival.Running)
    (newIds : ∀ id ∈ newPeerIds arrival accountSlot account, id ≠ "") :
    account.peers.values.countP (fun peer => peer.lastLogin.isZero)
        + account.peers.values.countP (fun peer => peer.id.isEmpty) = 0 ↔
      identifyPeers arrival accountSlot account = account := by
  rw [identities_counted_zero_iff]
  constructor
  · exact identifyPeers_of_identified arrival accountSlot
  · intro kept
    have identified := identified_identifyPeers clock newIds
    rwa [kept] at identified

/-! ### Policies -/

/-- A rule is not counted if it is in shape, unless nothing has a name. -/
theorem isOutdated_eq_false_iff {policyId : String} {rule : PolicyRule} :
    rule.isOutdated = false ↔
      rule.IsCurrent policyId ∧ ¬(policyId.isEmpty ∧ rule.policyId.isEmpty) := by
  have parts : rule.isOutdated = false ↔
      (rule.protocol ≠ .unset ∧ (rule.currentProtocol ≠ .all ∨ rule.bidirectional = true)) ∧
        rule.policyId.isEmpty = false := by
    simp only [PolicyRule.isOutdated, Bool.or_eq_false_iff, decide_eq_false_iff_not,
      Bool.and_eq_false_iff, Bool.not_eq_false', ne_eq]
  rw [parts]
  constructor
  · rintro ⟨⟨protocol, direction⟩, named⟩
    rw [show rule.currentProtocol = rule.protocol from if_neg protocol] at direction
    exact ⟨⟨protocol, fun all => direction.resolve_left (absurd all), fun unnamed =>
      absurd (String.isEmpty_iff.mpr unnamed) (Bool.eq_false_iff.mp named)⟩,
      fun both => Bool.eq_false_iff.mp named both.2⟩
  · rintro ⟨⟨protocol, direction, policy⟩, notBoth⟩
    rw [show rule.currentProtocol = rule.protocol from if_neg protocol]
    refine ⟨⟨protocol, ?_⟩, ?_⟩
    · by_cases all : rule.protocol = .all
      · exact Or.inr (direction all)
      · exact Or.inl all
    · rw [Bool.eq_false_iff]
      intro unnamed
      exact notBoth ⟨String.isEmpty_iff.mpr (policy (String.isEmpty_iff.mp unnamed)), unnamed⟩

/-- A policy is nameless if it and one of its rules are without the identifier of the policy. -/
theorem isNameless_eq_false_iff {policy : Policy} :
    policy.isNameless = false ↔
      ∀ rule ∈ policy.rules, ¬(policy.id.isEmpty ∧ rule.policyId.isEmpty) := by
  simp only [Policy.isNameless, Bool.and_eq_false_iff, List.any_eq_false]
  by_cases unnamed : policy.id.isEmpty = true <;> simp [unnamed]

/-- A policy is not counted if its rules are current, and they have an identifier to be given. -/
theorem policy_isOutdated_eq_false_iff {policy : Policy} :
    policy.isOutdated = false ↔
      (∀ rule ∈ policy.rules, rule.IsCurrent policy.id) ∧ policy.isNameless = false := by
  rw [Policy.isOutdated, List.any_eq_false, isNameless_eq_false_iff, ← forall₂_and]
  refine forall₂_congr (fun rule _ => ?_)
  rw [Bool.not_eq_true, isOutdated_eq_false_iff]

/-- The policies that are counted are those that change, and those that have no identifier to
give. -/
theorem policies_counted_iff (account : Account) :
    account.policies.countP Policy.isOutdated = 0 ↔
      upgradePolicies account = account ∧ account.policies.countP Policy.isNameless = 0 := by
  simp only [upgradePolicies_eq_self_iff, List.countP_eq_zero, Bool.not_eq_true,
    policy_isOutdated_eq_false_iff, forall₂_and]

/-- Of policies in current shape just those without names are counted. -/
theorem countP_isOutdated_of_current
    {policies : List Policy}
    (current : ∀ policy ∈ policies, ∀ rule ∈ policy.rules, rule.IsCurrent policy.id) :
    policies.countP Policy.isOutdated = policies.countP Policy.isNameless := by
  apply List.countP_congr
  intro policy member
  rw [← not_iff_not, Bool.not_eq_true, Bool.not_eq_true, policy_isOutdated_eq_false_iff]
  exact and_iff_right (current policy member)

/-- Bringing a policy up to date does not give it a name. -/
theorem isNameless_upgrade (policy : Policy) : policy.upgrade.isNameless = policy.isNameless := by
  by_cases unnamed : policy.id = ""
  · have same (rule : PolicyRule) :
        (rule.upgrade policy.id).policyId.isEmpty = rule.policyId.isEmpty := by
      rw [PolicyRule.upgrade, unnamed]
      split
      · rename_i ruleUnnamed
        exact ruleUnnamed.symm
      · rfl
    simp only [Policy.isNameless, Policy.upgrade, List.any_map, Function.comp_def, same]
  · have named : policy.id.isEmpty = false :=
      Bool.eq_false_iff.mpr (mt String.isEmpty_iff.mp unnamed)
    simp only [Policy.isNameless, Policy.upgrade, named, Bool.false_and]

/-- No step gives a policy a name. -/
theorem namelessPolicies_change (arrival : Arrival) :
    ∀ change ∈ accountChanges arrival, ∀ accounts : Dict Account,
      namelessPolicies (accounts.mapValues change) = namelessPolicies accounts := by
  have upgraded (account : Account) :
      (upgradePolicies account).policies.countP Policy.isNameless =
        account.policies.countP Policy.isNameless := by
    simp only [upgradePolicies, List.countP_map, Function.comp_def, isNameless_upgrade]
  have labeled (account : Account) : (labelPeers account).policies = account.policies := by
    obtain ⟨_, labeled, _⟩ := labelPeers_eq account
    rw [labeled]
  have routed (account : Account) : (supplyRouteGroups account).policies = account.policies := by
    rw [supplyRouteGroups_eq]
  simp only [accountChanges, List.forall_mem_cons, List.not_mem_nil, false_implies,
    implies_true, and_true]
  refine ⟨?settings, ?indices, ?users, ?domains, ?policies, ?labels, ?groups, ?routes,
    ?identities⟩
  all_goals refine countIn_mapValues_of_same (fun slot account => ?_)
  case policies => exact upgraded account
  case labels => rw [labeled]
  case routes => rw [routed]
  all_goals rfl

/-! ### New identifiers -/

/-- New identifiers are not empty. -/
def Named (arrival : Arrival) (accounts : Dict Account) : Prop :=
  ∀ slot account, accounts.get? slot = some account →
    ∀ id ∈ newPeerIds arrival slot account, id ≠ ""

/-- Identifiers that nobody has are not empty. -/
theorem Fresh.named {arrival : Arrival} {accounts : Dict Account}
    (fresh : Fresh arrival accounts) : Named arrival accounts :=
  fun _ _ stored id new => fresh.nonempty id (mem_newIds stored new)

/-- The same peers lack identifiers before and after each step but the last, which serves all. -/
theorem Named.change
    {arrival : Arrival}
    (clock : arrival.Running) :
    ∀ change ∈ accountChanges arrival, ∀ accounts,
      Named arrival accounts → Named arrival (accounts.mapValues change) := by
  have labeled (slot : String) (account : Account) :
      newPeerIds arrival slot (labelPeers account) = newPeerIds arrival slot account := by
    obtain ⟨labelOf, labeled, _⟩ := labelPeers_eq account
    rw [labeled]
    simp only [newPeerIds, Dict.mapValues, List.filter_map, List.map_map]
    rfl
  have routed (slot : String) (account : Account) :
      newPeerIds arrival slot (supplyRouteGroups account) = newPeerIds arrival slot account := by
    rw [supplyRouteGroups_eq]
    rfl
  simp only [accountChanges, List.forall_mem_cons, List.not_mem_nil, false_implies,
    implies_true, and_true]
  refine ⟨?settings, ?indices, ?users, ?domains, ?policies, ?labels, ?groups, ?routes,
    ?identities⟩
  all_goals
    intro accounts named slot changed found
    rw [Dict.get?_mapValues, Option.map_eq_some_iff] at found
    obtain ⟨account, stored, rfl⟩ := found
  case labels =>
    rw [labeled]
    exact named slot account stored
  case routes =>
    rw [routed]
    exact named slot account stored
  case identities =>
    intro id new
    obtain ⟨entry, entryMember, _⟩ := List.mem_map.mp new
    obtain ⟨present, nameless⟩ := List.mem_filter.mp entryMember
    have identified := identified_identifyPeers clock (named slot account stored) entry.2
      (List.mem_map.mpr ⟨entry, present, rfl⟩)
    exact absurd (String.isEmpty_iff.mp nameless) identified.1
  all_goals exact named slot account stored

/-! ## What each step counts -/

/--
A step counts nothing exactly when it changes no account, and the step of the
policies only if no policy is nameless.
-/
theorem count_eq_zero_iff
    {arrival : Arrival}
    {memory : Memory}
    (clock : arrival.Running)
    (named : Named arrival memory.accounts) :
    ∀ step ∈ steps arrival,
      step.count memory.accounts = 0 ↔
        (step.change memory).accounts = memory.accounts ∧
          (step.name = "policies" → namelessPolicies memory.accounts = 0) := by
  have policies :
      countIn (fun account => account.policies.countP Policy.isOutdated) memory.accounts = 0 ↔
        memory.accounts.mapValues (fun _ => upgradePolicies) = memory.accounts ∧
          ("policies" = "policies" → namelessPolicies memory.accounts = 0) := by
    rw [forall_prop_of_true rfl, namelessPolicies, countIn_eq_zero_iff, countIn_eq_zero_iff,
      Dict.mapValues_eq_self_iff]
    simp only [policies_counted_iff, Dict.mem_values_iff]
    exact ⟨fun each => ⟨fun slot account stored => (each account ⟨slot, stored⟩).1,
        fun account stored => (each account stored).2⟩,
      fun each account ⟨slot, stored⟩ => ⟨each.1 slot account stored,
        each.2 account ⟨slot, stored⟩⟩⟩
  have untouched (name : String) (other : name ≠ "policies")
      {count : Account → Nat} {change : String → Account → Account}
      (each : ∀ slot account, memory.accounts.get? slot = some account →
        (count account = 0 ↔ change slot account = account)) :
      countIn count memory.accounts = 0 ↔
        (changeAccounts change memory).accounts = memory.accounts ∧
          (name = "policies" → namelessPolicies memory.accounts = 0) :=
    (countIn_eq_zero_iff_unchanged each).trans (and_iff_left (absurd · other)).symm
  rw [steps]
  repeat rw [List.forall_mem_cons]
  refine ⟨?settings, ?indices, ?users, ?domains, ?policies, ?labels, ?groups, ?routes,
    ?identities, fun _ member => absurd member List.not_mem_nil⟩
  case indices => exact iff_of_true rfl ⟨rfl, nofun⟩
  case domains => exact iff_of_true rfl ⟨rfl, nofun⟩
  case policies => exact policies
  case settings =>
    exact untouched "default settings" (by decide) (fun _ account _ =>
      settings_counted_iff account)
  case users =>
    exact untouched "users and tokens" (by decide) (fun _ account _ =>
      userIssuers_counted_iff account)
  case labels =>
    exact untouched "dns labels" (by decide) (fun _ account _ => labels_counted_iff account)
  case groups =>
    exact untouched "group issuer" (by decide) (fun _ account _ =>
      groupIssuers_counted_iff account)
  case routes =>
    exact untouched "route groups" (by decide) (fun _ account _ =>
      routeGroups_counted_iff account)
  case identities =>
    exact untouched "peer identity" (by decide) (fun slot account stored =>
      identities_counted_iff clock (named slot account stored))

/-! ## What a whole run counts -/

/-- Each step of a run with the memory that it finds. -/
def passage : List Step → Memory → List (Step × Memory)
  | [], _ => []
  | step :: rest, memory => (step, memory) :: passage rest (step.change memory)

/-- Every step is taken once, in order. -/
theorem map_fst_passage (steps : List Step) (memory : Memory) :
    (passage steps memory).map Prod.fst = steps := by
  induction steps generalizing memory with
  | nil => rfl
  | cons step rest inductionHypothesis =>
      rw [passage, List.map_cons, inductionHypothesis]

/-- What a run counts is what each step counts in the accounts that it finds. -/
theorem runSteps_counts (steps : List Step) (memory : Memory) :
    (runSteps steps memory).2 =
      (passage steps memory).map (fun place =>
        (place.1.name, place.1.count place.2.accounts)) := by
  induction steps generalizing memory with
  | nil => rfl
  | cons step rest inductionHypothesis =>
      rw [passage, List.map_cons, ← inductionHypothesis]
      rfl

/-- A run counts the same whatever the indices hold. -/
theorem runSteps_counts_of_accounts
    {steps : List Step}
    {changes : List (String → Account → Account)}
    (each : List.Forall₂ Step.ChangesBy steps changes)
    {left right : Memory}
    (same : left.accounts = right.accounts) :
    (runSteps steps left).2 = (runSteps steps right).2 := by
  induction each generalizing left right with
  | nil => rfl
  | @cons step _ _ _ here _ inductionHypothesis =>
      have later : (step.change left).accounts = (step.change right).accounts := by
        rw [(here left).1, (here right).1, same]
      rw [runSteps, runSteps]
      simp only [inductionHypothesis later, same]

/-- What every step keeps of the accounts holds where each step begins, and in the end. -/
theorem passage_keeps
    {steps : List Step}
    {changes : List (String → Account → Account)}
    (each : List.Forall₂ Step.ChangesBy steps changes)
    {kept : Dict Account → Prop}
    (keeps : ∀ change ∈ changes, ∀ accounts, kept accounts → kept (accounts.mapValues change))
    {memory : Memory}
    (initially : kept memory.accounts) :
    (∀ place ∈ passage steps memory, kept place.2.accounts) ∧
      kept (runSteps steps memory).1.accounts := by
  induction each generalizing memory with
  | nil => exact ⟨nofun, initially⟩
  | cons here _ inductionHypothesis =>
      have next := keeps _ List.mem_cons_self _ initially
      rw [← (here memory).1] at next
      obtain ⟨places, last⟩ := inductionHypothesis
        (fun change member => keeps change (List.mem_cons_of_mem _ member)) next
      exact ⟨List.forall_mem_cons.mpr ⟨initially, places⟩, last⟩

/-- If each step leaves the accounts alone that it finds, the run leaves them alone. -/
theorem runSteps_accounts_of_unchanged
    {steps : List Step}
    {memory : Memory}
    (unchanged : ∀ place ∈ passage steps memory,
      (place.1.change place.2).accounts = place.2.accounts) :
    (runSteps steps memory).1.accounts = memory.accounts := by
  induction steps generalizing memory with
  | nil => rfl
  | cons step rest inductionHypothesis =>
      rw [passage, List.forall_mem_cons] at unchanged
      exact (inductionHypothesis unchanged.2).trans unchanged.1

/-! ## Reports -/

/-- A migration reports what each step counts in the accounts that it finds. -/
theorem changes_report (arrival : Arrival) (memory : Memory) :
    (report arrival memory).changes =
      (passage (steps arrival) memory.withoutIndices).map (fun place =>
        (place.1.name, place.1.count place.2.accounts)) := by
  rw [← runSteps_counts]
  exact runSteps_counts_of_accounts (steps_change arrival) rfl

/-- Where names are distinct, each is looked up with its own number. -/
theorem lookup_map_of_nodup
    {nameOf : α → String}
    {numberOf : α → Nat}
    {items : List α}
    (distinct : (items.map nameOf).Nodup)
    {item : α}
    (member : item ∈ items) :
    (items.map (fun item => (nameOf item, numberOf item))).lookup (nameOf item) =
      some (numberOf item) := by
  induction items with
  | nil => cases member
  | cons head rest inductionHypothesis =>
      rw [List.map_cons, List.nodup_cons] at distinct
      rw [List.map_cons, List.lookup_cons]
      rcases List.mem_cons.mp member with rfl | later
      · rw [beq_self_eq_true]
      · have other : (nameOf item == nameOf head) = false := by
          rw [beq_eq_false_iff_ne]
          intro same
          exact distinct.1 (same ▸ List.mem_map_of_mem later)
        rw [other]
        exact inductionHypothesis distinct.2 later

/-- No two steps share a name in a report. -/
theorem stepNames_nodup (arrival : Arrival) : ((steps arrival).map Step.name).Nodup := by
  have names : (steps arrival).map Step.name = ["default settings",
      "peer and setup key indices", "users and tokens", "private domains", "policies",
      "dns labels", "group issuer", "route groups", "peer identity"] := rfl
  rw [names]
  decide

/-- Only steps are taken. -/
theorem mem_passage_steps
    {arrival : Arrival}
    {memory : Memory}
    {place : Step × Memory}
    (member : place ∈ passage (steps arrival) memory) :
    place.1 ∈ steps arrival := by
  rw [← map_fst_passage (steps arrival) memory]
  exact List.mem_map_of_mem member

/-- The report tells of each step what it counts in the accounts that it finds. -/
theorem changed_report
    {arrival : Arrival}
    {memory : Memory}
    {place : Step × Memory}
    (member : place ∈ passage (steps arrival) memory.withoutIndices) :
    (report arrival memory).changed place.1.name = place.1.count place.2.accounts := by
  have distinct : ((passage (steps arrival) memory.withoutIndices).map
      (Step.name ∘ Prod.fst)).Nodup := by
    rw [← List.map_map, map_fst_passage]
    exact stepNames_nodup arrival
  rw [Report.changed, changes_report]
  exact congrArg (·.getD 0) (lookup_map_of_nodup distinct member)

/-- A report is empty if no step counts anything in what it finds. -/
theorem total_report_eq_zero_iff {arrival : Arrival} {memory : Memory} :
    (report arrival memory).total = 0 ↔
      ∀ place ∈ passage (steps arrival) memory.withoutIndices,
        place.1.count place.2.accounts = 0 := by
  rw [Report.total, ← List.sum_eq_foldr, changes_report, List.map_map,
    List.sum_eq_zero_iff_forall_eq_nat, List.forall_mem_map]
  rfl

/-- Where each step begins, it counts what it changes, and nameless policies. -/
theorem counted_iff
    {arrival : Arrival}
    {memory : Memory}
    (clock : arrival.Running)
    (named : Named arrival memory.accounts) :
    ∀ place ∈ passage (steps arrival) memory.withoutIndices,
      place.1.count place.2.accounts = 0 ↔
        (place.1.change place.2).accounts = place.2.accounts ∧
          (place.1.name = "policies" → namelessPolicies memory.accounts = 0) := by
  intro place member
  let kept (accounts : Dict Account) : Prop :=
    Named arrival accounts ∧ namelessPolicies accounts = namelessPolicies memory.accounts
  have keeps : ∀ change ∈ accountChanges arrival, ∀ accounts,
      kept accounts → kept (accounts.mapValues change) := by
    rintro change changeMember accounts ⟨namedBefore, namelessBefore⟩
    exact ⟨Named.change clock change changeMember accounts namedBefore,
      (namelessPolicies_change arrival change changeMember accounts).trans namelessBefore⟩
  have initially : kept memory.withoutIndices.accounts := ⟨named, rfl⟩
  obtain ⟨namedThere, namelessThere⟩ :=
    (passage_keeps (steps_change arrival) keeps initially).1 place member
  rw [count_eq_zero_iff clock namedThere place.1 (mem_passage_steps member), namelessThere]

/-! ## Accounts in current shape -/

/-- In accounts in current shape a step counts only nameless policies. -/
theorem count_of_isCurrent
    (arrival : Arrival)
    {accounts : Dict Account}
    (current : ∀ account ∈ accounts.values, account.IsCurrent) :
    ∀ step ∈ steps arrival,
      step.count accounts = if step.name = "policies" then namelessPolicies accounts else 0 := by
  have policies : countIn (fun account => account.policies.countP Policy.isOutdated) accounts =
      namelessPolicies accounts := by
    have same := List.map_congr_left (fun account member =>
      countP_isOutdated_of_current (current account member).policies)
    rw [countIn, same, namelessPolicies, countIn]
  have unchanged (account : Account) (member : account ∈ accounts.values) :
      ∀ change ∈ accountChanges arrival, change "" account = account :=
    change_of_isCurrent "" (current account member)
  simp only [accountChanges, List.forall_mem_cons] at unchanged
  rw [steps]
  repeat rw [List.forall_mem_cons]
  refine ⟨?settings, ?indices, ?users, ?domains, ?policies, ?labels, ?groups, ?routes,
    ?identities, fun _ member => absurd member List.not_mem_nil⟩
  case policies => exact policies
  case indices => rfl
  case domains => rfl
  all_goals
    refine countIn_eq_zero_iff.mpr (fun account member => ?_)
    obtain ⟨settings, _, users, _, _, labels, groups, routes, _⟩ := unchanged account member
  case settings => exact (settings_counted_iff account).mpr settings
  case users => exact (userIssuers_counted_iff account).mpr users
  case labels => exact (labels_counted_iff account).mpr labels
  case groups => exact (groupIssuers_counted_iff account).mpr groups
  case routes => exact (routeGroups_counted_iff account).mpr routes
  case identities =>
    exact (identities_counted_zero_iff account).mpr (fun peer peerMember =>
      ⟨((current account member).peers peer peerMember).id,
        ((current account member).peers peer peerMember).lastLogin⟩)

/-- Of accounts in current shape a migration reports the nameless policies only. -/
theorem changes_report_of_isCurrent
    (arrival : Arrival)
    {memory : Memory}
    (current : ∀ account ∈ memory.accounts.values, account.IsCurrent) :
    (report arrival memory).changes =
      (steps arrival).map (fun step =>
        (step.name, if step.name = "policies" then namelessPolicies memory.accounts else 0)) := by
  have keeps : ∀ change ∈ accountChanges arrival, ∀ accounts : Dict Account,
      accounts = memory.accounts → accounts.mapValues change = memory.accounts := by
    rintro change member _ rfl
    rw [Dict.mapValues_eq_self_iff]
    intro slot account stored
    exact change_of_isCurrent slot
      (current account (Dict.mem_values_iff.mpr ⟨slot, stored⟩)) change member
  have initially : memory.withoutIndices.accounts = memory.accounts := rfl
  have found := (passage_keeps (steps_change arrival) keeps initially).1
  rw [changes_report, ← map_fst_passage (steps arrival) memory.withoutIndices, List.map_map]
  apply List.map_congr_left
  intro place member
  rw [found place member, count_of_isCurrent arrival current place.1 (mem_passage_steps member)]
  rfl

/-- Of accounts in current shape a migration reports no more than the nameless policies. -/
theorem report_of_isCurrent
    (arrival : Arrival)
    {memory : Memory}
    (current : ∀ account ∈ memory.accounts.values, account.IsCurrent) :
    (report arrival memory).total = namelessPolicies memory.accounts ∧
      ∀ step ∈ steps arrival, step.name ≠ "policies" →
        (report arrival memory).changed step.name = 0 := by
  have changes := changes_report_of_isCurrent arrival current
  constructor
  · rw [Report.total, changes]
    simp [steps]
  · intro step member other
    rw [Report.changed, changes, lookup_map_of_nodup (stepNames_nodup arrival) member,
      if_neg other, Option.getD_some]

/--
A step counts nothing exactly when it changes no account, and the report has
total zero exactly when the migration leaves all accounts as they were, with
one exception: policies without an identifier that have a rule without the
identifier of its policy are counted and not changed. Any later migration
reports these again, and nothing else.
-/
theorem report_faithful_iff
    (memory : Memory)
    (arrival : Arrival)
    (clock : arrival.Running)
    (fresh : Fresh arrival memory.accounts) :
    (∀ place ∈ passage (steps arrival) memory.withoutIndices,
        ((report arrival memory).changed place.1.name = 0 ↔
          (place.1.change place.2).accounts = place.2.accounts ∧
            (place.1.name = "policies" → namelessPolicies memory.accounts = 0))) ∧
      ((report arrival memory).total = 0 ↔
        (memory.migrate arrival).accounts = memory.accounts ∧
          namelessPolicies memory.accounts = 0) ∧
      ∀ later : Arrival,
        (report later (memory.migrate arrival)).total = namelessPolicies memory.accounts ∧
          ∀ step ∈ steps later, step.name ≠ "policies" →
            (report later (memory.migrate arrival)).changed step.name = 0 := by
  have counted := counted_iff clock fresh.named
  have current : ∀ account ∈ (memory.migrate arrival).accounts.values, account.IsCurrent := by
    intro account member
    obtain ⟨slot, found⟩ := Dict.mem_values_iff.mp member
    exact isCurrent_of_migrate clock fresh found
  refine ⟨?each, ?total, ?again⟩
  case each =>
    intro place member
    rw [changed_report member]
    exact counted place member
  case total =>
    constructor
    · intro none
      rw [total_report_eq_zero_iff] at none
      refine ⟨runSteps_accounts_of_unchanged (fun place member =>
        ((counted place member).mp (none place member)).1), ?_⟩
      obtain ⟨place, member, policies⟩ :
          ∃ place ∈ passage (steps arrival) memory.withoutIndices, place.1.name = "policies" := by
        have name : "policies" ∈ (steps arrival).map Step.name := by simp [steps]
        rw [← map_fst_passage (steps arrival) memory.withoutIndices, List.map_map] at name
        exact List.mem_map.mp name
      exact ((counted place member).mp (none place member)).2 policies
    · rintro ⟨unchanged, named⟩
      rw [unchanged] at current
      exact (report_of_isCurrent arrival current).1.trans named
  case again =>
    intro later
    have nameless : namelessPolicies (memory.migrate arrival).accounts =
        namelessPolicies memory.accounts :=
      (passage_keeps (steps_change arrival)
        (fun change member accounts same =>
          (namelessPolicies_change arrival change member accounts).trans same) rfl).2
    rw [← nameless]
    exact report_of_isCurrent later current

/-- An account in current shape but for a policy and a rule without identifiers. -/
def namelessAccount : Account where
  id := "acc2"
  settings := some {}
  policies := [{ rules := [{ protocol := .tcp }] }]

/-- The old account, and the one with a nameless policy. -/
def legacyAccounts : Dict Account :=
  .ofList [("acc1", legacyAccount), ("acc2", namelessAccount)]

/--
The first start brings the old account up to date. The nameless policy stays as
it was, and is reported by every later start.
-/
theorem report_faithful_legacy :
    plainArrival.Running ∧
      Fresh plainArrival legacyAccounts ∧
      ∃ migrated : Memory,
        Memory.migrate plainArrival { accounts := legacyAccounts } = migrated ∧
          migrated.accounts.get? "acc2" = some namelessAccount ∧
          ∀ later : Arrival, (report later migrated).total = 1 := by
  have clock : plainArrival.Running := fun _ => rfl
  have fresh : Fresh plainArrival legacyAccounts :=
    ⟨by decide +kernel, by decide +kernel, by decide +kernel⟩
  obtain ⟨_, _, again⟩ :=
    report_faithful_iff { accounts := legacyAccounts } plainArrival clock fresh
  have one : namelessPolicies legacyAccounts = 1 := by decide +kernel
  exact ⟨clock, fresh, _, rfl, by decide +kernel, fun later => (again later).1.trans one⟩

end FileEngine.Migration

end TenantStore
