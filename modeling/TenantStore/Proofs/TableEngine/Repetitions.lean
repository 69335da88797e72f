import Mathlib.Data.List.Dedup
import Mathlib.Data.List.Perm.Basic
import TenantStore.Proofs.TableEngine.Coherence
import TenantStore.Proofs.TableEngine.FilledAccounts

namespace TenantStore.TableEngine

/-!
# Repeated identifiers in one account

A table has one row for an identifier, whatever an account has under it. So an
account that was saved into an empty database is loaded with each identifier
of its own once (`ids_only_perm`), and it has as many parts as before exactly
if it repeats none of them (`partCounts_only_iff`).
-/

open Relational (Database)

/-! ## Each identifier once -/

theorem values_keyed_perm
    {name : α → String}
    {entities : List α}
    (distinct : (entities.map name).Nodup) :
    (keyed name entities).values.Perm entities := by
  have filed : (keyed name entities).FiledBy name :=
    fun _ _ found => ((get?_keyed_iff distinct).mp found).2
  have names : ((keyed name entities).values.map name).Nodup := by
    rw [filed.map_values_eq_keys]
    exact Dict.keys_nodup _
  exact (List.perm_ext_iff_of_nodup (names.of_map name) (distinct.of_map name)).mpr
    (fun _ => mem_values_keyed_iff distinct)

theorem Kind.key_bare (kind : Kind) (value : kind.Value) :
    kind.key (kind.bare value) = kind.key value := by
  cases kind <;> rfl

namespace Contents

variable {contents : Contents} {accountId : String} {account : Account}

/-- What different owners have differs in its identifiers. -/
theorem Coherent.flatMap_ownedKeys_nodup
    (coherent : contents.Coherent)
    {owners : List String}
    (distinct : owners.Nodup)
    (kind : Kind) :
    (owners.flatMap (contents.ownedKeys kind)).Nodup := by
  rw [List.nodup_flatMap]
  refine ⟨fun owner _ => ?_, distinct.imp ?_⟩
  · exact (List.filter_sublist.map Record.key).nodup (coherent.distinct kind)
  · intro left right apart id leftOwned rightOwned
    exact apart (coherent.owner_unique leftOwned rightOwned)

theorem Coherent.users_filed (coherent : contents.Coherent) (accountId : String) :
    (contents.users accountId).FiledBy User.id := by
  intro key user found
  obtain ⟨record, _, _, same, rfl⟩ := coherent.get?_users_eq_some_iff.mp found
  exact same

/-- The tokens of loaded users are those recorded for their identifiers. -/
theorem Coherent.tokenIds_perm (coherent : contents.Coherent) (accountId : String) :
    (((contents.users accountId).values.flatMap (fun user => user.tokens.values)).map
      AccessToken.id).Perm
        (((contents.users accountId).values.map User.id).flatMap
          (contents.ownedKeys .token)) := by
  rw [List.map_flatMap, List.flatMap_map]
  apply List.Perm.flatMap_left
  intro user member
  obtain ⟨key, found⟩ := Dict.mem_values_iff.mp member
  obtain ⟨record, _, _, rfl, rfl⟩ := coherent.get?_users_eq_some_iff.mp found
  have tokens := (values_keyed_perm (coherent.entities_nodup .token record.key)).map
    Kind.token.key
  rwa [keys_entities] at tokens

theorem policyIds_eq (contents : Contents) (accountId : String) :
    (contents.policies accountId).map Policy.id = contents.ownedKeys .policy accountId := by
  rw [policies, List.map_map, ← keys_entities]
  rfl

theorem ruleIds_eq (contents : Contents) (accountId : String) :
    ((contents.policies accountId).flatMap Policy.rules).map PolicyRule.id =
      (contents.ownedKeys .policy accountId).flatMap (contents.ownedKeys .rule) := by
  rw [flatMap_rules, List.map_flatMap]
  exact List.flatMap_congr (fun policy _ => keys_entities contents .rule policy)

/-- An account is loaded with no identifier twice. -/
theorem Coherent.ids_nodup
    (coherent : contents.Coherent)
    (found : contents.account? accountId = some account)
    (kind : Kind) :
    (idsOf kind account).Nodup := by
  obtain ⟨record, _, rfl⟩ := account?_eq_some_iff.mp found
  have whole {kind : Kind} {name : kind.Value → String}
      (distinct : ((contents.entities kind accountId).map name).Nodup) :
      ((keyed name (contents.entities kind accountId)).values.map kind.key).Nodup :=
    ((values_keyed_perm distinct).map kind.key).nodup_iff.mpr
      (coherent.entities_nodup kind accountId)
  have users : ((contents.users accountId).values.map User.id).Nodup := by
    rw [(coherent.users_filed accountId).map_values_eq_keys]
    exact Dict.keys_nodup _
  have owned : (contents.ownedKeys .policy accountId).Nodup := by
    rw [← keys_entities]
    exact coherent.entities_nodup .policy accountId
  have policies : ((contents.policies accountId).map Policy.id).Nodup := by
    rwa [policyIds_eq]
  have rules : (((contents.policies accountId).flatMap Policy.rules).map
      PolicyRule.id).Nodup := by
    rw [ruleIds_eq]
    exact coherent.flatMap_ownedKeys_nodup owned .rule
  cases kind with
  | account => exact List.nodup_singleton _
  | setupKey => exact whole (coherent.setupKeys_nodup accountId)
  | peer => exact whole (coherent.entities_nodup .peer accountId)
  | user => exact users
  | token =>
      exact (coherent.tokenIds_perm accountId).nodup_iff.mpr
        (coherent.flatMap_ownedKeys_nodup users .token)
  | group => exact whole (coherent.entities_nodup .group accountId)
  | policy => exact policies
  | rule => exact rules
  | route => exact whole (coherent.entities_nodup .route accountId)
  | nameServerGroup => exact whole (coherent.entities_nodup .nameServerGroup accountId)

theorem Coherent.mem_ids_iff
    (coherent : contents.Coherent)
    (found : contents.account? accountId = some account)
    {kind : Kind}
    {id : String} :
    id ∈ idsOf kind account ↔
      ∃ record ∈ contents kind, contents.Belongs accountId record ∧ record.key = id := by
  have bare : idsOf kind account =
      ((entitiesOf kind account).map kind.bare).map kind.key := by
    rw [idsOf, List.map_map]
    exact List.map_congr_left (fun value _ => (kind.key_bare value).symm)
  rw [bare, List.mem_map]
  simp only [coherent.mem_bare_iff found kind]
  constructor
  · rintro ⟨_, ⟨record, member, belongs, rfl⟩, rfl⟩
    exact ⟨record, member, belongs, (kind.key_kept record.owner record.value).symm⟩
  · rintro ⟨record, member, belongs, rfl⟩
    exact ⟨_, ⟨record, member, belongs, rfl⟩, kind.key_kept record.owner record.value⟩

/-- Without accounts there is nothing. -/
theorem Coherent.eq_nothing (coherent : contents.Coherent) (none : contents .account = []) :
    contents = fun _ => [] := by
  funext kind
  rw [List.eq_nil_iff_forall_not_mem]
  intro record member
  obtain ⟨holder, holderMember, _⟩ := coherent.exists_account kind record member
  rw [none] at holderMember
  cases holderMember

end Contents

/-! ## One account alone -/

/-- The contents that one account is written to. -/
def Contents.only (account : Account) : Contents :=
  Contents.over (fun _ => []) account

section Only

variable {account loaded : Account} {kind : Kind}

theorem coherent_only (normal : account.IsNormal) : (Contents.only account).Coherent :=
  Contents.Coherent.empty.put_over normal
    ⟨fun _ member => absurd member List.not_mem_nil,
      fun _ _ _ _ member => absurd member List.not_mem_nil⟩

theorem mem_keys_only_iff {id : String} :
    id ∈ (Contents.only account kind).map Record.key ↔ id ∈ idsOf kind account := by
  rw [Contents.only, Contents.over, putAll_apply, filterMap_accountEntries,
    mem_keys_foldl_putRecord_iff, keys_recordsOf]
  simp

theorem belongs_only
    (normal : account.IsNormal)
    {record : Record kind}
    (member : record ∈ Contents.only account kind) :
    (Contents.only account).Belongs account.id record := by
  obtain ⟨holder, holderMember, belongs⟩ :=
    (coherent_only normal).exists_account kind record member
  have listed : holder.key ∈ idsOf .account account :=
    mem_keys_only_iff.mp (List.mem_map_of_mem holderMember)
  rwa [List.mem_singleton.mp listed] at belongs

theorem exists_account?_only (normal : account.IsNormal) :
    ∃ loaded, (Contents.only account).account? account.id = some loaded := by
  have listed : account.id ∈ idsOf .account account := List.mem_singleton_self _
  obtain ⟨record, member, same⟩ := List.mem_map.mp (mem_keys_only_iff.mpr listed)
  rw [← same]
  exact (coherent_only normal).account?_of_mem member

/-- An account is loaded with each of its identifiers once. -/
theorem ids_only_perm
    (normal : account.IsNormal)
    (found : (Contents.only account).account? account.id = some loaded)
    (kind : Kind) :
    (idsOf kind loaded).Perm (idsOf kind account).dedup := by
  have coherent := coherent_only normal
  refine (List.perm_ext_iff_of_nodup (coherent.ids_nodup found kind)
    (List.nodup_dedup _)).mpr ?_
  intro id
  rw [List.mem_dedup, coherent.mem_ids_iff found, ← mem_keys_only_iff, List.mem_map]
  constructor
  · rintro ⟨record, member, _, same⟩
    exact ⟨record, member, same⟩
  · rintro ⟨record, member, same⟩
    exact ⟨record, member, belongs_only normal member, same⟩

/-- An account that repeats no identifier is loaded with every rule in its policy. -/
theorem account?_only
    (normal : account.IsNormal)
    (distinct : PartsDistinct account) :
    (Contents.only account).account? account.id = some (withRulesFiled account) := by
  have keys := distinct.distinctKeys normal
  have alone : Contents.only account = contentsOf [account] :=
    @putAll_contentsOf [] account keys
  rw [alone]
  exact account?_contentsOf_eq keys List.mem_cons_self normal

end Only

/-! ## Numbers of parts -/

/-- How many parts an account has. -/
structure PartCounts where
  setupKeys : Nat
  peers : Nat
  users : Nat
  groups : Nat
  routes : Nat
  nameServerGroups : Nat
  policies : Nat
  /-- The number of tokens of each user. -/
  tokens : Dict Nat
  /-- The number of rules of the policy at each position. -/
  rules : List Nat
  deriving DecidableEq

/-- How many entities an account holds, by the part that they are in. -/
def partCounts (account : Account) : PartCounts where
  setupKeys := account.setupKeys.size
  peers := account.peers.size
  users := account.users.size
  groups := account.groups.size
  routes := account.routes.size
  nameServerGroups := account.nameServerGroups.size
  policies := account.policies.length
  tokens := account.users.mapValues (fun _ user => user.tokens.size)
  rules := account.policies.map (fun policy => policy.rules.length)

section Counts

variable {account left right loaded : Account}

theorem partCounts_normalized (account : Account) :
    partCounts account.normalized = partCounts account := by
  have size : ∀ {β γ : Type} (dict : Dict β) (change : String → β → γ),
      (dict.mapValues change).size = dict.size := fun _ _ => List.length_map _
  simp only [partCounts, Account.normalized, size, Dict.mapValues_mapValues,
    Account.normalizeUser]

theorem partCounts_withRulesFiled (account : Account) :
    partCounts (withRulesFiled account) = partCounts account := by
  simp [partCounts, withRulesFiled, fileRules]

/-- Accounts with as many parts have as many of each kind. -/
theorem length_ids_of_partCounts
    (same : partCounts left = partCounts right)
    (kind : Kind) :
    (idsOf kind left).length = (idsOf kind right).length := by
  have sized : ∀ {β : Type} (dict : Dict β), dict.values.length = dict.size :=
    fun _ => List.length_map _
  have tokens : ∀ account : Account, (entitiesOf .token account).length =
      (partCounts account).tokens.values.sum := by
    intro account
    rw [entitiesOf, List.length_flatMap, partCounts, Dict.values_mapValues]
    simp only [sized]
  have rules : ∀ account : Account, (entitiesOf .rule account).length =
      (partCounts account).rules.sum :=
    fun account => List.length_flatMap
  have collection : ∀ {β : Type} {first second : Dict β}, first.size = second.size →
      first.values.length = second.values.length := by
    intro β first second same
    rw [sized, sized, same]
  rw [idsOf, idsOf, List.length_map, List.length_map]
  cases kind with
  | account => rfl
  | token => rw [tokens, tokens, same]
  | rule => rw [rules, rules, same]
  | policy => exact congrArg PartCounts.policies same
  | setupKey => exact collection (congrArg PartCounts.setupKeys same)
  | peer => exact collection (congrArg PartCounts.peers same)
  | user => exact collection (congrArg PartCounts.users same)
  | group => exact collection (congrArg PartCounts.groups same)
  | route => exact collection (congrArg PartCounts.routes same)
  | nameServerGroup =>
      exact collection (congrArg PartCounts.nameServerGroups same)

/-- An account is loaded with as many parts exactly if it repeats no identifier. -/
theorem partCounts_only_iff
    (normal : account.IsNormal)
    (found : (Contents.only account).account? account.id = some loaded) :
    partCounts loaded = partCounts account ↔ PartsDistinct account := by
  constructor
  · intro same kind _
    have length : (idsOf kind account).dedup.length = (idsOf kind account).length := by
      rw [← (ids_only_perm normal found kind).length_eq]
      exact length_ids_of_partCounts same kind
    exact List.dedup_eq_self.mp ((List.dedup_sublist _).eq_of_length length)
  · intro distinct
    rw [account?_only normal distinct, Option.some.injEq] at found
    rw [← found]
    exact partCounts_withRulesFiled account

end Counts

/-! ## Saving into an empty database -/

/-- A database lists no accounts exactly if there is nothing in it. -/
theorem Represents.all_eq_nil_iff
    {db : Database}
    {contents : Contents}
    {installation : Option String}
    (represents : Represents db contents installation)
    (coherent : contents.Coherent) :
    (TableEngine.perform db .all).outcome = .ok (.accounts []) ↔
      contents = fun _ => [] := by
  obtain ⟨accounts, loaded, ids, _⟩ := represents.loadAll_ok
  have answer : (TableEngine.perform db .all).outcome = .ok (.accounts accounts) := by
    change ((loadAll db).map _ : Outcome) = _
    rw [loaded]
    rfl
  have length : accounts.length = (contents .account).length := by
    rw [← List.length_map Account.id, ids, (List.mergeSort_perm _ _).length_eq,
      List.length_map]
  rw [answer]
  constructor
  · intro none
    cases none
    exact coherent.eq_nothing (List.length_eq_zero_iff.mp length.symm)
  · rintro rfl
    rw [List.length_eq_zero_iff.mp length]

/--
An account that was saved into an empty database can be loaded. It has each of
its identifiers once, so it has as many parts as it was saved with exactly if
it repeated none, and it is loaded as it was saved then, in normal form and
with every rule in its policy.
-/
theorem save_keeps_all_iff
    {db : Database}
    (used : Used db)
    (empty : (perform db .all).outcome = .ok (.accounts []))
    {account : Account}
    (saved : (perform db (.save account)).outcome = .ok .done) :
    ∃ loaded,
      (perform (perform db (.save account)).db (.get account.id)).outcome =
        .ok (.account loaded) ∧
      (∀ kind, (idsOf kind loaded).Perm (idsOf kind account.normalized).dedup) ∧
      (partCounts loaded = partCounts account ↔ PartsDistinct account.normalized) ∧
      (PartsDistinct account.normalized → loaded = withRulesFiled account.normalized) := by
  obtain ⟨contents, installation, coherent, represents⟩ := used.coherent
  obtain rfl := (represents.all_eq_nil_iff coherent).mp empty
  have normal := account.isNormal_normalized
  obtain ⟨loaded, found⟩ := exists_account?_only normal
  refine ⟨loaded, ?_, ids_only_perm normal found, ?_, ?_⟩
  · have dropped : Contents.drop (fun _ => []) account.id = fun _ => [] := by
      funext kind
      rw [drop_apply]
      rfl
    rw [get_eq_ok_iff (represents.of_saveAccount (saved_eq saved).2), dropped]
    exact found
  · rw [← partCounts_normalized account]
    exact partCounts_only_iff normal found
  · intro distinct
    rw [account?_only normal distinct, Option.some.injEq] at found
    exact found.symm

/-- A policy with two rules that have no identifiers yet. -/
def unnamedRules : Account where
  id := "a"
  policies := [{ id := "P", rules := [{ name := "x" }, { name := "y" }] }]

/-- One of the two rules is lost. -/
theorem save_keeps_all_iff_unnamed :
    Used (upkeep .empty ⟨0⟩).db ∧
      (perform (upkeep .empty ⟨0⟩).db .all).outcome = .ok (.accounts []) ∧
      (perform (upkeep .empty ⟨0⟩).db (.save unnamedRules)).outcome = .ok .done ∧
      ∃ loaded,
        (perform (perform (upkeep .empty ⟨0⟩).db (.save unnamedRules)).db
          (.get "a")).outcome = .ok (.account loaded) ∧
        partCounts loaded ≠ partCounts unnamedRules := by
  have used : Used (upkeep .empty ⟨0⟩).db := ⟨⟨0⟩, [], by rw [performAll, List.foldl_nil]⟩
  have represents : Represents (upkeep .empty ⟨0⟩).db (fun _ => []) none :=
    (upkeep_empty ⟨0⟩).2 ▸ newDatabase_represents ⟨0⟩
  have empty : (perform (upkeep .empty ⟨0⟩).db .all).outcome = .ok (.accounts []) :=
    (represents.all_eq_nil_iff .empty).mpr rfl
  have fits : Fits unnamedRules := ⟨rfl, fun kind => by cases kind <;> decide, by decide⟩
  have saved := represents.perform_save_outcome fits
  obtain ⟨loaded, found, _, counts, _⟩ := save_keeps_all_iff used empty saved
  refine ⟨used, empty, saved, loaded, found, ?_⟩
  rw [ne_eq, counts]
  decide +kernel

end TenantStore.TableEngine
