import TenantStore.Proofs.TableEngine.Histories
import TenantStore.Proofs.TableEngine.Overlay
import TenantStore.Proofs.TableEngine.Reassembly

namespace TenantStore.TableEngine

/-!
# What a saved account is loaded as

Saving an account drops the rows that were its own and then puts its records
over those of other accounts. An old row of equal identifier changes its owner,
but not its place, and what hangs below it stays. So the account is loaded
again exactly as it was saved if what remains leaves room for it
(`LeavesRoom`): no token of a user and no rule of a policy stays that the
account does not have itself, and policies and rules that were there before
come first in it. `get_saved_iff` says that in any database that was ever used.
-/

open Relational (Cell Row Table Database)

/-! ## Accounts without repeated identifiers -/

/-- No two of the parts that are not filed under their identifiers share one. -/
def PartsDistinct (account : Account) : Prop :=
  ∀ kind ∈ [Kind.setupKey, .token, .policy, .rule],
    ((entitiesOf kind account).map kind.key).Nodup

instance (account : Account) : Decidable (PartsDistinct account) :=
  inferInstanceAs (Decidable (∀ kind ∈ [Kind.setupKey, .token, .policy, .rule], _))

/-- What is filed under its identifiers has distinct ones. -/
theorem PartsDistinct.distinctKeys
    {account : Account}
    (distinct : PartsDistinct account)
    (normal : account.IsNormal) :
    DistinctKeys [account] := by
  have filed : ∀ {β : Type} {name : β → String} {dict : Dict β}, dict.FiledBy name →
      (dict.values.map name).Nodup := by
    intro β name dict filed
    rw [filed.map_values_eq_keys]
    exact dict.keys_nodup
  have one : ∀ kind : Kind, ((entitiesOf kind account).map kind.key).Nodup →
      ([account].flatMap (fun account => (entitiesOf kind account).map kind.key)).Nodup := by
    intro kind nodup
    rwa [List.flatMap_cons, List.flatMap_nil, List.append_nil]
  intro kind
  refine one kind ?_
  cases kind with
  | account => exact List.nodup_singleton _
  | setupKey => exact distinct .setupKey (by decide)
  | peer => exact filed normal.peers_filed
  | user => exact filed normal.users_filed
  | token => exact distinct .token (by decide)
  | group => exact filed normal.groups_filed
  | policy => exact distinct .policy (by decide)
  | rule => exact distinct .rule (by decide)
  | route => exact filed normal.routes_filed
  | nameServerGroup => exact filed normal.nameServerGroups_filed

theorem DistinctKeys.recordsOf_keys
    {account : Account}
    (distinct : DistinctKeys [account])
    (kind : Kind) :
    ((recordsOf account kind).map Record.key).Nodup := by
  have keys := distinct kind
  rw [← keys_contentsOf, contentsOf, List.flatMap_cons, List.flatMap_nil,
    List.append_nil] at keys
  exact keys

/-! ## Records over others -/

/-- Contents with the records of an account put over what is there. -/
def Contents.over (remaining : Contents) (account : Account) : Contents :=
  remaining.putAll (accountEntries account)

/-- Contents in which an account owns nothing. -/
structure Vacated (remaining : Contents) (id : String) : Prop where
  account : ∀ record ∈ remaining .account, record.key ≠ id
  owned : ∀ kind : Kind, kind.ownerColumn = "account_id" → kind ≠ .account →
    ∀ record ∈ remaining kind, record.owner ≠ id

theorem vacated_drop (contents : Contents) (id : String) :
    Vacated (contents.drop id) id where
  account record member := by simpa using (List.mem_filter.mp member).2
  owned kind column owned record member := by
    have plain : ∀ {kind : Kind} {record : Record kind},
        record ∈ (contents kind).filter (fun record => record.owner ≠ id) →
          record.owner ≠ id := by
      intro kind record member
      simpa using (List.mem_filter.mp member).2
    cases kind with
    | account => exact absurd rfl owned
    | token => exact absurd column (by decide)
    | rule => exact absurd column (by decide)
    | _ => exact plain member

section Over

variable {remaining : Contents} {account : Account} {kind : Kind}

theorem over_eq (distinct : DistinctKeys [account]) (kind : Kind) :
    remaining.over account kind =
      (remaining kind).map (renewed (recordsOf account kind))
        ++ unseen (remaining kind) (recordsOf account kind) := by
  rw [Contents.over, putAll_apply, filterMap_accountEntries,
    foldl_putRecord_eq (distinct.recordsOf_keys kind)]

theorem mem_over_iff (distinct : DistinctKeys [account]) {record : Record kind} :
    record ∈ remaining.over account kind ↔
      record ∈ recordsOf account kind ∨
        record ∈ remaining kind ∧
          record.key ∉ (recordsOf account kind).map Record.key := by
  rw [over_eq distinct]
  exact mem_overlay_iff (distinct.recordsOf_keys kind)

/-- What the account owns directly are its own records. -/
theorem mem_owned_over_iff
    (distinct : DistinctKeys [account])
    (vacated : Vacated remaining account.id)
    (column : kind.ownerColumn = "account_id")
    (owned : kind ≠ .account)
    {record : Record kind} :
    record ∈ (remaining.over account).owned kind account.id ↔
      record ∈ recordsOf account kind := by
  rw [Contents.owned, List.mem_filter, mem_over_iff distinct, decide_eq_true_eq]
  constructor
  · rintro ⟨here | ⟨before, _⟩, same⟩
    · exact here
    · exact absurd same (vacated.owned kind column owned record before)
  · intro here
    exact ⟨.inl here, owner_of_mem column owned here⟩

/-- A collection whose rows keep whole entities is made again from them. -/
theorem keyed_over
    (distinct : DistinctKeys [account])
    (vacated : Vacated remaining account.id)
    (column : kind.ownerColumn = "account_id")
    (owned : kind ≠ .account)
    {dict : Dict kind.Value}
    (records : recordsOf account kind = dict.values.map (Record.mk account.id))
    (whole : ∀ owner value, kind.kept owner value = value)
    {name : kind.Value → String}
    (filed : dict.FiledBy name) :
    keyed name ((remaining.over account).entities kind account.id) = dict := by
  refine filed.ofList_eq ?_
  intro value
  rw [Contents.entities, List.mem_map]
  simp only [mem_owned_over_iff distinct vacated column owned, records, List.mem_map]
  constructor
  · rintro ⟨record, ⟨other, member, rfl⟩, rfl⟩
    show kind.kept account.id other ∈ dict.values
    rwa [whole]
  · intro member
    exact ⟨_, ⟨value, member, rfl⟩, whole account.id value⟩

/-! ### Users and tokens -/

theorem mem_ownedUsers_over_iff
    (distinct : DistinctKeys [account])
    (vacated : Vacated remaining account.id)
    {record : Record .user} :
    record ∈ (remaining.over account).owned .user account.id ↔
      record ∈ recordsOf account .user :=
  mem_owned_over_iff distinct vacated rfl (by decide)

theorem mem_ownedKeys_over_iff
    (distinct : DistinctKeys [account])
    (vacated : Vacated remaining account.id)
    {id : String} :
    id ∈ (remaining.over account).ownedKeys .user account.id ↔
      ∃ user ∈ account.users.values, user.id = id := by
  rw [Contents.ownedKeys, List.mem_map]
  simp only [mem_ownedUsers_over_iff distinct vacated]
  constructor
  · rintro ⟨record, member, rfl⟩
    obtain ⟨user, userMember, rfl⟩ := List.mem_map.mp member
    exact ⟨user, userMember, rfl⟩
  · rintro ⟨user, member, rfl⟩
    exact ⟨⟨account.id, user⟩, List.mem_map.mpr ⟨user, member, rfl⟩, rfl⟩

/-- The users are there, for now without tokens. -/
theorem bareUsers_over
    (distinct : DistinctKeys [account])
    (normal : account.IsNormal)
    (vacated : Vacated remaining account.id) :
    keyed User.id ((remaining.over account).entities .user account.id) =
      account.users.mapValues (fun _ => bareUser) := by
  refine (bareUsers_filed normal).ofList_eq ?_
  intro user
  rw [Contents.entities, List.mem_map, values_bareUsers, List.mem_map]
  simp only [mem_ownedUsers_over_iff distinct vacated]
  constructor
  · rintro ⟨record, member, rfl⟩
    obtain ⟨other, otherMember, rfl⟩ := List.mem_map.mp member
    exact ⟨other, otherMember, rfl⟩
  · rintro ⟨other, member, rfl⟩
    exact ⟨⟨account.id, other⟩, List.mem_map.mpr ⟨other, member, rfl⟩, rfl⟩

/-- The tokens that an account's user is given are those recorded for it. -/
theorem mem_tokensBelow_over_iff
    (distinct : DistinctKeys [account])
    (vacated : Vacated remaining account.id)
    {user : User}
    (userMember : user ∈ account.users.values)
    {token : AccessToken} :
    token ∈ ((remaining.over account).tokensBelow account.id).filter
        (fun token => token.userId = user.id) ↔
      ∃ record ∈ remaining.over account .token,
        record.owner = user.id ∧ record.kept = token := by
  rw [List.mem_filter, Contents.tokensBelow, List.mem_map, decide_eq_true_eq]
  constructor
  · rintro ⟨⟨record, member, rfl⟩, same⟩
    exact ⟨record, List.mem_of_mem_filter member, same, rfl⟩
  · rintro ⟨record, member, owned, rfl⟩
    refine ⟨⟨record, List.mem_filter.mpr ⟨member, ?_⟩, rfl⟩, owned⟩
    rw [decide_eq_true_eq, mem_ownedKeys_over_iff distinct vacated]
    exact ⟨user, userMember, owned.symm⟩

/-- The records of a user's tokens. -/
theorem mem_tokenRecords_iff
    (distinct : DistinctKeys [account])
    {user : User}
    (userMember : user ∈ account.users.values)
    {record : Record .token} :
    record ∈ recordsOf account .token ∧ record.owner = user.id ↔
      ∃ token ∈ user.tokens.values, record = Record.mk user.id token := by
  have ids : (account.users.values.map User.id).Nodup := by
    have keys := distinct .user
    rwa [List.flatMap_cons, List.flatMap_nil, List.append_nil] at keys
  constructor
  · rintro ⟨member, owned⟩
    obtain ⟨other, otherMember, inner⟩ := List.mem_flatMap.mp member
    obtain ⟨token, tokenMember, rfl⟩ := List.mem_map.mp inner
    have same : other = user := List.inj_on_of_nodup_map ids otherMember userMember owned
    exact ⟨token, same ▸ tokenMember, by rw [same]⟩
  · rintro ⟨token, member, rfl⟩
    exact ⟨List.mem_flatMap.mpr ⟨user, userMember, List.mem_map.mpr ⟨token, member, rfl⟩⟩,
      rfl⟩

/-- What is loaded as the tokens of a user. -/
def Contents.tokensOf (contents : Contents) (accountId userId : String) :
    Dict AccessToken :=
  .ofList (((contents.tokensBelow accountId).filter
    (fun token => token.userId = userId)).map (fun token => (token.id, token)))

/-- A user gets exactly its own tokens if every old token of its own is replaced. -/
theorem tokensOf_over_iff
    (distinct : DistinctKeys [account])
    (normal : account.IsNormal)
    (vacated : Vacated remaining account.id)
    {id : String}
    {user : User}
    (found : account.users.get? id = some user) :
    (remaining.over account).tokensOf account.id user.id = user.tokens ↔
      AllReplaced (remaining .token) (recordsOf account .token) user.id := by
  have userMember : user ∈ account.users.values := Dict.mem_values_iff.mpr ⟨id, found⟩
  have filed := normal.tokens_filed found
  constructor
  · intro same record before owned
    by_contra unknown
    have given : record.kept ∈ ((remaining.over account).tokensBelow account.id).filter
        (fun token => token.userId = user.id) :=
      (mem_tokensBelow_over_iff distinct vacated userMember).mpr
        ⟨record, (mem_over_iff distinct).mpr (.inr ⟨before, unknown⟩), owned, rfl⟩
    rcases Dict.get?_foldl_insert_cases
        ((((remaining.over account).tokensBelow account.id).filter
          (fun token => token.userId = user.id)).map (fun token => (token.id, token)))
        .empty record.key with
      ⟨token, _, held⟩ | ⟨absent, _⟩
    · have stored : user.tokens.get? record.key = some token := same ▸ held
      have own : Record.mk user.id token ∈ recordsOf account .token :=
        ((mem_tokenRecords_iff distinct userMember).mpr
          ⟨token, Dict.mem_values_iff.mpr ⟨_, stored⟩, rfl⟩).1
      exact unknown (List.mem_map.mpr ⟨_, own, filed record.key token stored⟩)
    · exact absent record.kept (List.mem_map.mpr ⟨record.kept, given, rfl⟩)
  · intro replaced
    refine filed.ofList_eq ?_
    intro token
    rw [mem_tokensBelow_over_iff distinct vacated userMember]
    constructor
    · rintro ⟨record, member, owned, rfl⟩
      have own : record ∈ recordsOf account .token := by
        rcases (mem_over_iff distinct).mp member with here | ⟨before, unknown⟩
        · exact here
        · exact absurd (replaced record before owned) unknown
      obtain ⟨held, heldMember, rfl⟩ :=
        (mem_tokenRecords_iff distinct userMember).mp ⟨own, owned⟩
      obtain ⟨slot, heldFound⟩ := Dict.mem_values_iff.mp heldMember
      show { held with userId := user.id } ∈ user.tokens.values
      rwa [← normal.token_userId found heldFound]
    · intro member
      obtain ⟨slot, heldFound⟩ := Dict.mem_values_iff.mp member
      refine ⟨Record.mk user.id token, (mem_over_iff distinct).mpr (.inl ?_), rfl, ?_⟩
      · exact ((mem_tokenRecords_iff distinct userMember).mpr ⟨token, member, rfl⟩).1
      · show { token with userId := user.id } = token
        rw [← normal.token_userId found heldFound]

theorem users_over_iff
    (distinct : DistinctKeys [account])
    (normal : account.IsNormal)
    (vacated : Vacated remaining account.id) :
    (remaining.over account).users account.id = account.users ↔
      ∀ user ∈ account.users.values,
        AllReplaced (remaining .token) (recordsOf account .token) user.id := by
  have loaded : ∀ id, ((remaining.over account).users account.id).get? id =
      (account.users.get? id).map (fun user =>
        { user with tokens := (remaining.over account).tokensOf account.id id }) := by
    intro id
    rw [Contents.users, bareUsers_over distinct normal vacated, get?_foldl_giveToken,
      Dict.get?_mapValues, Option.map_map]
    congr 1
    funext user
    rw [Function.comp, foldl_addToken]
    rfl
  constructor
  · intro same user member
    obtain ⟨id, found⟩ := Dict.mem_values_iff.mp member
    have here := loaded id
    rw [same, found, Option.map_some, Option.some.injEq, ← normal.user_id found] at here
    exact (tokensOf_over_iff distinct normal vacated found).mp
      (congrArg User.tokens here).symm
  · intro replaced
    apply Dict.ext_get?
    intro id
    rw [loaded]
    cases found : account.users.get? id with
    | none => rfl
    | some user =>
        have tokens := (tokensOf_over_iff distinct normal vacated found).mpr
          (replaced user (Dict.mem_values_iff.mpr ⟨id, found⟩))
        rw [normal.user_id found] at tokens
        rw [Option.map_some, tokens]

/-! ### Policies and rules -/

theorem ownedIn_policyRecords (account : Account) :
    ownedIn (recordsOf account .policy) account.id = recordsOf account .policy := by
  rw [ownedIn, List.filter_eq_self]
  intro record member
  exact decide_eq_true (owner_of_mem rfl (by decide) member)

/-- The records of a policy's rules. -/
theorem ownedIn_ruleRecords
    (distinct : DistinctKeys [account])
    {policy : Policy}
    (member : policy ∈ account.policies) :
    ownedIn (recordsOf account .rule) policy.id =
      policy.rules.map (@Record.mk .rule policy.id) := by
  have ids : (account.policies.map Policy.id).Nodup := by
    have keys := distinct .policy
    rwa [List.flatMap_cons, List.flatMap_nil, List.append_nil] at keys
  exact @filter_recordsBelow _ .rule _ _ ids _ member Policy.rules

/-- Nothing stays below a policy, and the rules that were there come first in it. -/
structure RulesFit (remaining : Contents) (account : Account) (policy : Policy) :
    Prop where
  replaced : AllReplaced (remaining .rule) (recordsOf account .rule) policy.id
  inOrder : ((remaining .rule).map Record.key).filter
    (· ∈ policy.rules.map PolicyRule.id) <+: policy.rules.map PolicyRule.id

/-- A policy gets its own rules in their order exactly if they fit. -/
theorem rules_over_iff
    (distinct : DistinctKeys [account])
    (rulesFiled : RulesFiled account)
    {policy : Policy}
    (member : policy ∈ account.policies) :
    (remaining.over account).entities .rule policy.id = policy.rules ↔
      RulesFit remaining account policy := by
  have nodup := distinct.recordsOf_keys .rule
  have own := ownedIn_ruleRecords distinct member
  have ownKeys : (ownedIn (recordsOf account .rule) policy.id).map Record.key =
      policy.rules.map PolicyRule.id := by
    rw [own, List.map_map]
    rfl
  have overlay : (remaining.over account).owned .rule policy.id =
      ownedIn ((remaining .rule).map (renewed (recordsOf account .rule))
        ++ unseen (remaining .rule) (recordsOf account .rule)) policy.id := by
    rw [Contents.owned, over_eq distinct, ownedIn]
  have keys_iff := @keys_ownedIn_overlay_iff .rule (remaining .rule) _ nodup policy.id
  rw [ownKeys] at keys_iff
  constructor
  · intro same
    have keys := congrArg (List.map PolicyRule.id) same
    rw [Contents.entities, List.map_map, overlay] at keys
    obtain ⟨replaced, inOrder⟩ := keys_iff.mp keys
    exact ⟨replaced, inOrder⟩
  · rintro ⟨replaced, inOrder⟩
    have keys := keys_iff.mpr ⟨replaced, inOrder⟩
    rw [Contents.entities, overlay, ownedIn_overlay_eq nodup (keys.trans ownKeys.symm), own,
      List.map_map]
    refine Eq.trans (List.map_congr_left ?_) (List.map_id _)
    intro rule ruleMember
    show { rule with policyId := policy.id } = rule
    rw [← rulesFiled policy member rule ruleMember]

/-- Policies are loaded as they were saved exactly if they and their rules fit. -/
theorem policies_over_iff
    (distinct : DistinctKeys [account])
    (rulesFiled : RulesFiled account)
    (vacated : Vacated remaining account.id) :
    (remaining.over account).policies account.id = account.policies ↔
      ((remaining .policy).map Record.key).filter
          (· ∈ account.policies.map Policy.id) <+: account.policies.map Policy.id ∧
        ∀ policy ∈ account.policies, RulesFit remaining account policy := by
  have nodup := distinct.recordsOf_keys .policy
  have own := ownedIn_policyRecords account
  have ownKeys : (ownedIn (recordsOf account .policy) account.id).map Record.key =
      account.policies.map Policy.id := by
    rw [own, recordsOf, List.map_map]
    rfl
  have overlay : (remaining.over account).owned .policy account.id =
      ownedIn ((remaining .policy).map (renewed (recordsOf account .policy))
        ++ unseen (remaining .policy) (recordsOf account .policy)) account.id := by
    rw [Contents.owned, over_eq distinct, ownedIn]
  have keys_iff := @keys_ownedIn_overlay_iff .policy (remaining .policy) _ nodup account.id
  rw [ownKeys] at keys_iff
  have nothing : AllReplaced (remaining .policy) (recordsOf account .policy) account.id :=
    fun record before owned =>
      absurd owned (vacated.owned .policy rfl (by decide) record before)
  -- Once the policies stand in their order, only their rules are left to compare.
  have loaded : ((remaining.over account).owned .policy account.id).map Record.key =
        account.policies.map Policy.id →
      (remaining.over account).policies account.id =
        account.policies.map (fun policy =>
          { policy with rules := (remaining.over account).entities .rule policy.id }) := by
    intro keys
    rw [overlay] at keys
    rw [Contents.policies, Contents.entities, overlay,
      ownedIn_overlay_eq nodup (keys.trans ownKeys.symm), own, recordsOf, List.map_map,
      List.map_map]
    rfl
  have rulesSame : account.policies.map (fun policy =>
        { policy with rules := (remaining.over account).entities .rule policy.id }) =
          account.policies ↔
      ∀ policy ∈ account.policies, RulesFit remaining account policy := by
    conv_lhs => rw [← List.map_id account.policies, List.map_map]
    rw [List.map_inj_left]
    refine forall₂_congr ?_
    intro policy member
    rw [← rules_over_iff distinct rulesFiled member]
    exact ⟨congrArg Policy.rules, fun same => by simp [same]⟩
  constructor
  · intro same
    have keys : ((remaining.over account).owned .policy account.id).map Record.key =
        account.policies.map Policy.id := by
      have ids := congrArg (List.map Policy.id) same
      rw [Contents.policies, Contents.entities, List.map_map, List.map_map] at ids
      exact ids
    rw [loaded keys] at same
    rw [overlay] at keys
    exact ⟨(keys_iff.mp keys).2, rulesSame.mp same⟩
  · rintro ⟨inOrder, fit⟩
    have keys := keys_iff.mpr ⟨nothing, inOrder⟩
    rw [← overlay] at keys
    rw [loaded keys]
    exact rulesSame.mpr fit

/-! ### Accounts -/

/-- All but the users and policies of an account is loaded as it was saved. -/
theorem account?_over
    (distinct : DistinctKeys [account])
    (normal : account.IsNormal)
    (vacated : Vacated remaining account.id) :
    (remaining.over account).account? account.id = some { account with
      users := (remaining.over account).users account.id
      policies := (remaining.over account).policies account.id } := by
  have found : (remaining.over account .account).find? (fun record =>
      record.key = account.id) = some ⟨"", account⟩ := by
    have here : (⟨"", account⟩ : Record .account) ∈ remaining.over account .account :=
      (mem_over_iff distinct).mpr (.inl (List.mem_singleton.mpr rfl))
    cases search : (remaining.over account .account).find? (fun record =>
        record.key = account.id) with
    | none => exact absurd (decide_eq_true rfl) (List.find?_eq_none.mp search _ here)
    | some record =>
        have same : record.key = account.id := by simpa using List.find?_some search
        rcases (mem_over_iff distinct).mp (List.mem_of_find?_eq_some search) with
          own | ⟨before, _⟩
        · rw [List.mem_singleton.mp own]
        · exact absurd same (vacated.account record before)
  have setupKeys := @keyed_over _ _ .setupKey distinct vacated rfl (by decide) _ rfl
    (fun _ _ => rfl) _ normal.setupKeys_filed
  have peers := @keyed_over _ _ .peer distinct vacated rfl (by decide) _ rfl
    (fun _ _ => rfl) _ normal.peers_filed
  have groups := @keyed_over _ _ .group distinct vacated rfl (by decide) _ rfl
    (fun _ _ => rfl) _ normal.groups_filed
  have routes := @keyed_over _ _ .route distinct vacated rfl (by decide) _ rfl
    (fun _ _ => rfl) _ normal.routes_filed
  have nameServerGroups := @keyed_over _ _ .nameServerGroup distinct vacated rfl
    (by decide) _ rfl (fun _ _ => rfl) _ normal.nameServerGroups_filed
  rw [Contents.account?, found, Option.map_some, setupKeys, peers, groups, routes,
    nameServerGroups]
  rfl

/-- An account is loaded as it was saved exactly if its parts fit. -/
theorem account?_over_iff
    (distinct : DistinctKeys [account])
    (normal : account.IsNormal)
    (rulesFiled : RulesFiled account)
    (vacated : Vacated remaining account.id) :
    (remaining.over account).account? account.id = some account ↔
      (∀ user ∈ account.users.values,
        AllReplaced (remaining .token) (recordsOf account .token) user.id) ∧
      ((remaining .policy).map Record.key).filter
          (· ∈ account.policies.map Policy.id) <+: account.policies.map Policy.id ∧
        ∀ policy ∈ account.policies, RulesFit remaining account policy := by
  rw [account?_over distinct normal vacated, Option.some.injEq,
    ← users_over_iff distinct normal vacated,
    ← policies_over_iff distinct rulesFiled vacated]
  constructor
  · intro same
    exact ⟨congrArg Account.users same, congrArg Account.policies same⟩
  · rintro ⟨users, policies⟩
    rw [users, policies]

end Over

/-! ## Room in a database -/

/-- The rows of a table. -/
def rowsOf (db : Database) (name : String) : List Row :=
  match db.tables.get? name with
  | some table => table.rows
  | none => []

/-- The identifiers in rows. -/
def rowIds (rows : List Row) : List String :=
  rows.filterMap (fun row => (row.cell "id").text?)

/-- What remains in a database does not get in the way of an account. -/
structure LeavesRoom (remaining : Database) (account : Account) : Prop where
  /-- A token that names a user of the account is one of its own tokens. -/
  tokens : ∀ user ∈ account.users.values,
    ∀ id ∈ rowIds (ownedRows remaining "personal_access_tokens" "user_id" user.id),
      id ∈ (entitiesOf .token account).map AccessToken.id
  /-- A rule that names a policy of the account is one of its own rules. -/
  rules : ∀ policy ∈ account.policies,
    ∀ id ∈ rowIds (ownedRows remaining "policy_rules" "policy_id" policy.id),
      id ∈ (entitiesOf .rule account).map PolicyRule.id
  /-- The policies that are there already come first, in the order of their rows. -/
  policyOrder :
    (rowIds (rowsOf remaining "policies")).filter
      (· ∈ account.policies.map Policy.id) <+: account.policies.map Policy.id
  /-- So do the rules in each policy. -/
  ruleOrder : ∀ policy ∈ account.policies,
    (rowIds (rowsOf remaining "policy_rules")).filter
      (· ∈ policy.rules.map PolicyRule.id) <+: policy.rules.map PolicyRule.id

theorem leavesRoom_iff {remaining : Database} {account : Account} :
    LeavesRoom remaining account ↔
      (∀ user ∈ account.users.values,
        ∀ id ∈ rowIds (ownedRows remaining "personal_access_tokens" "user_id" user.id),
          id ∈ (entitiesOf .token account).map AccessToken.id) ∧
      (∀ policy ∈ account.policies,
        ∀ id ∈ rowIds (ownedRows remaining "policy_rules" "policy_id" policy.id),
          id ∈ (entitiesOf .rule account).map PolicyRule.id) ∧
      (rowIds (rowsOf remaining "policies")).filter
        (· ∈ account.policies.map Policy.id) <+: account.policies.map Policy.id ∧
      ∀ policy ∈ account.policies,
        (rowIds (rowsOf remaining "policy_rules")).filter
          (· ∈ policy.rules.map PolicyRule.id) <+: policy.rules.map PolicyRule.id :=
  ⟨fun room => ⟨room.tokens, room.rules, room.policyOrder, room.ruleOrder⟩,
    fun ⟨tokens, rules, policyOrder, ruleOrder⟩ =>
      ⟨tokens, rules, policyOrder, ruleOrder⟩⟩

instance (remaining : Database) (account : Account) :
    Decidable (LeavesRoom remaining account) :=
  decidable_of_iff _ leavesRoom_iff.symm

theorem rowIds_eq
    {rows : List Row}
    {ids : List String}
    (cells : rows.map (fun row => row.cell "id") = ids.map Cell.text) :
    rowIds rows = ids := by
  have texts : rowIds rows = (rows.map (fun row => row.cell "id")).filterMap Cell.text? := by
    rw [List.filterMap_map]
    rfl
  rw [texts, cells, List.filterMap_map]
  exact List.filterMap_some

namespace Represents

variable {db : Database} {contents : Contents} {installation : Option String}

theorem rowIds_ownedRows
    (represents : Represents db contents installation)
    {kind : Kind}
    (owned : kind ≠ .account)
    (owner : String) :
    rowIds (ownedRows db kind.tableName kind.ownerColumn owner) =
      contents.ownedKeys kind owner :=
  rowIds_eq (represents.ownedRows_ids owned owner)

theorem rowIds_rowsOf
    (represents : Represents db contents installation)
    (kind : Kind) :
    rowIds (rowsOf db kind.tableName) = (contents kind).map Record.key := by
  obtain ⟨table, found, holds⟩ := represents.tables kind
  rw [rowsOf, found]
  exact rowIds_eq (forall₂_ids holds.rows)

/-- Room in a database is room in its contents. -/
theorem leavesRoom_iff
    (represents : Represents db contents installation)
    (account : Account) :
    LeavesRoom db account ↔
      (∀ user ∈ account.users.values,
        AllReplaced (contents .token) (recordsOf account .token) user.id) ∧
      ((contents .policy).map Record.key).filter
          (· ∈ account.policies.map Policy.id) <+: account.policies.map Policy.id ∧
        ∀ policy ∈ account.policies, RulesFit contents account policy := by
  have ownKeys : ∀ kind : Kind, (entitiesOf kind account).map kind.key =
      (recordsOf account kind).map Record.key := by
    intro kind
    rw [← values_recordsOf, List.map_map]
    rfl
  have replaced_iff : ∀ {kind : Kind}, kind ≠ .account → ∀ owner,
      (∀ id ∈ rowIds (ownedRows db kind.tableName kind.ownerColumn owner),
        id ∈ (entitiesOf kind account).map kind.key) ↔
          AllReplaced (contents kind) (recordsOf account kind) owner := by
    intro kind owned owner
    rw [represents.rowIds_ownedRows owned, Contents.ownedKeys, Contents.owned, ownKeys,
      List.forall_mem_map]
    simp only [AllReplaced, List.mem_filter, decide_eq_true_eq, and_imp]
  have tokens_iff := @replaced_iff .token (by decide)
  have rules_iff := @replaced_iff .rule (by decide)
  have policies := represents.rowIds_rowsOf .policy
  have rules := represents.rowIds_rowsOf .rule
  simp only [Kind.tableName, Kind.ownerColumn, Kind.key] at tokens_iff rules_iff policies
  simp only [Kind.tableName] at rules
  rw [TableEngine.leavesRoom_iff, policies, rules]
  simp only [tokens_iff, rules_iff]
  constructor
  · rintro ⟨tokens, replaced, policyOrder, ruleOrder⟩
    exact ⟨tokens, policyOrder, fun policy member =>
      ⟨replaced policy member, ruleOrder policy member⟩⟩
  · rintro ⟨tokens, policyOrder, fit⟩
    exact ⟨tokens, fun policy member => (fit policy member).replaced, policyOrder,
      fun policy member => (fit policy member).inOrder⟩

end Represents

/-! ## Saving and loading -/

/--
In a database that was used in any way, an account that was just saved is
loaded as it was saved, in normal form, exactly if what remains of the database
without the account leaves room for it.
-/
theorem get_saved_iff
    {db : Database}
    (used : Used db)
    {account : Account}
    (distinct : PartsDistinct account.normalized)
    (rulesFiled : RulesFiled account)
    (saved : (perform db (.save account)).outcome = .ok .done) :
    (perform (perform db (.save account)).db (.get account.id)).outcome =
        .ok (.account account.normalized) ↔
      LeavesRoom (perform db (.delete account)).db account.normalized := by
  obtain ⟨contents, installation, represents⟩ := used.represents
  obtain ⟨hasName, written⟩ := saved_eq saved
  obtain ⟨remaining, deleted, remainingRepresents⟩ := represents.deleteAccount account.id
  have remaining_eq : (perform db (.delete account)).db = remaining := by
    have run : perform db (.delete account) =
        changed db (named account (deleteAccount db account.id)) := rfl
    rw [run, named, hasName, if_neg Bool.false_ne_true, deleted]
    rfl
  have normal := account.isNormal_normalized
  have loaded := (represents.of_saveAccount written).loadAccount_eq account.id
  have answer : (perform (perform db (.save account)).db (.get account.id)).outcome =
      (loadAccount (perform db (.save account)).db account.id).map .account := rfl
  have fits := @account?_over_iff (contents.drop account.id) account.normalized
    (distinct.distinctKeys normal) normal rulesFiled (vacated_drop contents account.id)
  rw [remaining_eq, remainingRepresents.leavesRoom_iff, ← fits, answer, loaded]
  show Except.map _ (foundOr _ (((contents.drop account.id).over account.normalized).account?
    account.normalized.id)) = _ ↔ _
  cases ((contents.drop account.id).over account.normalized).account?
      account.normalized.id with
  | none => simp [foundOr, Except.map]
  | some other => simp [foundOr, Except.map]

/-- A user of one account has a token, and another account claims the user without it. -/
def claimant : Account where
  id := "a"
  users := .ofList [("u", { id := "u" })]

/-- The account whose user has the token. -/
def holder : Account where
  id := "b"
  users := .ofList [("u", { id := "u", tokens := .ofList [
    ("t", { id := "t", userId := "u", hashedToken := "h" })] })]

/-- The token of the other account's user becomes part of the account. -/
theorem get_saved_iff_claimed :
    (perform (performAll (upkeep .empty ⟨0⟩).db [.save holder])
        (.save claimant)).outcome = .ok .done ∧
      ¬LeavesRoom (perform (performAll (upkeep .empty ⟨0⟩).db [.save holder])
        (.delete claimant)).db claimant.normalized ∧
      (perform (perform (performAll (upkeep .empty ⟨0⟩).db [.save holder])
        (.save claimant)).db (.get "a")).outcome ≠ .ok (.account claimant.normalized) := by
  have used : Used (performAll (upkeep .empty ⟨0⟩).db [.save holder]) := ⟨⟨0⟩, _, rfl⟩
  have made := (upkeep_empty ⟨0⟩).2
  have saved : (perform (performAll (upkeep .empty ⟨0⟩).db [.save holder])
      (.save claimant)).outcome = .ok .done := by
    rw [made]
    decide +kernel
  have noRoom : ¬LeavesRoom (perform (performAll (upkeep .empty ⟨0⟩).db [.save holder])
      (.delete claimant)).db claimant.normalized := by
    rw [made]
    decide +kernel
  exact ⟨saved, noRoom, fun same =>
    noRoom ((get_saved_iff used (by decide +kernel) (by decide +kernel) saved).mp same)⟩

end TenantStore.TableEngine
