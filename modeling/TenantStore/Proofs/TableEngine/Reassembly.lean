import TenantStore.Proofs.Accounts
import TenantStore.Proofs.TableEngine.AccountContents
import TenantStore.Proofs.TableEngine.Finding

namespace TenantStore.TableEngine

/-!
# Accounts put together again

What is read for an account from the contents that some accounts were written
to is that account: its collections are made again from the records, tokens
are given back to their users, and rules to their policies. The same holds for
a single user.
-/

/-! ## Tokens and users -/

/-- A user with one more token. -/
def addToken (user : User) (token : AccessToken) : User :=
  { user with tokens := user.tokens.insert token.id token }

/-- A user that is kept in a row has no tokens. -/
def bareUser (user : User) : User :=
  { user with tokens := ∅ }

theorem foldl_addToken (tokens : List AccessToken) (user : User) :
    tokens.foldl addToken user =
      { user with
        tokens := (tokens.map (fun token => (token.id, token))).foldl
          (fun dict entry => dict.insert entry.1 entry.2) user.tokens } := by
  induction tokens generalizing user with
  | nil => rfl
  | cons token rest inductionHypothesis =>
      rw [List.foldl_cons, inductionHypothesis, List.map_cons, List.foldl_cons]
      rfl

/-- A user without tokens gets back those that it had. -/
theorem foldl_addToken_bareUser
    {user : User}
    (filed : user.tokens.FiledBy AccessToken.id) :
    user.tokens.values.foldl addToken (bareUser user) = user := by
  have tokens : (user.tokens.values.map (fun token => (token.id, token))).foldl
      (fun dict entry => dict.insert entry.1 entry.2) (bareUser user).tokens =
        user.tokens :=
    filed.ofList_values
  rw [foldl_addToken, tokens]
  rfl

theorem bareUsers_filed {account : Account} (normal : account.IsNormal) :
    (account.users.mapValues (fun _ => bareUser)).FiledBy User.id := by
  intro slot user found
  rw [Dict.get?_mapValues] at found
  obtain ⟨old, oldFound, rfl⟩ := Option.map_eq_some_iff.mp found
  show old.id = slot
  exact normal.user_id oldFound

theorem values_bareUsers (users : Dict User) :
    (users.mapValues (fun _ => bareUser)).values = users.values.map bareUser := by
  simp only [Dict.values, Dict.mapValues, List.map_map]
  rfl

/-- The tokens of a user name it as their user. -/
theorem map_kept_tokens
    {account : Account}
    (normal : account.IsNormal)
    {slot : String}
    {user : User}
    (found : account.users.get? slot = some user) :
    user.tokens.values.map (Kind.kept .token user.id) = user.tokens.values := by
  refine Eq.trans (List.map_congr_left ?_) (List.map_id _)
  intro token member
  obtain ⟨tokenSlot, held⟩ := Dict.mem_values_iff.mp member
  show { token with userId := user.id } = token
  rw [← normal.token_userId found held]

/-- Giving tokens to users gives each user those that name it. -/
theorem get?_foldl_giveToken
    (tokens : List AccessToken)
    (users : Dict User)
    (id : String) :
    (tokens.foldl giveToken users).get? id =
      (users.get? id).map (fun user =>
        (tokens.filter (fun token => token.userId = id)).foldl addToken user) := by
  induction tokens generalizing users with
  | nil => simp
  | cons token rest inductionHypothesis =>
      rw [List.foldl_cons, inductionHypothesis, giveToken, Dict.get?_modify]
      by_cases same : token.userId = id
      · simp only [Option.map_map, List.filter_cons, same, decide_true,
          if_true, List.foldl_cons]
        rfl
      · simp only [List.filter_cons, same, decide_false, Bool.false_eq_true,
          if_false]

section Accounts

variable {accounts : List Account} {kind : Kind}

theorem DistinctKeys.filter_id
    (distinct : DistinctKeys accounts)
    {account : Account}
    (member : account ∈ accounts) :
    accounts.filter (fun other => other.id = account.id) = [account] := by
  refine filter_eq_singleton ?_ member
  have keys := distinct .account
  rwa [List.map_eq_flatMap]

/-- The records that an account owns are those that it is written to. -/
theorem owned_contentsOf
    (distinct : DistinctKeys accounts)
    (column : kind.ownerColumn = "account_id")
    (owned : kind ≠ .account)
    {account : Account}
    (member : account ∈ accounts) :
    (contentsOf accounts).owned kind account.id = recordsOf account kind := by
  have selected : (contentsOf accounts).owned kind account.id =
      contentsOf (accounts.filter (fun other => other.id = account.id)) kind := by
    apply filter_contentsOf
    intro other _ record listed
    rw [owner_of_mem column owned listed]
  rw [selected, distinct.filter_id member]
  exact List.append_nil _

theorem entities_contentsOf
    (distinct : DistinctKeys accounts)
    (column : kind.ownerColumn = "account_id")
    (owned : kind ≠ .account)
    {account : Account}
    (member : account ∈ accounts) :
    (contentsOf accounts).entities kind account.id =
      (recordsOf account kind).map Record.kept := by
  rw [Contents.entities, owned_contentsOf distinct column owned member]

/-- A collection whose rows keep whole entities is made again from them. -/
theorem keyed_contentsOf
    (distinct : DistinctKeys accounts)
    (column : kind.ownerColumn = "account_id")
    (owned : kind ≠ .account)
    {account : Account}
    (member : account ∈ accounts)
    {dict : Dict kind.Value}
    (records : recordsOf account kind = dict.values.map (Record.mk account.id))
    (whole : ∀ owner value, kind.kept owner value = value)
    {name : kind.Value → String}
    (filed : dict.FiledBy name) :
    keyed name ((contentsOf accounts).entities kind account.id) = dict := by
  have values : (contentsOf accounts).entities kind account.id = dict.values := by
    rw [entities_contentsOf distinct column owned member, records, List.map_map]
    refine Eq.trans (List.map_congr_left ?_) (List.map_id _)
    intro value _
    exact whole account.id value
  rw [values]
  exact filed.ofList_values

/-- The tokens below an account are those of its users. -/
theorem tokensBelow_contentsOf
    (distinct : DistinctKeys accounts)
    {account : Account}
    (member : account ∈ accounts)
    (normal : account.IsNormal) :
    (contentsOf accounts).tokensBelow account.id = entitiesOf .token account := by
  have selected : (contentsOf accounts .token).filter (fun record =>
      record.owner ∈ (contentsOf accounts).ownedKeys .user account.id) =
        contentsOf (accounts.filter (fun other => other.id = account.id)) .token := by
    apply filter_contentsOf
    intro other otherMember record listed
    obtain ⟨user, userListed, same⟩ := exists_owner.1 record listed
    rw [← same]
    exact decide_eq_decide.mpr
      (distinct.mem_ownedKeys_iff rfl (by decide) otherMember userListed)
  rw [Contents.tokensBelow, selected, distinct.filter_id member]
  have one : contentsOf [account] .token = recordsOf account .token := List.append_nil _
  rw [one]
  simp only [recordsOf, entitiesOf, List.map_flatMap, List.map_map]
  apply List.flatMap_congr
  intro user userMember
  obtain ⟨slot, found⟩ := Dict.mem_values_iff.mp userMember
  exact map_kept_tokens normal found

/-- Users get back their own tokens. -/
theorem users_contentsOf
    (distinct : DistinctKeys accounts)
    {account : Account}
    (member : account ∈ accounts)
    (normal : account.IsNormal) :
    (contentsOf accounts).users account.id = account.users := by
  have bare : keyed User.id ((contentsOf accounts).entities .user account.id) =
      account.users.mapValues (fun _ => bareUser) := by
    have values : (contentsOf accounts).entities .user account.id =
        (account.users.mapValues (fun _ => bareUser)).values := by
      rw [entities_contentsOf distinct rfl (by decide) member, values_bareUsers]
      simp only [recordsOf, List.map_map]
      rfl
    rw [values]
    exact (bareUsers_filed normal).ofList_values
  apply Dict.ext_get?
  intro id
  rw [Contents.users, tokensBelow_contentsOf distinct member normal, bare,
    get?_foldl_giveToken, Dict.get?_mapValues]
  cases found : account.users.get? id with
  | none => rfl
  | some user =>
      have tokens : (entitiesOf .token account).filter (fun token =>
          AccessToken.userId token = id) = user.tokens.values := by
        have ids : (account.users.values.map User.id).Nodup := by
          rw [normal.users_filed.map_values_eq_keys]
          exact account.users.keys_nodup
        have agree : ∀ other ∈ account.users.values, ∀ token ∈ other.tokens.values,
            decide (token.userId = id) = decide (other.id = user.id) := by
          intro other otherMember token tokenMember
          obtain ⟨slot, otherFound⟩ := Dict.mem_values_iff.mp otherMember
          obtain ⟨tokenSlot, held⟩ := Dict.mem_values_iff.mp tokenMember
          rw [normal.token_userId otherFound held, normal.user_id found]
        have userMember := Dict.mem_values_iff.mpr ⟨id, found⟩
        show (account.users.values.flatMap (fun user => user.tokens.values)).filter
          (fun token => token.userId = id) = _
        rw [filter_flatMap_of_agree agree, filter_eq_singleton ids userMember]
        exact List.append_nil _
      rw [Option.map_some, Option.map_some, tokens,
        foldl_addToken_bareUser (normal.tokens_filed found)]

/-! ## Policies and rules -/

/-- Every rule of an account names the policy that it stands in. -/
def RulesFiled (account : Account) : Prop :=
  ∀ policy ∈ account.policies, ∀ rule ∈ policy.rules, rule.policyId = policy.id

instance (account : Account) : Decidable (RulesFiled account) :=
  inferInstanceAs (Decidable (∀ policy ∈ account.policies, ∀ rule ∈ policy.rules, _))

/-- A policy whose rules name it. -/
def fileRules (policy : Policy) : Policy :=
  { policy with rules := policy.rules.map (fun rule => { rule with policyId := policy.id }) }

/-- An account whose rules name the policies that they stand in. -/
def withRulesFiled (account : Account) : Account :=
  { account with policies := account.policies.map fileRules }

theorem RulesFiled.withRulesFiled_eq {account : Account} (rulesFiled : RulesFiled account) :
    withRulesFiled account = account := by
  have policies : account.policies.map fileRules = account.policies := by
    refine Eq.trans (List.map_congr_left ?_) (List.map_id _)
    intro policy member
    have rules : policy.rules.map (fun rule => { rule with policyId := policy.id }) =
        policy.rules := by
      refine Eq.trans (List.map_congr_left ?_) (List.map_id _)
      intro rule ruleMember
      rw [← rulesFiled policy member rule ruleMember]
      rfl
    rw [fileRules, rules]
    rfl
  rw [withRulesFiled, policies]

theorem rules_contentsOf
    (distinct : DistinctKeys accounts)
    {account : Account}
    (member : account ∈ accounts)
    {policy : Policy}
    (policyMember : policy ∈ account.policies) :
    (contentsOf accounts).entities .rule policy.id = (fileRules policy).rules := by
  have ids : ((accounts.flatMap Account.policies).map Policy.id).Nodup := by
    have keys := distinct .policy
    rwa [← List.map_flatMap] at keys
  have all : contentsOf accounts .rule =
      (accounts.flatMap Account.policies).flatMap (fun policy =>
        policy.rules.map (@Record.mk .rule policy.id)) := by
    rw [List.flatMap_assoc]
    rfl
  have known : policy ∈ accounts.flatMap Account.policies :=
    List.mem_flatMap.mpr ⟨account, member, policyMember⟩
  rw [Contents.entities, Contents.owned, all,
    @filter_recordsBelow _ .rule _ _ ids _ known Policy.rules, List.map_map]
  rfl

/-- Policies get back their own rules. -/
theorem policies_contentsOf
    (distinct : DistinctKeys accounts)
    {account : Account}
    (member : account ∈ accounts) :
    (contentsOf accounts).policies account.id = (withRulesFiled account).policies := by
  have bare := entities_contentsOf distinct rfl (show Kind.policy ≠ .account by decide)
    member
  rw [Contents.policies, bare]
  simp only [recordsOf, List.map_map]
  refine List.map_congr_left ?_
  intro policy policyMember
  show { policy with rules := (contentsOf accounts).entities .rule policy.id } = _
  rw [rules_contentsOf distinct member policyMember]
  rfl

/-! ## Accounts and users -/

/-- The account that is loaded for an identifier has every rule in its policy. -/
theorem account?_contentsOf_eq
    (distinct : DistinctKeys accounts)
    {account : Account}
    (member : account ∈ accounts)
    (normal : account.IsNormal) :
    (contentsOf accounts).account? account.id = some (withRulesFiled account) := by
  have found : (contentsOf accounts .account).find? (fun record =>
      record.key = account.id) = some ⟨"", account⟩ := by
    have selected : (contentsOf accounts .account).filter (fun record =>
        record.key = account.id) =
          contentsOf (accounts.filter (fun other => other.id = account.id)) .account := by
      apply filter_contentsOf
      intro other _ record listed
      rw [List.mem_singleton.mp listed]
      rfl
    rw [← List.head?_filter, selected, distinct.filter_id member]
    rfl
  have setupKeys := @keyed_contentsOf _ .setupKey distinct rfl (by decide) _ member _ rfl
    (fun _ _ => rfl) _ normal.setupKeys_filed
  have peers := @keyed_contentsOf _ .peer distinct rfl (by decide) _ member _ rfl
    (fun _ _ => rfl) _ normal.peers_filed
  have groups := @keyed_contentsOf _ .group distinct rfl (by decide) _ member _ rfl
    (fun _ _ => rfl) _ normal.groups_filed
  have routes := @keyed_contentsOf _ .route distinct rfl (by decide) _ member _ rfl
    (fun _ _ => rfl) _ normal.routes_filed
  have nameServerGroups := @keyed_contentsOf _ .nameServerGroup distinct rfl (by decide)
    _ member _ rfl (fun _ _ => rfl) _ normal.nameServerGroups_filed
  rw [Contents.account?, found, Option.map_some, setupKeys, peers, groups, routes,
    nameServerGroups, users_contentsOf distinct member normal,
    policies_contentsOf distinct member]
  rfl

/-- The account that is loaded for an identifier is the one that was written. -/
theorem account?_contentsOf
    (distinct : DistinctKeys accounts)
    {account : Account}
    (member : account ∈ accounts)
    (normal : account.IsNormal)
    (rulesFiled : RulesFiled account) :
    (contentsOf accounts).account? account.id = some account := by
  rw [account?_contentsOf_eq distinct member normal, rulesFiled.withRulesFiled_eq]

/-- An identifier that no account has leads to none. -/
theorem account?_contentsOf_none
    {id : String}
    (absent : ∀ account ∈ accounts, account.id ≠ id) :
    (contentsOf accounts).account? id = none := by
  have none : (contentsOf accounts .account).find? (fun record => record.key = id) =
      none := by
    rw [List.find?_eq_none]
    intro record member same
    obtain ⟨account, accountMember, listed⟩ := List.mem_flatMap.mp member
    rw [List.mem_singleton.mp listed] at same
    exact absent account accountMember (of_decide_eq_true same)
  rw [Contents.account?, none]
  rfl

/-- The user that is loaded for an identifier is the one that was written. -/
theorem user?_contentsOf
    (distinct : DistinctKeys accounts)
    {account : Account}
    (member : account ∈ accounts)
    (normal : account.IsNormal)
    {user : User}
    (userMember : user ∈ account.users.values) :
    (contentsOf accounts).user? user.id = some user := by
  obtain ⟨slot, found⟩ := Dict.mem_values_iff.mp userMember
  have record : (contentsOf accounts .user).find? (fun record => record.key = user.id) =
      some ⟨account.id, user⟩ := by
    have keys := distinct .user
    rw [← keys_contentsOf] at keys
    have known : (Record.mk account.id user : Record .user) ∈ contentsOf accounts .user :=
      mem_contentsOf member (List.mem_map.mpr ⟨user, userMember, rfl⟩)
    rw [← List.head?_filter]
    exact congrArg List.head? (filter_eq_singleton keys known)
  have tokens : (contentsOf accounts).entities .token user.id = user.tokens.values := by
    have ids : ((accounts.flatMap (fun account => account.users.values)).map
        User.id).Nodup := by
      have keys := distinct .user
      rwa [← List.map_flatMap] at keys
    have all : contentsOf accounts .token =
        (accounts.flatMap (fun account => account.users.values)).flatMap (fun user =>
          user.tokens.values.map (@Record.mk .token user.id)) := by
      rw [List.flatMap_assoc]
      rfl
    have known : user ∈ accounts.flatMap (fun account => account.users.values) :=
      List.mem_flatMap.mpr ⟨account, member, userMember⟩
    rw [Contents.entities, Contents.owned, all,
      @filter_recordsBelow _ .token _ _ ids _ known (fun user => user.tokens.values),
      List.map_map]
    exact map_kept_tokens normal found
  rw [Contents.user?, record, Option.map_some, tokens]
  exact congrArg some (foldl_addToken_bareUser (normal.tokens_filed found))

end Accounts

end TenantStore.TableEngine
