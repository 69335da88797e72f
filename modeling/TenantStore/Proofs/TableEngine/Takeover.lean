import TenantStore.Proofs.TableEngine.LoadedParts

namespace TenantStore.TableEngine

/-!
# What a save takes from other accounts

A saved account takes over every row that has an identifier of its own, kind
by kind. Another account is loaded afterwards with what it had, without just
these entities (`relinquish`), and a deleted account takes nothing with it
that belongs to another one. In terms of contents: what other owners have of
records that were put over old ones are their old records, in the old order,
without those of the identifiers that were put (`filter_foldl_putRecord`).
-/

open Relational (Database)

/-! ## What is taken -/

/-- The identifiers that an account has of a kind. -/
def idsOf (kind : Kind) (account : Account) : List String :=
  (entitiesOf kind account).map kind.key

/-- A user without the tokens whose identifiers an account has. -/
def relinquishTokens (saved : Account) (user : User) : User :=
  { user with
    tokens := user.tokens.filter (fun _ token => token.id ∉ idsOf .token saved) }

/-- A policy without the rules whose identifiers an account has. -/
def relinquishRules (saved : Account) (policy : Policy) : Policy :=
  { policy with
    rules := policy.rules.filter (fun rule => rule.id ∉ idsOf .rule saved) }

/-- An account without the entities whose identifiers another account has. -/
def relinquish (saved account : Account) : Account :=
  { account with
    setupKeys := account.setupKeys.filter (fun _ key => key.id ∉ idsOf .setupKey saved)
    peers := account.peers.filter (fun _ peer => peer.id ∉ idsOf .peer saved)
    users := (account.users.filter (fun _ user => user.id ∉ idsOf .user saved)).mapValues
      (fun _ => relinquishTokens saved)
    groups := account.groups.filter (fun _ group => group.id ∉ idsOf .group saved)
    policies := (account.policies.filter (fun policy =>
      policy.id ∉ idsOf .policy saved)).map (relinquishRules saved)
    routes := account.routes.filter (fun _ route => route.id ∉ idsOf .route saved)
    nameServerGroups := account.nameServerGroups.filter (fun _ group =>
      group.id ∉ idsOf .nameServerGroup saved) }

theorem keys_recordsOf (account : Account) (kind : Kind) :
    (recordsOf account kind).map Record.key = idsOf kind account := by
  rw [idsOf, ← values_recordsOf, List.map_map]
  rfl

/-! ## Records that are kept -/

section Records

variable {kind : Kind} {old new : List (Record kind)} {keep : Record kind → Bool}

theorem filter_putRecord {record : Record kind} (foreign : keep record = false) :
    (putRecord record old).filter keep =
      old.filter (fun other => keep other && other.key ≠ record.key) := by
  by_cases known : record.key ∈ old.map Record.key
  · rw [putRecord_of_mem known]
    clear known
    induction old with
    | nil => rfl
    | cons head rest inductionHypothesis =>
        rw [List.map_cons, List.filter_cons, List.filter_cons, inductionHypothesis]
        by_cases same : head.key = record.key
        · simp [same, foreign]
        · simp [same]
  · rw [putRecord_of_not_mem known, List.filter_append, List.filter_cons_of_neg (by simp [foreign]),
      List.filter_nil, List.append_nil]
    apply List.filter_congr
    intro other member
    have apart : other.key ≠ record.key := fun same => known (same ▸ List.mem_map_of_mem member)
    simp [apart]

/-- Of records that none of the new ones is, those of new identifiers go. -/
theorem filter_foldl_putRecord (foreign : ∀ record ∈ new, keep record = false) :
    (new.foldl (fun records record => putRecord record records) old).filter keep =
      old.filter (fun record => keep record && record.key ∉ new.map Record.key) := by
  induction new generalizing old with
  | nil => simp
  | cons record rest inductionHypothesis =>
      have recordForeign := foreign record List.mem_cons_self
      rw [List.foldl_cons,
        inductionHypothesis (fun other member => foreign other (List.mem_cons_of_mem _ member)),
        filter_putRecord (by rw [recordForeign, Bool.false_and])]
      apply List.filter_congr
      intro other _
      by_cases same : other.key = record.key <;> simp [same]

end Records

namespace Contents

/-! ## Other accounts after records are put -/

section Over

variable {remaining : Contents} {account : Account} {kind : Kind} {owner : String}

/-- Another owner keeps its records of other identifiers. -/
theorem owned_over_other
    (foreign : ∀ record ∈ recordsOf account kind, record.owner ≠ owner) :
    (remaining.over account).owned kind owner =
      (remaining.owned kind owner).filter (fun record => record.key ∉ idsOf kind account) := by
  rw [Contents.owned, Contents.over, putAll_apply, filterMap_accountEntries,
    filter_foldl_putRecord (fun record member => decide_eq_false (foreign record member)),
    keys_recordsOf, Contents.owned, List.filter_filter]
  apply List.filter_congr
  intro record _
  exact Bool.and_comm _ _

theorem ownedKeys_over_other
    (foreign : ∀ record ∈ recordsOf account kind, record.owner ≠ owner) :
    (remaining.over account).ownedKeys kind owner =
      (remaining.ownedKeys kind owner).filter (fun id => id ∉ idsOf kind account) := by
  rw [ownedKeys, owned_over_other foreign, ownedKeys, List.filter_map]
  rfl

theorem entities_over_other
    (foreign : ∀ record ∈ recordsOf account kind, record.owner ≠ owner) :
    (remaining.over account).entities kind owner =
      (remaining.entities kind owner).filter (fun value =>
        kind.key value ∉ idsOf kind account) := by
  rw [entities, owned_over_other foreign, entities, List.filter_map]
  congr 1
  apply List.filter_congr
  intro record _
  rw [Function.comp, Record.kept, kind.key_kept]
  rfl

/-- A collection of another account loses the entities of the identifiers that were put. -/
theorem keyed_over_other
    (column : kind.ownerColumn = "account_id")
    (owned : kind ≠ .account)
    (other : owner ≠ account.id)
    {name : kind.Value → String}
    (distinct : ((remaining.entities kind owner).map name).Nodup) :
    keyed name ((remaining.over account).entities kind owner) =
      (keyed name (remaining.entities kind owner)).filter (fun _ value =>
        kind.key value ∉ idsOf kind account) := by
  have foreign : ∀ record ∈ recordsOf account kind, record.owner ≠ owner :=
    fun record listed same => other (same.symm.trans (owner_of_mem column owned listed))
  rw [entities_over_other foreign, keyed_filter distinct]

/-- A search by an identifier that was not put finds what it found before. -/
theorem find?_over_other {id : String} (unlisted : id ∉ idsOf kind account) :
    (remaining.over account kind).find? (fun record => record.key = id) =
      (remaining kind).find? (fun record => record.key = id) := by
  have foreign : ∀ record ∈ recordsOf account kind, decide (record.key = id) = false := by
    intro record listed
    rw [← keys_recordsOf] at unlisted
    exact decide_eq_false (fun same => unlisted (same ▸ List.mem_map_of_mem listed))
  rw [← List.head?_filter, Contents.over, putAll_apply, filterMap_accountEntries,
    filter_foldl_putRecord foreign, ← List.head?_filter, keys_recordsOf]
  congr 1
  apply List.filter_congr
  intro record _
  by_cases here : record.key = id
  · simp [here, unlisted]
  · simp [here]

/-- A user of another account keeps its tokens of other identifiers. -/
theorem user?_over_other
    (coherent : remaining.Coherent)
    {id : String}
    (unlisted : id ∉ idsOf .user account) :
    (remaining.over account).user? id =
      (remaining.user? id).map (relinquishTokens account) := by
  have foreign : ∀ record ∈ recordsOf account .token, record.owner ≠ id := by
    intro record listed same
    have holder := owner_mem_recordsOf (by decide) listed
    rw [same, show Kind.token.ownerKind = .user from rfl, keys_recordsOf] at holder
    exact unlisted holder
  have tokens : keyed AccessToken.id ((remaining.over account).entities .token id) =
      (keyed AccessToken.id (remaining.entities .token id)).filter (fun _ token =>
        token.id ∉ idsOf .token account) := by
    rw [entities_over_other foreign]
    exact keyed_filter (coherent.entities_nodup .token id) _
  rw [user?_eq, user?_eq, find?_over_other unlisted, tokens, Option.map_map]
  rfl

theorem users_over_other
    (coherent : remaining.Coherent)
    (coherentAfter : (remaining.over account).Coherent)
    (other : owner ≠ account.id) :
    (remaining.over account).users owner =
      ((remaining.users owner).filter (fun _ user =>
        user.id ∉ idsOf .user account)).mapValues (fun _ => relinquishTokens account) := by
  have foreign : ∀ record ∈ recordsOf account .user, record.owner ≠ owner :=
    fun record listed same => other (same.symm.trans (owner_of_mem rfl (by decide) listed))
  apply Dict.ext_get?
  intro id
  rw [coherentAfter.get?_users, Dict.get?_mapValues, Dict.get?_filter, coherent.get?_users,
    ownedKeys_over_other foreign]
  by_cases owned : id ∈ remaining.ownedKeys .user owner
  · by_cases listed : id ∈ idsOf .user account
    · have taken : (remaining.user? id).filter (fun user => user.id ∉ idsOf .user account) =
          none := by
        rw [Option.filter_eq_none_iff]
        intro user found
        simp [user?_id found, listed]
      rw [if_pos owned, taken, if_neg (by simp [listed])]
      rfl
    · have kept : (remaining.user? id).filter (fun user => user.id ∉ idsOf .user account) =
          remaining.user? id := by
        cases found : remaining.user? id with
        | none => rfl
        | some user => simp [user?_id found, listed]
      rw [if_pos owned, kept, if_pos (List.mem_filter.mpr ⟨owned, decide_eq_true listed⟩)]
      exact user?_over_other coherent listed
  · simp [owned]

/-- The policies of another account keep their order, and so do the rules in each. -/
theorem policies_over_other (other : owner ≠ account.id) :
    (remaining.over account).policies owner =
      ((remaining.policies owner).filter (fun policy =>
        policy.id ∉ idsOf .policy account)).map (relinquishRules account) := by
  have foreign : ∀ record ∈ recordsOf account .policy, record.owner ≠ owner :=
    fun record listed same => other (same.symm.trans (owner_of_mem rfl (by decide) listed))
  rw [Contents.policies, entities_over_other foreign, Contents.policies, List.filter_map,
    List.map_map]
  apply List.map_congr_left
  intro policy member
  have unlisted := of_decide_eq_true (List.mem_filter.mp member).2
  have rulesForeign : ∀ record ∈ recordsOf account .rule, record.owner ≠ Policy.id policy := by
    intro record listed same
    have holder := owner_mem_recordsOf (by decide) listed
    rw [same, show Kind.rule.ownerKind = .policy from rfl, keys_recordsOf] at holder
    exact unlisted holder
  rw [entities_over_other rulesForeign]
  rfl

/-- Another account is loaded without what was taken over. -/
theorem account?_over_other
    (coherent : remaining.Coherent)
    (coherentAfter : (remaining.over account).Coherent)
    (other : owner ≠ account.id) :
    (remaining.over account).account? owner =
      (remaining.account? owner).map (relinquish account) := by
  have unlisted : owner ∉ idsOf .account account :=
    fun listed => other (List.mem_singleton.mp listed)
  have setupKeys := @keyed_over_other remaining account .setupKey owner rfl (by decide) other
    _ (coherent.setupKeys_nodup owner)
  have peers := @keyed_over_other remaining account .peer owner rfl (by decide) other
    _ (coherent.entities_nodup .peer owner)
  have groups := @keyed_over_other remaining account .group owner rfl (by decide) other
    _ (coherent.entities_nodup .group owner)
  have routes := @keyed_over_other remaining account .route owner rfl (by decide) other
    _ (coherent.entities_nodup .route owner)
  have nameServerGroups := @keyed_over_other remaining account .nameServerGroup owner rfl
    (by decide) other _ (coherent.entities_nodup .nameServerGroup owner)
  simp only [Kind.key] at peers groups routes nameServerGroups
  rw [Contents.account?, Contents.account?, find?_over_other unlisted, Option.map_map, setupKeys,
    peers, groups, routes, nameServerGroups, users_over_other coherent coherentAfter other,
    policies_over_other other]
  rfl

end Over

/-! ## Other accounts after one is dropped -/

section Drop

variable {contents : Contents} {id owner : String} {kind : Kind}

theorem belongs_direct
    (column : kind.ownerColumn = "account_id")
    (owned : kind ≠ .account)
    {record : Record kind} :
    contents.Belongs id record ↔ record.owner = id := by
  cases kind with
  | account => exact absurd rfl owned
  | token => exact absurd column (by decide)
  | rule => exact absurd column (by decide)
  | _ => exact Iff.rfl

/-- An owner keeps its records if none of them is dropped. -/
theorem owned_drop_other
    (stays : ∀ record ∈ contents kind, record.owner = owner → ¬contents.Belongs id record) :
    (contents.drop id).owned kind owner = contents.owned kind owner := by
  rw [Contents.owned, drop_apply, List.filter_filter, Contents.owned]
  apply List.filter_congr
  intro record member
  by_cases here : record.owner = owner
  · simp [here, stays record member here]
  · simp [here]

theorem owned_drop_direct
    (column : kind.ownerColumn = "account_id")
    (owned : kind ≠ .account)
    (other : owner ≠ id) :
    (contents.drop id).owned kind owner = contents.owned kind owner := by
  apply owned_drop_other
  intro record _ same belongs
  exact other (same.symm.trans ((belongs_direct column owned).mp belongs))

/-- What a user or policy of another account owns does not belong to the dropped one. -/
theorem Coherent.not_belongs_below
    (coherent : contents.Coherent)
    {child parent : Kind}
    (below : Below child parent)
    (other : owner ≠ id)
    {record : Record child}
    (held : record.owner ∈ contents.ownedKeys parent owner) :
    ¬contents.Belongs id record := by
  intro belongs
  exact other (coherent.owner_unique held ((below.belongs contents id record).mp belongs))

theorem find?_account_drop_other (other : owner ≠ id) :
    (contents.drop id .account).find? (fun record => record.key = owner) =
      (contents .account).find? (fun record => record.key = owner) := by
  rw [← List.head?_filter, drop_apply, List.filter_filter, ← List.head?_filter]
  congr 1
  apply List.filter_congr
  intro record _
  by_cases here : record.key = owner
  · have stays : ¬contents.Belongs id record := fun belongs => other (here.symm.trans belongs)
    simp [here, stays]
  · simp [here]

theorem Coherent.users_drop_other (coherent : contents.Coherent) (other : owner ≠ id) :
    (contents.drop id).users owner = contents.users owner := by
  have users : (contents.drop id).owned .user owner = contents.owned .user owner :=
    owned_drop_direct rfl (by decide) other
  have keys : (contents.drop id).ownedKeys .user owner = contents.ownedKeys .user owner := by
    rw [ownedKeys, users, ownedKeys]
  have tokens : (contents.drop id).tokensBelow owner = contents.tokensBelow owner := by
    rw [tokensBelow, keys, drop_apply, List.filter_filter, tokensBelow]
    congr 1
    apply List.filter_congr
    intro record _
    by_cases held : record.owner ∈ contents.ownedKeys .user owner
    · have stays := coherent.not_belongs_below token_below_user other held
      simp [held, stays]
    · simp [held]
  rw [Contents.users, tokens, entities, users, Contents.users, entities]

theorem Coherent.policies_drop_other (coherent : contents.Coherent) (other : owner ≠ id) :
    (contents.drop id).policies owner = contents.policies owner := by
  have policies : (contents.drop id).entities .policy owner = contents.entities .policy owner := by
    rw [entities, owned_drop_direct rfl (by decide) other, entities]
  rw [Contents.policies, policies, Contents.policies]
  apply List.map_congr_left
  intro policy member
  have held : Policy.id policy ∈ contents.ownedKeys .policy owner := by
    rw [← keys_entities]
    exact List.mem_map_of_mem member
  have rules : (contents.drop id).owned .rule (Policy.id policy) =
      contents.owned .rule (Policy.id policy) := by
    apply owned_drop_other
    rintro record _ same
    exact coherent.not_belongs_below rule_below_policy other (same ▸ held)
  rw [entities, rules, entities]

/-- Dropping an account leaves every other account as it is. -/
theorem Coherent.account?_drop_other (coherent : contents.Coherent) (other : owner ≠ id) :
    (contents.drop id).account? owner = contents.account? owner := by
  have entities_eq : ∀ kind : Kind, kind.ownerColumn = "account_id" → kind ≠ .account →
      (contents.drop id).entities kind owner = contents.entities kind owner := by
    intro kind column owned
    rw [entities, owned_drop_direct column owned other, entities]
  rw [Contents.account?, Contents.account?, find?_account_drop_other other,
    coherent.users_drop_other other, coherent.policies_drop_other other,
    entities_eq .setupKey rfl (by decide), entities_eq .peer rfl (by decide),
    entities_eq .group rfl (by decide), entities_eq .route rfl (by decide),
    entities_eq .nameServerGroup rfl (by decide)]

end Drop

end Contents

/-! ## Calls -/

theorem get_eq_ok_iff
    {db : Database}
    {contents : Contents}
    {installation : Option String}
    (represents : Represents db contents installation)
    {id : String}
    {account : Account} :
    (perform db (.get id)).outcome = .ok (.account account) ↔
      contents.account? id = some account := by
  have answer : (perform db (.get id)).outcome = (loadAccount db id).map .account := rfl
  rw [answer, represents.loadAccount_eq]
  cases contents.account? id with
  | none => simp [foundOr, Except.map]
  | some other => simp [foundOr, Except.map]

/-- Deleting an account changes no other. -/
theorem get_after_delete
    {db : Database}
    {contents : Contents}
    {installation : Option String}
    (coherent : contents.Coherent)
    (represents : Represents db contents installation)
    (account : Account)
    {id : String}
    (other : id ≠ account.id) :
    (perform (perform db (.delete account)).db (.get id)).outcome =
      (perform db (.get id)).outcome := by
  have run : perform db (.delete account) =
      changed db (named account (deleteAccount db account.id)) := rfl
  rw [run, named]
  split
  · rfl
  · obtain ⟨after, deleted, afterRepresents⟩ := represents.deleteAccount account.id
    rw [deleted]
    change (loadAccount after id).map _ = (loadAccount db id).map _
    rw [afterRepresents.loadAccount_eq, represents.loadAccount_eq,
      coherent.account?_drop_other other]

/--
In a database that was used in any way, a save that succeeds leaves every other
stored account with what it had, without exactly the entities of which the
saved account has the identifier, and the installation as it was. A deletion
leaves every other account as it was.
-/
theorem others_keep_all_but_taken
    {db : Database}
    (used : Used db)
    (account : Account) :
    ((perform db (.save account)).outcome = .ok .done →
      (∀ id before, id ≠ account.id →
        (perform db (.get id)).outcome = .ok (.account before) →
          (perform (perform db (.save account)).db (.get id)).outcome =
            .ok (.account (relinquish account.normalized before))) ∧
      (perform (perform db (.save account)).db .installation).outcome =
        (perform db .installation).outcome) ∧
    ∀ id, id ≠ account.id →
      (perform (perform db (.delete account)).db (.get id)).outcome =
        (perform db (.get id)).outcome := by
  obtain ⟨contents, installation, coherent, represents⟩ := used.coherent
  refine ⟨?_, fun id other => get_after_delete coherent represents account other⟩
  intro saved
  have afterRepresents := represents.of_saveAccount (saved_eq saved).2
  constructor
  · intro id before other found
    have remaining := coherent.drop account.id
    have coherentAfter := coherent.step (.saved account)
    rw [get_eq_ok_iff represents] at found
    rw [get_eq_ok_iff afterRepresents]
    change ((contents.drop account.id).over account.normalized).account? id = _
    rw [Contents.account?_over_other remaining coherentAfter other,
      coherent.account?_drop_other other, found, Option.map_some]
  · change (TableEngine.installation _).map _ = (TableEngine.installation db).map _
    rw [afterRepresents.installation_eq, represents.installation_eq]

/-- An account with a setup key, a user with two tokens, and a policy with two rules. -/
def giver : Account where
  id := "b"
  setupKeys := .ofList [("KEY", { id := "k", key := "KEY" })]
  users := .ofList [("u", { id := "u", tokens := .ofList [
    ("t", { id := "t", userId := "u", hashedToken := "h" }),
    ("s", { id := "s", userId := "u", hashedToken := "g" })] })]
  policies := [{ id := "p", rules := [
    { id := "r", policyId := "p" }, { id := "q", policyId := "p" }] }]

/-- An account with the identifiers of a setup key, a token and a rule of the other. -/
def taker : Account where
  id := "a"
  setupKeys := .ofList [("OTHER", { id := "k", key := "OTHER" })]
  users := .ofList [("v", { id := "v", tokens := .ofList [
    ("t", { id := "t", userId := "v", hashedToken := "f" })] })]
  policies := [{ id := "o", rules := [{ id := "r", policyId := "o" }] }]

/-- The other account loses these three entities and nothing else. -/
theorem others_keep_all_but_taken_three :
    Used (performAll (upkeep .empty ⟨0⟩).db [.save giver]) ∧
      (perform (performAll (upkeep .empty ⟨0⟩).db [.save giver]) (.save taker)).outcome =
        .ok .done ∧
      (perform (performAll (upkeep .empty ⟨0⟩).db [.save giver]) (.get "b")).outcome =
        .ok (.account giver) ∧
      (perform (perform (performAll (upkeep .empty ⟨0⟩).db [.save giver])
          (.save taker)).db (.get "b")).outcome =
        .ok (.account { giver with
          setupKeys := ∅
          users := .ofList [("u", { id := "u", tokens := .ofList [
            ("s", { id := "s", userId := "u", hashedToken := "g" })] })]
          policies := [{ id := "p", rules := [{ id := "q", policyId := "p" }] }] }) := by
  have used : Used (performAll (upkeep .empty ⟨0⟩).db [.save giver]) := ⟨⟨0⟩, _, rfl⟩
  have made := (upkeep_empty ⟨0⟩).2
  have saved : (perform (performAll (upkeep .empty ⟨0⟩).db [.save giver])
      (.save taker)).outcome = .ok .done := by
    rw [made]
    decide +kernel
  have stored : (perform (performAll (upkeep .empty ⟨0⟩).db [.save giver])
      (.get "b")).outcome = .ok (.account giver) := by
    rw [made]
    decide +kernel
  have kept := ((others_keep_all_but_taken used taker).1 saved).1 "b" giver (by decide) stored
  refine ⟨used, saved, stored, kept.trans ?_⟩
  decide +kernel

end TenantStore.TableEngine
