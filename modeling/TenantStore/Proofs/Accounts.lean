import TenantStore.Account
import TenantStore.Proofs.Dictionaries

namespace TenantStore

/-!
# Accounts in normal form

An account is in normal form when every entity carries the identifier that it
is filed under. Saving brings an account into normal form, and partial updates
keep it there.
-/

namespace Account

/-! ## Normal form -/

/-- Every entity carries the identifier that it is filed under. -/
def IsNormal (account : Account) : Prop :=
  account.normalized = account

/-- Normalizing changes no account identifier. -/
@[simp] theorem normalized_id (account : Account) :
    account.normalized.id = account.id :=
  rfl

/-- Normalizing changes no address. -/
theorem normalized_addresses (account : Account) :
    account.normalized.peers.values.map Peer.ip = account.peers.values.map Peer.ip :=
  Dict.map_values_mapValues (fun _ _ => rfl)

/-- A user is in normal form after the first time. -/
theorem normalizeUser_normalizeUser (id : String) (user : User) :
    normalizeUser id (normalizeUser id user) = normalizeUser id user := by
  have tokensSame :
      (user.tokens.mapValues (normalizeToken id)).mapValues (normalizeToken id) =
        user.tokens.mapValues (normalizeToken id) := by
    apply Dict.ext_get?
    intro key
    cases found : user.tokens.get? key <;> simp [found, normalizeToken]
  simp [normalizeUser, tokensSame]

/-- Normalizing twice is normalizing once. -/
theorem isNormal_normalized (account : Account) :
    account.normalized.IsNormal := by
  have again : ∀ {β : Type} (dict : Dict β) (change : String → β → β),
      (∀ key value, change key (change key value) = change key value) →
        (dict.mapValues change).mapValues change = dict.mapValues change := by
    intro β dict change twice
    apply Dict.ext_get?
    intro key
    cases found : dict.get? key <;> simp [found, twice]
  simp only [IsNormal, normalized]
  rw [again _ _ (by intros; rfl), again _ _ (by intros; rfl),
    again _ _ normalizeUser_normalizeUser, again _ _ (by intros; rfl),
    again _ _ (by intros; rfl), again _ _ (by intros; rfl)]

/-- Normal form, collection by collection. -/
theorem isNormal_iff {account : Account} :
    account.IsNormal ↔
      account.setupKeys.mapValues (fun key stored => { stored with key := key }) =
          account.setupKeys ∧
        account.peers.mapValues (fun id peer => { peer with id := id }) =
          account.peers ∧
        account.users.mapValues normalizeUser = account.users ∧
        account.groups.mapValues (fun id group => { group with id := id }) =
          account.groups ∧
        account.routes.mapValues (fun id route => { route with id := id }) =
          account.routes ∧
        account.nameServerGroups.mapValues
            (fun id group => { group with id := id }) =
          account.nameServerGroups := by
  constructor
  · intro same
    exact ⟨congrArg Account.setupKeys same, congrArg Account.peers same,
      congrArg Account.users same, congrArg Account.groups same,
      congrArg Account.routes same, congrArg Account.nameServerGroups same⟩
  · simp only [IsNormal, normalized]
    rintro ⟨setupKeys, peers, users, groups, routes, nameServerGroups⟩
    rw [setupKeys, peers, users, groups, routes, nameServerGroups]

namespace IsNormal

variable {account : Account}

/-- A user of a normal account is in normal form. -/
theorem user_eq
    (normal : account.IsNormal)
    {id : String}
    {user : User}
    (found : account.users.get? id = some user) :
    normalizeUser id user = user :=
  Dict.mapValues_eq_self_iff.mp (isNormal_iff.mp normal).2.2.1 id user found

/-- A user stands under its own identifier. -/
theorem user_id
    (normal : account.IsNormal)
    {id : String}
    {user : User}
    (found : account.users.get? id = some user) :
    user.id = id := by
  rw [← normal.user_eq found]
  rfl

/-- A token stands under its own identifier. -/
theorem token_id
    (normal : account.IsNormal)
    {id slot : String}
    {user : User}
    {token : AccessToken}
    (found : account.users.get? id = some user)
    (held : user.tokens.get? slot = some token) :
    token.id = slot := by
  have tokens : user.tokens.mapValues (normalizeToken id) = user.tokens :=
    congrArg User.tokens (normal.user_eq found)
  rw [← Dict.mapValues_eq_self_iff.mp tokens slot token held]
  rfl

/-- A peer stands under its own identifier. -/
theorem peer_id
    (normal : account.IsNormal)
    {id : String}
    {peer : Peer}
    (found : account.peers.get? id = some peer) :
    peer.id = id := by
  have same := Dict.mapValues_eq_self_iff.mp (isNormal_iff.mp normal).2.1
    id peer found
  exact (congrArg Peer.id same).symm

/-! ### Collections under the names of their values -/

/-- Setup keys are filed under their secrets. -/
theorem setupKeys_filed (normal : account.IsNormal) :
    account.setupKeys.FiledBy SetupKey.key := by
  intro slot stored found
  have same := Dict.mapValues_eq_self_iff.mp (isNormal_iff.mp normal).1 slot stored found
  exact (congrArg SetupKey.key same).symm

/-- Peers are filed under their identifiers. -/
theorem peers_filed (normal : account.IsNormal) :
    account.peers.FiledBy Peer.id :=
  fun _ _ found => normal.peer_id found

/-- Users are filed under their identifiers. -/
theorem users_filed (normal : account.IsNormal) :
    account.users.FiledBy User.id :=
  fun _ _ found => normal.user_id found

/-- The tokens of a user are filed under their identifiers. -/
theorem tokens_filed
    (normal : account.IsNormal)
    {id : String}
    {user : User}
    (found : account.users.get? id = some user) :
    user.tokens.FiledBy AccessToken.id :=
  fun _ _ held => normal.token_id found held

/-- Groups are filed under their identifiers. -/
theorem groups_filed (normal : account.IsNormal) :
    account.groups.FiledBy Group.id := by
  intro slot group found
  have same := Dict.mapValues_eq_self_iff.mp (isNormal_iff.mp normal).2.2.2.1
    slot group found
  exact (congrArg Group.id same).symm

/-- Routes are filed under their identifiers. -/
theorem routes_filed (normal : account.IsNormal) :
    account.routes.FiledBy Route.id := by
  intro slot route found
  have same := Dict.mapValues_eq_self_iff.mp (isNormal_iff.mp normal).2.2.2.2.1
    slot route found
  exact (congrArg Route.id same).symm

/-- Groups of name servers are filed under their identifiers. -/
theorem nameServerGroups_filed (normal : account.IsNormal) :
    account.nameServerGroups.FiledBy NameServerGroup.id := by
  intro slot group found
  have same := Dict.mapValues_eq_self_iff.mp (isNormal_iff.mp normal).2.2.2.2.2
    slot group found
  exact (congrArg NameServerGroup.id same).symm

/-- The token under a slot of a user names this user. -/
theorem token_userId
    (normal : account.IsNormal)
    {id slot : String}
    {user : User}
    {token : AccessToken}
    (found : account.users.get? id = some user)
    (held : user.tokens.get? slot = some token) :
    token.userId = user.id := by
  have tokens : user.tokens.mapValues (normalizeToken id) = user.tokens :=
    congrArg User.tokens (normal.user_eq found)
  rw [← Dict.mapValues_eq_self_iff.mp tokens slot token held, normal.user_id found]
  rfl

/-! ### Changes -/

/-- Changing a peer apart from its identifier keeps normal form. -/
theorem modifyPeer
    (normal : account.IsNormal)
    (id : String)
    {change : Peer → Peer}
    (sameId : ∀ peer, (change peer).id = peer.id) :
    ({ account with peers := account.peers.modify id change } : Account).IsNormal := by
  obtain ⟨setupKeys, peers, users, groups, routes, nameServerGroups⟩ :=
    isNormal_iff.mp normal
  refine isNormal_iff.mpr
    ⟨setupKeys, ?_, users, groups, routes, nameServerGroups⟩
  refine Dict.mapValues_modify_eq_self id peers ?_
  intro slot peer kept
  have idIsSlot : peer.id = slot := (congrArg Peer.id kept).symm
  show { change peer with id := slot } = change peer
  rw [← idIsSlot, ← sameId peer]

/-- Changing a user apart from its identifier and tokens keeps normal form. -/
theorem modifyUser
    (normal : account.IsNormal)
    (id : String)
    {change : User → User}
    (sameId : ∀ user, (change user).id = user.id)
    (sameTokens : ∀ user, (change user).tokens = user.tokens) :
    ({ account with users := account.users.modify id change } : Account).IsNormal := by
  obtain ⟨setupKeys, peers, users, groups, routes, nameServerGroups⟩ :=
    isNormal_iff.mp normal
  refine isNormal_iff.mpr
    ⟨setupKeys, peers, ?_, groups, routes, nameServerGroups⟩
  refine Dict.mapValues_modify_eq_self id users ?_
  intro slot user kept
  have idIsSlot : user.id = slot := (congrArg User.id kept).symm
  have tokensKept :
      user.tokens.mapValues (normalizeToken slot) = user.tokens :=
    congrArg User.tokens kept
  rw [normalizeUser, sameTokens user, tokensKept, ← sameTokens user,
    ← idIsSlot, ← sameId user]

end IsNormal

end Account

end TenantStore
