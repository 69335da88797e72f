import TenantStore.Account.Group
import TenantStore.Account.NameServer
import TenantStore.Account.Policy
import TenantStore.Account.Route
import TenantStore.Account.Settings
import TenantStore.Account.SetupKey
import TenantStore.DnsLabel
import TenantStore.Text.Case

namespace TenantStore

/-!
# Accounts

The account is the aggregate that a store keeps: everything that belongs to one
tenant. Peers, users, groups, routes and name server groups stand under their
identifiers, setup keys under the key itself.
-/

/-- Everything that belongs to one tenant. -/
structure Account where
  id : String := ""
  createdBy : String := ""
  createdAt : Timestamp := .zero
  domain : String := ""
  domainCategory : DomainCategory := .unset
  isDomainPrimary : Bool := false
  setupKeys : Dict SetupKey := ∅
  network : Network := {}
  peers : Dict Peer := ∅
  users : Dict User := ∅
  groups : Dict Group := ∅
  policies : List Policy := []
  routes : Dict Route := ∅
  nameServerGroups : Dict NameServerGroup := ∅
  dnsSettings : DnsSettings := {}
  /-- Absent only in accounts that were written before settings existed. -/
  settings : Option Settings := none
  deriving Repr, DecidableEq

namespace Account

instance : Inhabited Account :=
  ⟨{}⟩

/-- An account without entities, with the default settings. -/
def new (id createdBy domain : String) (now : Timestamp) : Account where
  id := id
  createdBy := createdBy
  createdAt := now
  domain := domain
  settings := some {}

/-- Whether the account is the one that its private domain leads to. -/
def ownsPrivateDomain (account : Account) : Bool :=
  account.isDomainPrimary && account.domainCategory = .privateDomain
    && !account.domain.isEmpty

/-- The built-in group of all peers. -/
def groupAll? (account : Account) : Option Group :=
  account.groups.find? Group.isAll

/-- The peer with a public key. -/
def peerByKey? (account : Account) (key : String) : Option Peer :=
  account.peers.find? (fun peer => peer.key = key)

/-- The setup key with a value, ignoring the case of ASCII letters. -/
def setupKey? (account : Account) (key : String) : Option SetupKey :=
  account.setupKeys.find? (fun stored => Text.equalIgnoringCase stored.key key)

/-- The user that holds a token. -/
def userByToken? (account : Account) (token : String) : Option User :=
  account.users.find? (fun user => user.tokens.contains token)

/-- The token with the identifier and user that it is filed under. -/
def normalizeToken (userId tokenId : String) (token : AccessToken) : AccessToken :=
  { token with id := tokenId, userId := userId }

/-- The user with the identifier that it is filed under. -/
def normalizeUser (userId : String) (user : User) : User :=
  { user with
    id := userId
    tokens := user.tokens.mapValues (normalizeToken userId) }

/-- Every entity with the identifier that it is filed under. -/
def normalized (account : Account) : Account :=
  { account with
    setupKeys := account.setupKeys.mapValues (fun key stored =>
      { stored with key := key })
    peers := account.peers.mapValues (fun id peer => { peer with id := id })
    users := account.users.mapValues normalizeUser
    groups := account.groups.mapValues (fun id group => { group with id := id })
    routes := account.routes.mapValues (fun id route => { route with id := id })
    nameServerGroups := account.nameServerGroups.mapValues (fun id group =>
      { group with id := id }) }

/-- The labels that peers of the account have. -/
def takenLabels (account : Account) : List String :=
  (account.peers.values.map Peer.dnsLabel).filter (fun label => !label.isEmpty)

/-- A label for a peer of some name that no peer of the account has. -/
def unusedLabel (account : Account) (name : String) : String :=
  DnsLabel.unused name account.takenLabels

/-- The fields in the order of declaration. -/
def fieldNames : List String :=
  ["id", "created_by", "created_at", "domain", "domain_category",
    "is_domain_primary_account", "setup_keys", "network", "peers", "users",
    "groups", "policies", "routes", "name_server_groups", "dns_settings",
    "settings"]

/-- An account is written with everything that it holds. -/
def toJson (account : Account) : Json :=
  .record [
    ("id", .text account.id),
    ("created_by", .text account.createdBy),
    ("created_at", account.createdAt.toJson),
    ("domain", .text account.domain),
    ("domain_category", .text account.domainCategory.name),
    ("is_domain_primary_account", .bool account.isDomainPrimary),
    ("setup_keys", .ofDict SetupKey.toJson account.setupKeys),
    ("network", account.network.toJson),
    ("peers", .ofDict Peer.toJson account.peers),
    ("users", .ofDict User.toJson account.users),
    ("groups", .ofDict Group.toJson account.groups),
    ("policies", .array (account.policies.map Policy.toJson)),
    ("routes", .ofDict Route.toJson account.routes),
    ("name_server_groups",
      .ofDict NameServerGroup.toJson account.nameServerGroups),
    ("dns_settings", account.dnsSettings.toJson),
    ("settings", .ofOption Settings.toJson account.settings)
  ]

/-- The account that a document spells. Fields that it lacks are those of an empty account. -/
def ofJson? (json : Json) : Option Account := do
  let fields ← json.fields? fieldNames
  some {
    id := ← fields.get "id" Json.text? ""
    createdBy := ← fields.get "created_by" Json.text? ""
    createdAt := ← fields.get "created_at" Timestamp.ofJson? .zero
    domain := ← fields.get "domain" Json.text? ""
    domainCategory := ←
      fields.get "domain_category" (Json.variant? DomainCategory.named) .unset
    isDomainPrimary := ←
      fields.get "is_domain_primary_account" Json.bool? false
    setupKeys := ← fields.get "setup_keys" (Json.dict? SetupKey.ofJson?) ∅
    network := ← fields.get "network" Network.ofJson? {}
    peers := ← fields.get "peers" (Json.dict? Peer.ofJson?) ∅
    users := ← fields.get "users" (Json.dict? User.ofJson?) ∅
    groups := ← fields.get "groups" (Json.dict? Group.ofJson?) ∅
    policies := ← fields.get "policies" (Json.list? Policy.ofJson?) []
    routes := ← fields.get "routes" (Json.dict? Route.ofJson?) ∅
    nameServerGroups := ←
      fields.get "name_server_groups" (Json.dict? NameServerGroup.ofJson?) ∅
    dnsSettings := ← fields.get "dns_settings" DnsSettings.ofJson? {}
    settings := ← fields.get "settings" (Json.option? Settings.ofJson?) none
  }

end Account

end TenantStore
