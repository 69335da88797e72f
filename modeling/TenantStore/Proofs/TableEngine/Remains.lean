import TenantStore.Proofs.AccountDocuments
import TenantStore.Proofs.Json.Portions
import TenantStore.Proofs.TableEngine.Kinds

namespace TenantStore.TableEngine

/-!
# What remains of entities

The document of an entity that was written before some of the columns existed
has just the fields of the columns that were there. Reading it gives what
remains of the entity when the values of the missing columns are replaced by
the defaults of its type (`Kind.ofJson?_portion`).
-/

/-! ## Documents of entities -/

namespace Kind

/-- How an entity is written to a document. -/
def toJson : (kind : Kind) → kind.Value → Json
  | .account => Account.toJson
  | .setupKey => SetupKey.toJson
  | .peer => Peer.toJson
  | .user => User.toJson
  | .token => AccessToken.toJson
  | .group => Group.toJson
  | .policy => Policy.toJson
  | .rule => PolicyRule.toJson
  | .route => Route.toJson
  | .nameServerGroup => NameServerGroup.toJson

/-- How an entity is read from a document. -/
def ofJson? : (kind : Kind) → Json → Option kind.Value
  | .account => Account.ofJson?
  | .setupKey => SetupKey.ofJson?
  | .peer => Peer.ofJson?
  | .user => User.ofJson?
  | .token => AccessToken.ofJson?
  | .group => Group.ofJson?
  | .policy => Policy.ofJson?
  | .rule => PolicyRule.ofJson?
  | .route => Route.ofJson?
  | .nameServerGroup => NameServerGroup.ofJson?

/-- The fields that stand in several columns, one for each field inside them. -/
def nested : Kind → List String
  | .account => ["network"]
  | .peer => ["status", "location"]
  | _ => []

/-- The column that a field stands in. -/
def columnOf (kind : Kind) (field : String) : String :=
  if kind = .nameServerGroup ∧ field = "primary" then "is_primary" else field

/-- The column that a field inside another one stands in. -/
def innerColumn (field inner : String) : String :=
  field ++ "_" ++ inner

/-- What is kept of a field inside another one when only some columns are there. -/
def chooseInner (present : String → Bool) (field inner : String) (json : Json) :
    Option Json :=
  if present (innerColumn field inner) then some json else none

/-- What is kept of a field when only some columns are there. -/
def choose (kind : Kind) (present : String → Bool) (field : String) (json : Json) :
    Option Json :=
  if field ∈ kind.nested then
    (json.pick (chooseInner present field)).unlessEmpty
  else if present (kind.columnOf field) then
    some json
  else
    none

/-- The document of an entity with just the fields whose columns are there. -/
def portion (kind : Kind) (present : String → Bool) (value : kind.Value) : Json :=
  (kind.toJson value).pick (kind.choose present)

end Kind

/-! ## Defaults in place of missing values -/

section Kept

variable (present : String → Bool)

/-- A value whose column is there, or else the default. -/
def kept (column : String) (value default : α) : α :=
  if present column then value else default

section Value

variable {present} {column : String}

/-- A value stays if its column is there. -/
theorem kept_eq_value (stands : present column = true) (value default : α) :
    kept present column value default = value :=
  if_pos stands

/-- A value that is its own default is the same with and without its column. -/
@[simp] theorem kept_self (value : α) : kept present column value value = value :=
  ite_self value

/-- Both sides of a choice were found, so the choice was. -/
@[simp] theorem kept_some (value default : α) :
    kept present column (some value) (some default) = some (kept present column value default) :=
  (apply_ite some ..).symm

/-- What is computed from a value or a default is computed from either. -/
theorem apply_kept (f : α → β) (value default : α) :
    f (kept present column value default) = kept present column (f value) (f default) :=
  apply_ite f ..

end Value

/-- What remains of a network. -/
def keptNetwork (network : Network) : Network where
  identifier := kept present "network_identifier" network.identifier ""
  net := kept present "network_net" network.net ""
  dns := kept present "network_dns" network.dns ""
  serial := kept present "network_serial" network.serial 0

/-- What remains of an account without the entities that it owns. -/
def keptAccount (account : Account) : Account where
  id := account.id
  createdBy := kept present "created_by" account.createdBy ""
  createdAt := kept present "created_at" account.createdAt .zero
  domain := kept present "domain" account.domain ""
  domainCategory := kept present "domain_category" account.domainCategory .unset
  isDomainPrimary := kept present "is_domain_primary_account" account.isDomainPrimary false
  network := keptNetwork present account.network
  dnsSettings := kept present "dns_settings" account.dnsSettings {}
  settings := kept present "settings" account.settings none

/-- What remains of a setup key. -/
def keptSetupKey (key : SetupKey) : SetupKey where
  id := key.id
  key := kept present "key" key.key ""
  name := kept present "name" key.name ""
  kind := kept present "key_type" key.kind .reusable
  createdAt := kept present "created_at" key.createdAt .zero
  expiresAt := kept present "expires_at" key.expiresAt .zero
  updatedAt := kept present "updated_at" key.updatedAt .zero
  revoked := kept present "revoked" key.revoked false
  usedTimes := kept present "used_times" key.usedTimes 0
  lastUsed := kept present "last_used" key.lastUsed .zero
  autoGroups := kept present "auto_groups" key.autoGroups []
  usageLimit := kept present "usage_limit" key.usageLimit 0
  ephemeral := kept present "ephemeral" key.ephemeral false

/-- What remains of a peer's status. -/
def keptStatus (status : PeerStatus) : PeerStatus where
  lastSeen := kept present "status_last_seen" status.lastSeen .zero
  connected := kept present "status_connected" status.connected false
  loginExpired := kept present "status_login_expired" status.loginExpired false

/-- What remains of a peer's location. -/
def keptLocation (location : Location) : Location where
  connectionIp := kept present "location_connection_ip" location.connectionIp none
  countryCode := kept present "location_country_code" location.countryCode ""
  cityName := kept present "location_city_name" location.cityName ""
  geoNameId := kept present "location_geo_name_id" location.geoNameId 0

/-- What remains of a peer, its status and its location in parts. -/
def keptPeer (peer : Peer) : Peer where
  id := peer.id
  key := kept present "key" peer.key ""
  setupKey := kept present "setup_key" peer.setupKey ""
  ip := kept present "ip" peer.ip .unspecified
  systemMeta := kept present "meta" peer.systemMeta {}
  name := kept present "name" peer.name ""
  dnsLabel := kept present "dns_label" peer.dnsLabel ""
  status := keptStatus present peer.status
  userId := kept present "user_id" peer.userId ""
  sshKey := kept present "ssh_key" peer.sshKey ""
  sshEnabled := kept present "ssh_enabled" peer.sshEnabled false
  loginExpirationEnabled :=
    kept present "login_expiration_enabled" peer.loginExpirationEnabled false
  lastLogin := kept present "last_login" peer.lastLogin .zero
  location := keptLocation present peer.location

/-- What remains of a user without the tokens. -/
def keptUser (user : User) : User where
  id := user.id
  role := kept present "role" user.role .user
  isServiceUser := kept present "is_service_user" user.isServiceUser false
  nonDeletable := kept present "non_deletable" user.nonDeletable false
  serviceUserName := kept present "service_user_name" user.serviceUserName ""
  autoGroups := kept present "auto_groups" user.autoGroups []
  blocked := kept present "blocked" user.blocked false
  lastLogin := kept present "last_login" user.lastLogin .zero
  issued := kept present "issued" user.issued ""

/-- What remains of a token. Its owner is known from the row. -/
def keptToken (token : AccessToken) : AccessToken where
  id := token.id
  userId := token.userId
  name := kept present "name" token.name ""
  hashedToken := kept present "hashed_token" token.hashedToken ""
  expirationDate := kept present "expiration_date" token.expirationDate .zero
  createdBy := kept present "created_by" token.createdBy ""
  createdAt := kept present "created_at" token.createdAt .zero
  lastUsed := kept present "last_used" token.lastUsed .zero

/-- What remains of a group. -/
def keptGroup (group : Group) : Group where
  id := group.id
  name := kept present "name" group.name ""
  issued := kept present "issued" group.issued ""
  peers := kept present "peers" group.peers []

/-- What remains of a policy without the rules. -/
def keptPolicy (policy : Policy) : Policy where
  id := policy.id
  name := kept present "name" policy.name ""
  description := kept present "description" policy.description ""
  enabled := kept present "enabled" policy.enabled false

/-- What remains of a rule. Its policy is known from the row. -/
def keptRule (rule : PolicyRule) : PolicyRule where
  id := rule.id
  policyId := rule.policyId
  name := kept present "name" rule.name ""
  description := kept present "description" rule.description ""
  enabled := kept present "enabled" rule.enabled false
  action := kept present "action" rule.action .accept
  destinations := kept present "destinations" rule.destinations []
  sources := kept present "sources" rule.sources []
  bidirectional := kept present "bidirectional" rule.bidirectional false
  protocol := kept present "protocol" rule.protocol .unset
  ports := kept present "ports" rule.ports []

/-- What remains of a route. -/
def keptRoute (route : Route) : Route where
  id := route.id
  network := kept present "network" route.network ""
  netId := kept present "net_id" route.netId ""
  description := kept present "description" route.description ""
  peer := kept present "peer" route.peer ""
  peerGroups := kept present "peer_groups" route.peerGroups []
  family := kept present "network_type" route.family .invalid
  masquerade := kept present "masquerade" route.masquerade false
  metric := kept present "metric" route.metric 0
  enabled := kept present "enabled" route.enabled false
  groups := kept present "groups" route.groups []

/-- What remains of a group of name servers. The column of `primary` has another name. -/
def keptNameServerGroup (group : NameServerGroup) : NameServerGroup where
  id := group.id
  name := kept present "name" group.name ""
  description := kept present "description" group.description ""
  nameServers := kept present "name_servers" group.nameServers []
  groups := kept present "groups" group.groups []
  primary := kept present "is_primary" group.primary false
  domains := kept present "domains" group.domains []
  enabled := kept present "enabled" group.enabled false
  searchDomainsEnabled :=
    kept present "search_domains_enabled" group.searchDomainsEnabled false

/-- An entity with defaults in place of what the missing columns would hold. -/
def Kind.remains : (kind : Kind) → kind.Value → kind.Value
  | .account => keptAccount present
  | .setupKey => keptSetupKey present
  | .peer => keptPeer present
  | .user => keptUser present
  | .token => keptToken present
  | .group => keptGroup present
  | .policy => keptPolicy present
  | .rule => keptRule present
  | .route => keptRoute present
  | .nameServerGroup => keptNameServerGroup present

end Kept

/-! ## Reading parts of documents -/

section Reading

variable {owner : String} {present : String → Bool}

/-- A field without fields inside it is read if its column is there. -/
@[simp] theorem elim_choose
    {kind : Kind}
    {field : String}
    (flat : field ∉ kind.nested)
    (json : Json)
    (default : Option α)
    (read : Json → Option α) :
    (kind.choose present field json).elim default read =
      kept present (kind.columnOf field) (read json) default := by
  rw [Kind.choose, if_neg flat, Json.elim_ite, kept]

/-- What is left of a field with fields inside it is read in place of the whole. -/
theorem elim_choose_nested
    {kind : Kind}
    {field : String}
    (isNested : field ∈ kind.nested)
    {read : Json → Option α}
    {default : α}
    (empty : read (.object []) = some default)
    (json : Json) :
    (kind.choose present field json).elim (some default) read =
      read (json.pick (Kind.chooseInner present field)) := by
  rw [Kind.choose, if_pos isNested, Json.elim_unlessEmpty empty]

/-- A field inside another one is read if its own column is there. -/
@[simp] theorem elim_chooseInner
    (field inner : String)
    (json : Json)
    (default : Option α)
    (read : Json → Option α) :
    (Kind.chooseInner present field inner json).elim default read =
      kept present (Kind.innerColumn field inner) (read json) default := by
  rw [Kind.chooseInner, Json.elim_ite, kept]

/-- A network is read from the fields of its columns. -/
@[simp] theorem ofJson?_network (network : Network) :
    Network.ofJson? (network.toJson.pick (Kind.chooseInner present "network")) =
      some (keptNetwork present network) := by
  obtain ⟨fields, fields_eq, get_eq⟩ :=
    @Json.exists_fields_pick (Kind.chooseInner present "network") Network.fieldNames
      network.toJson _ rfl rfl (by decide)
  rw [Network.ofJson?, fields_eq]
  simp [↓Json.bind_eq_match, get_eq, List.lookup_cons, Kind.innerColumn, keptNetwork]

/-- A status is read from the fields of its columns. -/
@[simp] theorem ofJson?_status (status : PeerStatus) :
    PeerStatus.ofJson? (status.toJson.pick (Kind.chooseInner present "status")) =
      some (keptStatus present status) := by
  obtain ⟨fields, fields_eq, get_eq⟩ :=
    @Json.exists_fields_pick (Kind.chooseInner present "status") PeerStatus.fieldNames
      status.toJson _ rfl rfl (by decide)
  rw [PeerStatus.ofJson?, fields_eq]
  simp [↓Json.bind_eq_match, get_eq, List.lookup_cons, Kind.innerColumn, keptStatus]

/-- A location is read from the fields of its columns. -/
@[simp] theorem ofJson?_location (location : Location) :
    Location.ofJson? (location.toJson.pick (Kind.chooseInner present "location")) =
      some (keptLocation present location) := by
  obtain ⟨fields, fields_eq, get_eq⟩ :=
    @Json.exists_fields_pick (Kind.chooseInner present "location") Location.fieldNames
      location.toJson _ rfl rfl (by decide)
  rw [Location.ofJson?, fields_eq]
  simp [↓Json.bind_eq_match, get_eq, List.lookup_cons, Kind.innerColumn, keptLocation]

/-- The entities that an account owns have no columns, so the document is read without them. -/
theorem ofJson?_portion_account
    (identified : present "id" = true)
    (account : Account) :
    Account.ofJson? (Kind.account.portion present (Kind.account.kept owner account)) =
      some (keptAccount present account) := by
  have network := @elim_choose_nested present _ .account "network" (by decide)
    Network.ofJson? {} rfl
  obtain ⟨fields, fields_eq, get_eq⟩ :=
    @Json.exists_fields_pick (Kind.account.choose present) Account.fieldNames
      (Kind.account.kept owner account).toJson _ rfl rfl (by decide)
  rw [Account.ofJson?, Kind.portion, Kind.toJson, fields_eq]
  simp [↓Json.bind_eq_match, get_eq, List.lookup_cons, Kind.nested, Kind.columnOf, network,
    kept_eq_value identified, Kind.kept, keptAccount]

/-- Every field of a setup key has a column of the same name. -/
theorem ofJson?_portion_setupKey
    (identified : present "id" = true)
    (key : SetupKey) :
    SetupKey.ofJson? (Kind.setupKey.portion present key) = some (keptSetupKey present key) := by
  obtain ⟨fields, fields_eq, get_eq⟩ :=
    @Json.exists_fields_pick (Kind.setupKey.choose present) SetupKey.fieldNames
      key.toJson _ rfl rfl (by decide)
  rw [SetupKey.ofJson?, Kind.portion, Kind.toJson, fields_eq]
  simp [↓Json.bind_eq_match, get_eq, List.lookup_cons, Kind.nested, Kind.columnOf,
    kept_eq_value identified, keptSetupKey]

/-- Status and location are read from what is left of them, even if that is nothing. -/
theorem ofJson?_portion_peer
    (identified : present "id" = true)
    (peer : Peer) :
    Peer.ofJson? (Kind.peer.portion present peer) = some (keptPeer present peer) := by
  have status := @elim_choose_nested present _ .peer "status" (by decide)
    PeerStatus.ofJson? {} rfl
  have location := @elim_choose_nested present _ .peer "location" (by decide)
    Location.ofJson? {} rfl
  obtain ⟨fields, fields_eq, get_eq⟩ :=
    @Json.exists_fields_pick (Kind.peer.choose present) Peer.fieldNames
      peer.toJson _ rfl rfl (by decide)
  rw [Peer.ofJson?, Kind.portion, Kind.toJson, fields_eq]
  simp [↓Json.bind_eq_match, get_eq, List.lookup_cons, Kind.nested, Kind.columnOf, status,
    location, kept_eq_value identified, keptPeer]

/-- The tokens of a user have no column, so the document is read without them. -/
theorem ofJson?_portion_user
    (identified : present "id" = true)
    (user : User) :
    User.ofJson? (Kind.user.portion present (Kind.user.kept owner user)) =
      some (keptUser present user) := by
  obtain ⟨fields, fields_eq, get_eq⟩ :=
    @Json.exists_fields_pick (Kind.user.choose present) User.fieldNames
      (Kind.user.kept owner user).toJson _ rfl rfl (by decide)
  rw [User.ofJson?, Kind.portion, Kind.toJson, fields_eq]
  simp [↓Json.bind_eq_match, get_eq, List.lookup_cons, Kind.nested, Kind.columnOf,
    kept_eq_value identified, Kind.kept, keptUser]

/-- A token keeps the user that it belongs to. -/
theorem ofJson?_portion_token
    (identified : present "id" = true)
    (owned : present "user_id" = true)
    (token : AccessToken) :
    AccessToken.ofJson? (Kind.token.portion present token) = some (keptToken present token) := by
  obtain ⟨fields, fields_eq, get_eq⟩ :=
    @Json.exists_fields_pick (Kind.token.choose present) AccessToken.fieldNames
      token.toJson _ rfl rfl (by decide)
  rw [AccessToken.ofJson?, Kind.portion, Kind.toJson, fields_eq]
  simp [↓Json.bind_eq_match, get_eq, List.lookup_cons, Kind.nested, Kind.columnOf,
    kept_eq_value owned, kept_eq_value identified, keptToken]

/-- Every field of a group has a column of the same name. -/
theorem ofJson?_portion_group
    (identified : present "id" = true)
    (group : Group) :
    Group.ofJson? (Kind.group.portion present group) = some (keptGroup present group) := by
  obtain ⟨fields, fields_eq, get_eq⟩ :=
    @Json.exists_fields_pick (Kind.group.choose present) Group.fieldNames
      group.toJson _ rfl rfl (by decide)
  rw [Group.ofJson?, Kind.portion, Kind.toJson, fields_eq]
  simp [↓Json.bind_eq_match, get_eq, List.lookup_cons, Kind.nested, Kind.columnOf,
    kept_eq_value identified, keptGroup]

/-- The rules of a policy have no column, so the document is read without them. -/
theorem ofJson?_portion_policy
    (identified : present "id" = true)
    (policy : Policy) :
    Policy.ofJson? (Kind.policy.portion present (Kind.policy.kept owner policy)) =
      some (keptPolicy present policy) := by
  obtain ⟨fields, fields_eq, get_eq⟩ :=
    @Json.exists_fields_pick (Kind.policy.choose present) Policy.fieldNames
      (Kind.policy.kept owner policy).toJson _ rfl rfl (by decide)
  rw [Policy.ofJson?, Kind.portion, Kind.toJson, fields_eq]
  simp [↓Json.bind_eq_match, get_eq, List.lookup_cons, Kind.nested, Kind.columnOf,
    kept_eq_value identified, Kind.kept, keptPolicy]

/-- A rule keeps the policy that it belongs to. -/
theorem ofJson?_portion_rule
    (identified : present "id" = true)
    (owned : present "policy_id" = true)
    (rule : PolicyRule) :
    PolicyRule.ofJson? (Kind.rule.portion present rule) = some (keptRule present rule) := by
  obtain ⟨fields, fields_eq, get_eq⟩ :=
    @Json.exists_fields_pick (Kind.rule.choose present) PolicyRule.fieldNames
      rule.toJson _ rfl rfl (by decide)
  rw [PolicyRule.ofJson?, Kind.portion, Kind.toJson, fields_eq]
  simp [↓Json.bind_eq_match, get_eq, List.lookup_cons, Kind.nested, Kind.columnOf,
    kept_eq_value owned, kept_eq_value identified, keptRule]

/-- A family is named in the document and numbered in the row. -/
theorem ofJson?_portion_route
    (identified : present "id" = true)
    (route : Route) :
    Route.ofJson? (Kind.route.portion present route) = some (keptRoute present route) := by
  obtain ⟨fields, fields_eq, get_eq⟩ :=
    @Json.exists_fields_pick (Kind.route.choose present) Route.fieldNames
      route.toJson _ rfl rfl (by decide)
  rw [Route.ofJson?, Kind.portion, Kind.toJson, fields_eq]
  simp [↓Json.bind_eq_match, get_eq, List.lookup_cons, Kind.nested, Kind.columnOf,
    kept_eq_value identified, keptRoute]

/-- Whether a group is primary stands in a column of another name. -/
theorem ofJson?_portion_nameServerGroup
    (identified : present "id" = true)
    (group : NameServerGroup) :
    NameServerGroup.ofJson? (Kind.nameServerGroup.portion present group) =
      some (keptNameServerGroup present group) := by
  obtain ⟨fields, fields_eq, get_eq⟩ :=
    @Json.exists_fields_pick (Kind.nameServerGroup.choose present) NameServerGroup.fieldNames
      group.toJson _ rfl rfl (by decide)
  rw [NameServerGroup.ofJson?, Kind.portion, Kind.toJson, fields_eq]
  simp [↓Json.bind_eq_match, get_eq, List.lookup_cons, Kind.nested, Kind.columnOf,
    kept_eq_value identified, keptNameServerGroup]

/-- The document with the fields of the columns that are there is read as what remains of the
entity. -/
theorem Kind.ofJson?_portion
    {kind : Kind}
    (identified : present "id" = true)
    (owned : kind ≠ .account → present kind.ownerColumn = true)
    (owner : String)
    (value : kind.Value) :
    kind.ofJson? (kind.portion present (kind.kept owner value)) =
      some (kind.remains present (kind.kept owner value)) := by
  cases kind with
  | account => exact ofJson?_portion_account identified value
  | setupKey => exact ofJson?_portion_setupKey identified value
  | peer => exact ofJson?_portion_peer identified value
  | user => exact ofJson?_portion_user identified value
  | token => exact ofJson?_portion_token identified (owned (by decide)) _
  | group => exact ofJson?_portion_group identified value
  | policy => exact ofJson?_portion_policy identified value
  | rule => exact ofJson?_portion_rule identified (owned (by decide)) _
  | route => exact ofJson?_portion_route identified value
  | nameServerGroup => exact ofJson?_portion_nameServerGroup identified value

end Reading

end TenantStore.TableEngine
