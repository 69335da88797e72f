import TenantStore.Account
import TenantStore.TableEngine.Cells

namespace TenantStore.TableEngine

/-!
# Entities as rows

For each kind of entity the cells that it is written to, and how it is read
back from a row. What an entity owns stands in rows of its own.
-/

open Relational (Cell Row)

/-- Cells under the names of their columns. -/
abbrev Cells := List (String × Cell)

/-! ## Accounts -/

/-- The cells of an account without what it owns. Its time of creation and the serial of its network
may not fit. -/
def accountCells (account : Account) : Except Problem Cells := do
  let createdAt ← timeCell account.createdAt
  let serial ← wideCell .networkSerial account.network.serial
  .ok [
    ("id", .text account.id),
    ("created_by", .text account.createdBy),
    ("created_at", createdAt),
    ("domain", .text account.domain),
    ("domain_category", .text account.domainCategory.name),
    ("is_domain_primary_account", .flag account.isDomainPrimary),
    ("network_identifier", .text account.network.identifier),
    ("network_net", documentCell (.text account.network.net)),
    ("network_dns", .text account.network.dns),
    ("network_serial", serial),
    ("dns_settings", documentCell account.dnsSettings.toJson),
    ("settings",
      match account.settings with
      | some settings => documentCell settings.toJson
      | none => .null)
  ]

/-- The account of a row, without the entities that it owns. -/
def readAccount (row : Row) : Option Account := do
  some {
    id := ← readText row "id"
    createdBy := ← readText row "created_by"
    createdAt := ← readTime row "created_at"
    domain := ← readText row "domain"
    domainCategory := .ofName (← readText row "domain_category")
    isDomainPrimary := ← readFlag row "is_domain_primary_account"
    network := {
      identifier := ← readText row "network_identifier"
      net := ← readDocument Json.text? "" row "network_net"
      dns := ← readText row "network_dns"
      serial := ← readWide row "network_serial"
    }
    dnsSettings := ← readDocument DnsSettings.ofJson? {} row "dns_settings"
    settings := ←
      readDocument (Json.option? Settings.ofJson?) none row "settings"
  }

/-! ## Setup keys -/

/-- The cells of a setup key of an account. Each of its four times may not fit. -/
def setupKeyCells (accountId : String) (key : SetupKey) : Except Problem Cells := do
  let createdAt ← timeCell key.createdAt
  let expiresAt ← timeCell key.expiresAt
  let updatedAt ← timeCell key.updatedAt
  let lastUsed ← timeCell key.lastUsed
  .ok [
    ("id", .text key.id),
    ("account_id", .text accountId),
    ("key", .text key.key),
    ("name", .text key.name),
    ("key_type", .text key.kind.name),
    ("created_at", createdAt),
    ("expires_at", expiresAt),
    ("updated_at", updatedAt),
    ("revoked", .flag key.revoked),
    ("used_times", shortCell key.usedTimes),
    ("last_used", lastUsed),
    ("auto_groups", documentCell (.texts key.autoGroups)),
    ("usage_limit", shortCell key.usageLimit),
    ("ephemeral", .flag key.ephemeral)
  ]

/-- The setup key of a row; a type that is not known is that of a reusable key. -/
def readSetupKey (row : Row) : Option SetupKey := do
  some {
    id := ← readText row "id"
    key := ← readText row "key"
    name := ← readText row "name"
    kind := .ofName (← readText row "key_type")
    createdAt := ← readTime row "created_at"
    expiresAt := ← readTime row "expires_at"
    updatedAt := ← readTime row "updated_at"
    revoked := ← readFlag row "revoked"
    usedTimes := ← readShort row "used_times"
    lastUsed := ← readTime row "last_used"
    autoGroups := ← readTexts row "auto_groups"
    usageLimit := ← readShort row "usage_limit"
    ephemeral := ← readFlag row "ephemeral"
  }

/-! ## Peers -/

/-- The cells of a peer's location. -/
def locationCells (location : Location) : Cells := [
  ("location_connection_ip",
    documentCell (.ofOption Address.toJson location.connectionIp)),
  ("location_country_code", .text location.countryCode),
  ("location_city_name", .text location.cityName),
  ("location_geo_name_id", shortCell location.geoNameId)
]

/-- The cells of a peer's status. -/
def statusCells (status : PeerStatus) : Except Problem Cells := do
  let lastSeen ← timeCell status.lastSeen
  .ok [
    ("status_last_seen", lastSeen),
    ("status_connected", .flag status.connected),
    ("status_login_expired", .flag status.loginExpired)
  ]

/-- The cells of a peer of an account, its status and location in columns of their own. -/
def peerCells (accountId : String) (peer : Peer) : Except Problem Cells := do
  let status ← statusCells peer.status
  let lastLogin ← timeCell peer.lastLogin
  .ok ([
    ("id", .text peer.id),
    ("account_id", .text accountId),
    ("key", .text peer.key),
    ("setup_key", .text peer.setupKey),
    ("ip", documentCell peer.ip.toJson),
    ("meta", documentCell peer.systemMeta.toJson),
    ("name", .text peer.name),
    ("dns_label", .text peer.dnsLabel),
    ("user_id", .text peer.userId),
    ("ssh_key", .text peer.sshKey),
    ("ssh_enabled", .flag peer.sshEnabled),
    ("login_expiration_enabled", .flag peer.loginExpirationEnabled),
    ("last_login", lastLogin)
  ] ++ status ++ locationCells peer.location)

/-- A peer's status, from the columns that begin with its name. -/
def readStatus (row : Row) : Option PeerStatus := do
  some {
    lastSeen := ← readTime row "status_last_seen"
    connected := ← readFlag row "status_connected"
    loginExpired := ← readFlag row "status_login_expired"
  }

/-- A peer's location, from the columns that begin with its name. -/
def readLocation (row : Row) : Option Location := do
  some {
    connectionIp := ←
      readDocument (Json.option? Address.ofJson?) none row
        "location_connection_ip"
    countryCode := ← readText row "location_country_code"
    cityName := ← readText row "location_city_name"
    geoNameId := ← readShort row "location_geo_name_id"
  }

/-- The address of a peer; an absent one is unspecified. -/
def readPeerAddress (row : Row) : Option Address :=
  (readDocument (Json.option? Address.ofJson?) none row "ip").map
    (·.getD .unspecified)

/-- The peer of a row. -/
def readPeer (row : Row) : Option Peer := do
  some {
    id := ← readText row "id"
    key := ← readText row "key"
    setupKey := ← readText row "setup_key"
    ip := ← readPeerAddress row
    systemMeta := ← readDocument SystemMeta.ofJson? {} row "meta"
    name := ← readText row "name"
    dnsLabel := ← readText row "dns_label"
    status := ← readStatus row
    userId := ← readText row "user_id"
    sshKey := ← readText row "ssh_key"
    sshEnabled := ← readFlag row "ssh_enabled"
    loginExpirationEnabled := ← readFlag row "login_expiration_enabled"
    lastLogin := ← readTime row "last_login"
    location := ← readLocation row
  }

/-! ## Users and tokens -/

/-- The cells of a user of an account, without the tokens. -/
def userCells (accountId : String) (user : User) : Except Problem Cells := do
  let lastLogin ← timeCell user.lastLogin
  .ok [
    ("id", .text user.id),
    ("account_id", .text accountId),
    ("role", .text user.role.name),
    ("is_service_user", .flag user.isServiceUser),
    ("non_deletable", .flag user.nonDeletable),
    ("service_user_name", .text user.serviceUserName),
    ("auto_groups", documentCell (.texts user.autoGroups)),
    ("blocked", .flag user.blocked),
    ("last_login", lastLogin),
    ("issued", .text user.issued)
  ]

/-- The user of a row, without tokens. -/
def readUser (row : Row) : Option User := do
  some {
    id := ← readText row "id"
    role := .ofName (← readText row "role")
    isServiceUser := ← readFlag row "is_service_user"
    nonDeletable := ← readFlag row "non_deletable"
    serviceUserName := ← readText row "service_user_name"
    autoGroups := ← readTexts row "auto_groups"
    blocked := ← readFlag row "blocked"
    lastLogin := ← readTime row "last_login"
    issued := ← readText row "issued"
  }

/-- The cells of a token of a user. The row names that user, whatever the token says. -/
def tokenCells (userId : String) (token : AccessToken) : Except Problem Cells := do
  let expirationDate ← timeCell token.expirationDate
  let createdAt ← timeCell token.createdAt
  let lastUsed ← timeCell token.lastUsed
  .ok [
    ("id", .text token.id),
    ("user_id", .text userId),
    ("name", .text token.name),
    ("hashed_token", .text token.hashedToken),
    ("expiration_date", expirationDate),
    ("created_by", .text token.createdBy),
    ("created_at", createdAt),
    ("last_used", lastUsed)
  ]

/-- The token of a row, with the user that the row names. -/
def readToken (row : Row) : Option AccessToken := do
  some {
    id := ← readText row "id"
    userId := ← readText row "user_id"
    name := ← readText row "name"
    hashedToken := ← readText row "hashed_token"
    expirationDate := ← readTime row "expiration_date"
    createdBy := ← readText row "created_by"
    createdAt := ← readTime row "created_at"
    lastUsed := ← readTime row "last_used"
  }

/-! ## Groups -/

/-- The cells of a group of an account. -/
def groupCells (accountId : String) (group : Group) : Cells := [
  ("id", .text group.id),
  ("account_id", .text accountId),
  ("name", .text group.name),
  ("issued", .text group.issued),
  ("peers", documentCell (.texts group.peers))
]

/-- The group of a row. -/
def readGroup (row : Row) : Option Group := do
  some {
    id := ← readText row "id"
    name := ← readText row "name"
    issued := ← readText row "issued"
    peers := ← readTexts row "peers"
  }

/-! ## Policies and rules -/

/-- The cells of a policy of an account, without the rules. -/
def policyCells (accountId : String) (policy : Policy) : Cells := [
  ("id", .text policy.id),
  ("account_id", .text accountId),
  ("name", .text policy.name),
  ("description", .text policy.description),
  ("enabled", .flag policy.enabled)
]

/-- The policy of a row, without rules. -/
def readPolicy (row : Row) : Option Policy := do
  some {
    id := ← readText row "id"
    name := ← readText row "name"
    description := ← readText row "description"
    enabled := ← readFlag row "enabled"
  }

/-- The cells of a rule of a policy. The row names that policy, whatever the rule says. -/
def ruleCells (policyId : String) (rule : PolicyRule) : Cells := [
  ("id", .text rule.id),
  ("policy_id", .text policyId),
  ("name", .text rule.name),
  ("description", .text rule.description),
  ("enabled", .flag rule.enabled),
  ("action", .text rule.action.name),
  ("destinations", documentCell (.texts rule.destinations)),
  ("sources", documentCell (.texts rule.sources)),
  ("bidirectional", .flag rule.bidirectional),
  ("protocol", .text rule.protocol.name),
  ("ports", documentCell (.texts rule.ports))
]

/-- The rule of a row, with the policy that the row names. -/
def readRule (row : Row) : Option PolicyRule := do
  some {
    id := ← readText row "id"
    policyId := ← readText row "policy_id"
    name := ← readText row "name"
    description := ← readText row "description"
    enabled := ← readFlag row "enabled"
    action := .ofName (← readText row "action")
    destinations := ← readTexts row "destinations"
    sources := ← readTexts row "sources"
    bidirectional := ← readFlag row "bidirectional"
    protocol := .ofName (← readText row "protocol")
    ports := ← readTexts row "ports"
  }

/-! ## Routes -/

/-- The cells of a route of an account; the family of its network is a number. -/
def routeCells (accountId : String) (route : Route) : Cells := [
  ("id", .text route.id),
  ("account_id", .text accountId),
  ("network", documentCell (.text route.network)),
  ("net_id", .text route.netId),
  ("description", .text route.description),
  ("peer", .text route.peer),
  ("peer_groups", documentCell (.texts route.peerGroups)),
  ("network_type", .integer route.family.code),
  ("masquerade", .flag route.masquerade),
  ("metric", .integer route.metric.toInt),
  ("enabled", .flag route.enabled),
  ("groups", documentCell (.texts route.groups))
]

/-- The route of a row. -/
def readRoute (row : Row) : Option Route := do
  some {
    id := ← readText row "id"
    network := ← readDocument Json.text? "" row "network"
    netId := ← readText row "net_id"
    description := ← readText row "description"
    peer := ← readText row "peer"
    peerGroups := ← readTexts row "peer_groups"
    family := .ofCode (← readInteger row "network_type")
    masquerade := ← readFlag row "masquerade"
    metric := .ofInt (← readInteger row "metric")
    enabled := ← readFlag row "enabled"
    groups := ← readTexts row "groups"
  }

/-! ## Name server groups -/

/-- The cells of a group of name servers, whose servers are one document. -/
def nameServerGroupCells (accountId : String) (group : NameServerGroup) : Cells := [
  ("id", .text group.id),
  ("account_id", .text accountId),
  ("name", .text group.name),
  ("description", .text group.description),
  ("name_servers",
    documentCell (.array (group.nameServers.map NameServer.toJson))),
  ("groups", documentCell (.texts group.groups)),
  ("is_primary", .flag group.primary),
  ("domains", documentCell (.texts group.domains)),
  ("enabled", .flag group.enabled),
  ("search_domains_enabled", .flag group.searchDomainsEnabled)
]

/-- The group of name servers of a row. -/
def readNameServerGroup (row : Row) : Option NameServerGroup := do
  some {
    id := ← readText row "id"
    name := ← readText row "name"
    description := ← readText row "description"
    nameServers := ←
      readDocument (Json.list? NameServer.ofJson?) [] row "name_servers"
    groups := ← readTexts row "groups"
    primary := ← readFlag row "is_primary"
    domains := ← readTexts row "domains"
    enabled := ← readFlag row "enabled"
    searchDomainsEnabled := ← readFlag row "search_domains_enabled"
  }

end TenantStore.TableEngine
