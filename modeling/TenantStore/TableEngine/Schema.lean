import TenantStore.Relational.Database

namespace TenantStore.TableEngine.Schema

/-!
# The schema of the table engine

One table for each kind of entity, a table with the single row of the
installation, and a table with the versions of the schema. Lists and records
inside an entity stand in text columns as JSON documents.
-/

open Relational (Column Reference Table Index)

/-! ## Kinds of columns -/

/-- The identifiers of the rows. -/
def identifier : Column where
  name := "id"
  affinity := .texts
  isUnique := true
  primary := true

/-- The identifiers of the rows, which are their numbers. -/
def rowNumber (name : String) : Column where
  name := name
  affinity := .numbers
  isUnique := true
  primary := true
  showsNumber := true

/-- The identifier of the entity that a row belongs to. -/
def owner (name : String) : Column where
  name := name
  affinity := .texts

/-- A text, empty by default. -/
def text (name : String) : Column where
  name := name
  affinity := .texts
  required := true
  default := .text ""

/-- A number or truth value, zero by default. -/
def number (name : String) : Column where
  name := name
  affinity := .numbers
  required := true
  default := .integer 0

/-- A JSON document. -/
def document (name : String) : Column where
  name := name
  affinity := .texts

/-- The entities of an account. -/
def ofAccount : List Reference :=
  [{ column := "account_id", table := "accounts" }]

/-! ## Tables -/

/-- One row for each account, with its network and its settings. -/
def accounts : Table where
  columns := [
    identifier, text "created_by", number "created_at", text "domain",
    text "domain_category", number "is_domain_primary_account",
    text "network_identifier", document "network_net", text "network_dns",
    number "network_serial", document "dns_settings", document "settings"]

/-- One row for each setup key. -/
def setupKeys : Table where
  columns := [
    identifier, owner "account_id", text "key", text "name", text "key_type",
    number "created_at", number "expires_at", number "updated_at",
    number "revoked", number "used_times", number "last_used",
    document "auto_groups", number "usage_limit", number "ephemeral"]
  references := ofAccount

/-- One row for each peer. An address or a document may be missing, a text or a number may not. -/
def peers : Table where
  columns := [
    identifier, owner "account_id", text "key", text "setup_key",
    document "ip", document "meta", text "name", text "dns_label",
    number "status_last_seen", number "status_connected",
    number "status_login_expired", text "user_id", text "ssh_key",
    number "ssh_enabled", number "login_expiration_enabled",
    number "last_login", document "location_connection_ip",
    text "location_country_code", text "location_city_name",
    number "location_geo_name_id"]
  references := ofAccount

/-- One row for each user. -/
def users : Table where
  columns := [
    identifier, owner "account_id", text "role", number "is_service_user",
    number "non_deletable", text "service_user_name", document "auto_groups",
    number "blocked", number "last_login", text "issued"]
  references := ofAccount

/-- One row for each token, which belongs to a user. -/
def tokens : Table where
  columns := [
    identifier, owner "user_id", text "name", text "hashed_token",
    number "expiration_date", text "created_by", number "created_at",
    number "last_used"]
  references := [{ column := "user_id", table := "users" }]

/-- One row for each group of peers. -/
def groups : Table where
  columns := [
    identifier, owner "account_id", text "name", text "issued",
    document "peers"]
  references := ofAccount

/-- One row for each policy. -/
def policies : Table where
  columns := [
    identifier, owner "account_id", text "name", text "description",
    number "enabled"]
  references := ofAccount

/-- One row for each rule, which belongs to a policy. -/
def policyRules : Table where
  columns := [
    identifier, owner "policy_id", text "name", text "description",
    number "enabled", text "action", document "destinations",
    document "sources", number "bidirectional", text "protocol",
    document "ports"]
  references := [{ column := "policy_id", table := "policies" }]

/-- One row for each route. -/
def routes : Table where
  columns := [
    identifier, owner "account_id", document "network", text "net_id",
    text "description", text "peer", document "peer_groups",
    number "network_type", number "masquerade", number "metric",
    number "enabled", document "groups"]
  references := ofAccount

/-- One row for each group of name servers. -/
def nameServerGroups : Table where
  columns := [
    identifier, owner "account_id", text "name", text "description",
    document "name_servers", document "groups", number "is_primary",
    document "domains", number "enabled", number "search_domains_enabled"]
  references := ofAccount

/-- A single row with the identifier of the installation. -/
def installations : Table where
  columns := [rowNumber "id", text "installation_id"]

/-- The tables, owners before what they own. -/
def tables : List (String × Table) := [
  ("accounts", accounts),
  ("setup_keys", setupKeys),
  ("peers", peers),
  ("users", users),
  ("personal_access_tokens", tokens),
  ("groups", groups),
  ("policies", policies),
  ("policy_rules", policyRules),
  ("routes", routes),
  ("name_server_groups", nameServerGroups),
  ("installations", installations)
]

/-- The versions that a database has reached. -/
def versions : Table where
  columns := [
    rowNumber "version",
    { name := "description", affinity := .texts, required := true },
    { name := "applied_at", affinity := .numbers, required := true }]

/-- The name of the table of versions. -/
def versionsName : String :=
  "schema_version"

/-! ## Indices -/

/-- The index by which no two peers of an account have one address. -/
def peerAddressIndex : String :=
  "idx_peers_account_id_ip"

/-- An index on one column. -/
def indexOn (table column : String) : Index where
  table := table
  columns := [column]

/-- The indices. -/
def indices : List (String × Index) := [
  ("idx_setup_keys_account_id", indexOn "setup_keys" "account_id"),
  ("idx_setup_keys_key", indexOn "setup_keys" "key"),
  ("idx_peers_account_id", indexOn "peers" "account_id"),
  ("idx_peers_key", indexOn "peers" "key"),
  (peerAddressIndex,
    { table := "peers", columns := ["account_id", "ip"], isUnique := true }),
  ("idx_users_account_id", indexOn "users" "account_id"),
  ("idx_pats_user_id", indexOn "personal_access_tokens" "user_id"),
  ("idx_pats_hashed_token", indexOn "personal_access_tokens" "hashed_token"),
  ("idx_groups_account_id", indexOn "groups" "account_id"),
  ("idx_policies_account_id", indexOn "policies" "account_id"),
  ("idx_policy_rules_policy_id", indexOn "policy_rules" "policy_id"),
  ("idx_routes_account_id", indexOn "routes" "account_id"),
  ("idx_name_server_groups_account_id",
    indexOn "name_server_groups" "account_id"),
  ("idx_accounts_domain", indexOn "accounts" "domain")
]

end TenantStore.TableEngine.Schema
