import TenantStore.Account.Peer

namespace TenantStore

/-!
# Name servers

A name server group is a list of servers that the peers of some groups are
told to ask, for every name or for the names of some domains.
-/

/-- How a name server is asked. -/
inductive NameServerKind where
  | udp
  deriving Repr, DecidableEq

namespace NameServerKind

/-- The name of the kind in files. -/
def name : NameServerKind → String
  | .udp => "udp"

/-- The kinds under their names. -/
def named : List (String × NameServerKind) :=
  [("udp", .udp)]

end NameServerKind

/-- A name server. It has no default address and no default port. -/
structure NameServer where
  ip : Address
  kind : NameServerKind := .udp
  port : UInt16
  deriving Repr, DecidableEq

/-- Name servers for the peers of some groups. -/
structure NameServerGroup where
  id : String := ""
  name : String := ""
  description : String := ""
  nameServers : List NameServer := []
  groups : List String := []
  primary : Bool := false
  domains : List String := []
  enabled : Bool := false
  searchDomainsEnabled : Bool := false
  deriving Repr, DecidableEq

namespace NameServer

/-- The fields in the order of declaration. -/
def fieldNames : List String :=
  ["ip", "ns_type", "port"]

/-- A name server with the way it is asked. -/
def toJson (server : NameServer) : Json :=
  .record [
    ("ip", server.ip.toJson),
    ("ns_type", .text server.kind.name),
    ("port", .nat server.port.toNat)
  ]

/-- The name server that a document spells. Its address and port have to be given. -/
def ofJson? (json : Json) : Option NameServer := do
  let fields ← json.fields? fieldNames
  some {
    ip := ← fields.require "ip" Address.ofJson?
    kind := ← fields.get "ns_type" (Json.variant? NameServerKind.named) .udp
    port := ← fields.require "port" Json.uint16?
  }

end NameServer

namespace NameServerGroup

/-- The fields in the order of declaration. -/
def fieldNames : List String :=
  ["id", "name", "description", "name_servers", "groups", "primary",
    "domains", "enabled", "search_domains_enabled"]

/-- A group with its servers in order. -/
def toJson (group : NameServerGroup) : Json :=
  .record [
    ("id", .text group.id),
    ("name", .text group.name),
    ("description", .text group.description),
    ("name_servers", .array (group.nameServers.map NameServer.toJson)),
    ("groups", .texts group.groups),
    ("primary", .bool group.primary),
    ("domains", .texts group.domains),
    ("enabled", .bool group.enabled),
    ("search_domains_enabled", .bool group.searchDomainsEnabled)
  ]

/-- The group that a document spells. -/
def ofJson? (json : Json) : Option NameServerGroup := do
  let fields ← json.fields? fieldNames
  some {
    id := ← fields.get "id" Json.text? ""
    name := ← fields.get "name" Json.text? ""
    description := ← fields.get "description" Json.text? ""
    nameServers := ← fields.get "name_servers" (Json.list? NameServer.ofJson?) []
    groups := ← fields.get "groups" Json.texts? []
    primary := ← fields.get "primary" Json.bool? false
    domains := ← fields.get "domains" Json.texts? []
    enabled := ← fields.get "enabled" Json.bool? false
    searchDomainsEnabled := ←
      fields.get "search_domains_enabled" Json.bool? false
  }

end NameServerGroup

end TenantStore
