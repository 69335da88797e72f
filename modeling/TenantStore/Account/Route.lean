import TenantStore.Json.Fields

namespace TenantStore

/-!
# Network routes

A route exposes a network through a routing peer or through the peers of
routing groups.
-/

/-- The address family of a routed network. -/
inductive NetworkFamily where
  | invalid
  | ipv4
  | ipv6
  deriving Repr, DecidableEq

namespace NetworkFamily

/-- The name of a family in files. A database has a number in its place. -/
def name : NetworkFamily → String
  | .invalid => "Invalid"
  | .ipv4 => "IPv4"
  | .ipv6 => "IPv6"

/-- The families under their names. -/
def named : List (String × NetworkFamily) :=
  [("Invalid", .invalid), ("IPv4", .ipv4), ("IPv6", .ipv6)]

/-- The number that stands for a family in a database. -/
def code : NetworkFamily → Int
  | .invalid => 0
  | .ipv4 => 1
  | .ipv6 => 2

/-- The family of a number; an unknown number is that of no family. -/
def ofCode (code : Int) : NetworkFamily :=
  if code = 1 then .ipv4 else if code = 2 then .ipv6 else .invalid

end NetworkFamily

/-- A network behind a peer or behind groups of peers. -/
structure Route where
  id : String := ""
  network : String := ""
  netId : String := ""
  description : String := ""
  peer : String := ""
  peerGroups : List String := []
  family : NetworkFamily := .invalid
  masquerade : Bool := false
  metric : Int64 := 0
  enabled : Bool := false
  groups : List String := []
  deriving Repr, DecidableEq

namespace Route

/-- The fields in the order of declaration. -/
def fieldNames : List String :=
  ["id", "network", "net_id", "description", "peer", "peer_groups",
    "network_type", "masquerade", "metric", "enabled", "groups"]

/-- A route with its family under its name. -/
def toJson (route : Route) : Json :=
  .record [
    ("id", .text route.id),
    ("network", .text route.network),
    ("net_id", .text route.netId),
    ("description", .text route.description),
    ("peer", .text route.peer),
    ("peer_groups", .texts route.peerGroups),
    ("network_type", .text route.family.name),
    ("masquerade", .bool route.masquerade),
    ("metric", .int route.metric.toInt),
    ("enabled", .bool route.enabled),
    ("groups", .texts route.groups)
  ]

/-- The route that a document spells. -/
def ofJson? (json : Json) : Option Route := do
  let fields ← json.fields? fieldNames
  some {
    id := ← fields.get "id" Json.text? ""
    network := ← fields.get "network" Json.text? ""
    netId := ← fields.get "net_id" Json.text? ""
    description := ← fields.get "description" Json.text? ""
    peer := ← fields.get "peer" Json.text? ""
    peerGroups := ← fields.get "peer_groups" Json.texts? []
    family := ←
      fields.get "network_type" (Json.variant? NetworkFamily.named) .invalid
    masquerade := ← fields.get "masquerade" Json.bool? false
    metric := ← fields.get "metric" Json.int64? 0
    enabled := ← fields.get "enabled" Json.bool? false
    groups := ← fields.get "groups" Json.texts? []
  }

end Route

end TenantStore
