import TenantStore.Json.Fields
import TenantStore.Span

namespace TenantStore

/-!
# Account settings

The settings of an account, of its network and of its name service.
-/

/-- Whether the domain of an account is shared or belongs to it alone. -/
inductive DomainCategory where
  | unset
  | publicDomain
  | privateDomain
  deriving Repr, DecidableEq

namespace DomainCategory

/-- The name of a category in files and in the database. -/
def name : DomainCategory → String
  | .unset => ""
  | .publicDomain => "public"
  | .privateDomain => "private"

/-- The categories under their names. -/
def named : List (String × DomainCategory) :=
  [("", .unset), ("public", .publicDomain), ("private", .privateDomain)]

/-- The category of a name; an unknown name leaves it open. -/
def ofName (name : String) : DomainCategory :=
  (named.lookup name).getD .unset

end DomainCategory

/-- How long a login lasts unless an account says otherwise: one day. -/
def defaultLoginExpiration : Span :=
  .ofSeconds 86400

/-- The settings of an account. -/
structure Settings where
  peerLoginExpirationEnabled : Bool := true
  peerLoginExpiration : Span := defaultLoginExpiration
  groupsPropagationEnabled : Bool := true
  jwtGroupsEnabled : Bool := false
  jwtGroupsClaimName : String := ""
  deriving Repr, DecidableEq

/-- The overlay network of an account. -/
structure Network where
  identifier : String := ""
  /-- The address range in CIDR notation. -/
  net : String := ""
  dns : String := ""
  serial : UInt64 := 0
  deriving Repr, DecidableEq

/-- The settings of the name service. -/
structure DnsSettings where
  disabledManagementGroups : List String := []
  deriving Repr, DecidableEq

namespace Span

/-- A span is written as its text. -/
def toJson (span : Span) : Json :=
  .text span.text

/-- The span that a document spells. -/
def ofJson? (json : Json) : Option Span :=
  json.text?.bind ofText?

end Span

namespace Settings

/-- The fields in the order of declaration. -/
def fieldNames : List String :=
  ["peer_login_expiration_enabled", "peer_login_expiration",
    "groups_propagation_enabled", "jwt_groups_enabled",
    "jwt_groups_claim_name"]

/-- The settings of an account, the span as its text. -/
def toJson (settings : Settings) : Json :=
  .record [
    ("peer_login_expiration_enabled",
      .bool settings.peerLoginExpirationEnabled),
    ("peer_login_expiration", settings.peerLoginExpiration.toJson),
    ("groups_propagation_enabled", .bool settings.groupsPropagationEnabled),
    ("jwt_groups_enabled", .bool settings.jwtGroupsEnabled),
    ("jwt_groups_claim_name", .text settings.jwtGroupsClaimName)
  ]

/-- The settings that a document spells. What it leaves out has the default of a new account. -/
def ofJson? (json : Json) : Option Settings := do
  let fields ← json.fields? fieldNames
  some {
    peerLoginExpirationEnabled := ←
      fields.get "peer_login_expiration_enabled" Json.bool? true
    peerLoginExpiration := ←
      fields.get "peer_login_expiration" Span.ofJson? defaultLoginExpiration
    groupsPropagationEnabled := ←
      fields.get "groups_propagation_enabled" Json.bool? true
    jwtGroupsEnabled := ← fields.get "jwt_groups_enabled" Json.bool? false
    jwtGroupsClaimName := ← fields.get "jwt_groups_claim_name" Json.text? ""
  }

end Settings

namespace Network

/-- The fields in the order of declaration. -/
def fieldNames : List String :=
  ["identifier", "net", "dns", "serial"]

/-- A network with its serial number. -/
def toJson (network : Network) : Json :=
  .record [
    ("identifier", .text network.identifier),
    ("net", .text network.net),
    ("dns", .text network.dns),
    ("serial", .nat network.serial.toNat)
  ]

/-- The network that a document spells. -/
def ofJson? (json : Json) : Option Network := do
  let fields ← json.fields? fieldNames
  some {
    identifier := ← fields.get "identifier" Json.text? ""
    net := ← fields.get "net" Json.text? ""
    dns := ← fields.get "dns" Json.text? ""
    serial := ← fields.get "serial" Json.uint64? 0
  }

end Network

namespace DnsSettings

/-- The fields in the order of declaration. -/
def fieldNames : List String :=
  ["disabled_management_groups"]

/-- The settings of the name service. -/
def toJson (settings : DnsSettings) : Json :=
  .record [
    ("disabled_management_groups", .texts settings.disabledManagementGroups)
  ]

/-- The settings that a document spells. No group is disabled unless it says so. -/
def ofJson? (json : Json) : Option DnsSettings := do
  let fields ← json.fields? fieldNames
  some {
    disabledManagementGroups := ←
      fields.get "disabled_management_groups" Json.texts? []
  }

end DnsSettings

end TenantStore
