import TenantStore.Address
import TenantStore.Timestamp

namespace TenantStore

/-!
# Peers

A peer is one endpoint of the overlay network. Its identifier is given once
and never changes; its key is the public key it connects with. Records written
before identifiers existed have an empty one.
-/

/-- The connection state that a peer reports. -/
structure PeerStatus where
  lastSeen : Timestamp := .zero
  connected : Bool := false
  loginExpired : Bool := false
  deriving Repr, DecidableEq

/-- Where a peer connects from. -/
structure Location where
  connectionIp : Option Address := none
  countryCode : String := ""
  cityName : String := ""
  geoNameId : UInt32 := 0
  deriving Repr, DecidableEq

/-- What a peer tells about the machine it runs on. -/
structure SystemMeta where
  hostname : String := ""
  goOs : String := ""
  kernel : String := ""
  core : String := ""
  platform : String := ""
  os : String := ""
  wtVersion : String := ""
  uiVersion : String := ""
  deriving Repr, DecidableEq

/-- An endpoint of the overlay network. -/
structure Peer where
  id : String := ""
  key : String := ""
  setupKey : String := ""
  ip : Address := .unspecified
  systemMeta : SystemMeta := {}
  name : String := ""
  dnsLabel : String := ""
  status : PeerStatus := {}
  userId : String := ""
  sshKey : String := ""
  sshEnabled : Bool := false
  loginExpirationEnabled : Bool := false
  lastLogin : Timestamp := .zero
  location : Location := {}
  deriving Repr, DecidableEq

namespace Address

/-- An address is written as its text. -/
def toJson (address : Address) : Json :=
  .text address.text

/-- The address that a document spells. -/
def ofJson? (json : Json) : Option Address :=
  json.text?.bind ofText?

end Address

namespace PeerStatus

/-- The fields in the order of declaration. -/
def fieldNames : List String :=
  ["last_seen", "connected", "login_expired"]

/-- The state of a connection. -/
def toJson (status : PeerStatus) : Json :=
  .record [
    ("last_seen", status.lastSeen.toJson),
    ("connected", .bool status.connected),
    ("login_expired", .bool status.loginExpired)
  ]

/-- The state that a document spells; a peer is not connected unless it says so. -/
def ofJson? (json : Json) : Option PeerStatus := do
  let fields ← json.fields? fieldNames
  some {
    lastSeen := ← fields.get "last_seen" Timestamp.ofJson? .zero
    connected := ← fields.get "connected" Json.bool? false
    loginExpired := ← fields.get "login_expired" Json.bool? false
  }

end PeerStatus

namespace Location

/-- The fields in the order of declaration. -/
def fieldNames : List String :=
  ["connection_ip", "country_code", "city_name", "geo_name_id"]

/-- A location, an unknown address as null. -/
def toJson (location : Location) : Json :=
  .record [
    ("connection_ip", .ofOption Address.toJson location.connectionIp),
    ("country_code", .text location.countryCode),
    ("city_name", .text location.cityName),
    ("geo_name_id", .nat location.geoNameId.toNat)
  ]

/-- The location that a document spells. -/
def ofJson? (json : Json) : Option Location := do
  let fields ← json.fields? fieldNames
  some {
    connectionIp := ←
      fields.get "connection_ip" (Json.option? Address.ofJson?) none
    countryCode := ← fields.get "country_code" Json.text? ""
    cityName := ← fields.get "city_name" Json.text? ""
    geoNameId := ← fields.get "geo_name_id" Json.uint32? 0
  }

end Location

namespace SystemMeta

/-- The fields in the order of declaration. -/
def fieldNames : List String :=
  ["hostname", "go_os", "kernel", "core", "platform", "os", "wt_version",
    "ui_version"]

/-- What is known about a machine. -/
def toJson (systemMeta : SystemMeta) : Json :=
  .record [
    ("hostname", .text systemMeta.hostname),
    ("go_os", .text systemMeta.goOs),
    ("kernel", .text systemMeta.kernel),
    ("core", .text systemMeta.core),
    ("platform", .text systemMeta.platform),
    ("os", .text systemMeta.os),
    ("wt_version", .text systemMeta.wtVersion),
    ("ui_version", .text systemMeta.uiVersion)
  ]

/-- What a document tells about a machine. -/
def ofJson? (json : Json) : Option SystemMeta := do
  let fields ← json.fields? fieldNames
  some {
    hostname := ← fields.get "hostname" Json.text? ""
    goOs := ← fields.get "go_os" Json.text? ""
    kernel := ← fields.get "kernel" Json.text? ""
    core := ← fields.get "core" Json.text? ""
    platform := ← fields.get "platform" Json.text? ""
    os := ← fields.get "os" Json.text? ""
    wtVersion := ← fields.get "wt_version" Json.text? ""
    uiVersion := ← fields.get "ui_version" Json.text? ""
  }

end SystemMeta

namespace Peer

instance : Inhabited Peer :=
  ⟨{}⟩

/-- Whether a user registered the peer, rather than a setup key. -/
def addedByUser (peer : Peer) : Bool :=
  !peer.userId.isEmpty

/-- The fields in the order of declaration. -/
def fieldNames : List String :=
  ["id", "key", "setup_key", "ip", "meta", "name", "dns_label", "status",
    "user_id", "ssh_key", "ssh_enabled", "login_expiration_enabled",
    "last_login", "location"]

/-- A peer with its machine, status and location inside. -/
def toJson (peer : Peer) : Json :=
  .record [
    ("id", .text peer.id),
    ("key", .text peer.key),
    ("setup_key", .text peer.setupKey),
    ("ip", peer.ip.toJson),
    ("meta", peer.systemMeta.toJson),
    ("name", .text peer.name),
    ("dns_label", .text peer.dnsLabel),
    ("status", peer.status.toJson),
    ("user_id", .text peer.userId),
    ("ssh_key", .text peer.sshKey),
    ("ssh_enabled", .bool peer.sshEnabled),
    ("login_expiration_enabled", .bool peer.loginExpirationEnabled),
    ("last_login", peer.lastLogin.toJson),
    ("location", peer.location.toJson)
  ]

/-- The peer that a document spells. An address that it leaves out is unspecified. -/
def ofJson? (json : Json) : Option Peer := do
  let fields ← json.fields? fieldNames
  some {
    id := ← fields.get "id" Json.text? ""
    key := ← fields.get "key" Json.text? ""
    setupKey := ← fields.get "setup_key" Json.text? ""
    ip := ← fields.get "ip" Address.ofJson? .unspecified
    systemMeta := ← fields.get "meta" SystemMeta.ofJson? {}
    name := ← fields.get "name" Json.text? ""
    dnsLabel := ← fields.get "dns_label" Json.text? ""
    status := ← fields.get "status" PeerStatus.ofJson? {}
    userId := ← fields.get "user_id" Json.text? ""
    sshKey := ← fields.get "ssh_key" Json.text? ""
    sshEnabled := ← fields.get "ssh_enabled" Json.bool? false
    loginExpirationEnabled := ←
      fields.get "login_expiration_enabled" Json.bool? false
    lastLogin := ← fields.get "last_login" Timestamp.ofJson? .zero
    location := ← fields.get "location" Location.ofJson? {}
  }

end Peer

end TenantStore
