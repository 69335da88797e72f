import TenantStore.FileEngine.Document
import TenantStore.Proofs.Dictionaries
import TenantStore.Proofs.Documents

namespace TenantStore

/-!
# Documents of accounts

An account is written with everything that it holds, and read back as it was.
So is the store document, from the bytes of its file (`ofBytes?_bytes`).
-/

/-! ## Numbers, choices and collections -/

namespace Json

@[simp] theorem uint32?_nat (value : UInt32) : uint32? (.nat value.toNat) = some value := by
  simp [uint32?, natBelow?_nat value.toNat_lt_size]

@[simp] theorem uint64?_nat (value : UInt64) : uint64? (.nat value.toNat) = some value := by
  simp [uint64?, natBelow?_nat value.toNat_lt_size]

/-- A signed number of 64 bits is in its range, so it is read back. -/
@[simp] theorem int64?_int (value : Int64) : int64? (.int value.toInt) = some value := by
  have least := value.le_toInt
  have greatest := value.toInt_lt
  have within : (decide (-0x8000000000000000 ≤ value.toInt) &&
      decide (value.toInt < 0x8000000000000000)) = true := by
    simp only [Bool.and_eq_true, decide_eq_true_eq]
    omega
  show (if _ then some (Int64.ofInt value.toInt) else none) = _
  rw [if_pos within, Int64.ofInt_toInt]

/-- A dictionary of plain documents is plain, whatever its keys are. -/
@[simp] theorem isPlain_ofDict
    {write : α → Json}
    (plain : ∀ value, (write value).IsPlain)
    (dict : Dict α) :
    (Json.ofDict write dict).IsPlain := by
  rw [ofDict, isPlain_record]
  intro entry member
  obtain ⟨_, _, rfl⟩ := List.mem_map.mp member
  exact plain _

/-- The members of an object are read one by one. -/
theorem readValues?_map
    {read : Json → Option α}
    {write : α → Json}
    (reads : ∀ value, read (write value) = some value)
    (entries : List (String × α)) :
    readValues? read (entries.map (fun entry => (some entry.1, write entry.2))) =
      some entries := by
  induction entries with
  | nil => rfl
  | cons head tail inductionHypothesis =>
      simp [readValues?, reads, inductionHypothesis]

/-- A dictionary is read back if its values are. -/
@[simp] theorem dict?_ofDict
    {read : Json → Option α}
    {write : α → Json}
    (reads : ∀ value, read (write value) = some value)
    (dict : Dict α) :
    dict? read (.ofDict write dict) = some dict := by
  have members := readValues?_map reads dict.entries
  rw [ofDict, record, dict?, List.map_map]
  exact (congrArg (Option.map Dict.ofList) members).trans
    (congrArg some (Dict.ofList_entries dict))

end Json

namespace Timestamp

@[simp] theorem isPlain_toJson (time : Timestamp) : time.toJson.IsPlain :=
  Json.isPlain_nat _

@[simp] theorem ofJson?_toJson (time : Timestamp) : ofJson? time.toJson = some time := by
  simp [ofJson?, toJson]

end Timestamp

/-- No two kinds share a name, so a kind is known by its name. -/
@[simp] theorem SetupKeyKind.variant?_name (kind : SetupKeyKind) :
    Json.variant? named (.text kind.name) = some kind := by
  cases kind <;> rfl

/-- A role is known by its name. -/
@[simp] theorem UserRole.variant?_name (role : UserRole) :
    Json.variant? named (.text role.name) = some role := by
  cases role <;> rfl

/-- An action is known by its name. -/
@[simp] theorem TrafficAction.variant?_name (action : TrafficAction) :
    Json.variant? named (.text action.name) = some action := by
  cases action <;> rfl

/-- A protocol is known by its name, also the one that is not set. -/
@[simp] theorem RuleProtocol.variant?_name (protocol : RuleProtocol) :
    Json.variant? named (.text protocol.name) = some protocol := by
  cases protocol <;> rfl

/-- A family is known by its name. -/
@[simp] theorem NetworkFamily.variant?_name (family : NetworkFamily) :
    Json.variant? named (.text family.name) = some family := by
  cases family <;> rfl

/-- A category is known by its name, also the open one. -/
@[simp] theorem DomainCategory.variant?_name (category : DomainCategory) :
    Json.variant? named (.text category.name) = some category := by
  cases category <;> rfl

/-! ## Peers -/

namespace PeerStatus

@[simp] theorem isPlain_toJson (status : PeerStatus) : status.toJson.IsPlain := by
  simp [toJson]

/-- A status is read back. -/
@[simp] theorem ofJson?_toJson (status : PeerStatus) :
    ofJson? status.toJson = some status := by
  rw [ofJson?, toJson, @Json.fields?_record fieldNames _ rfl (by decide)]
  simp [↓Json.bind_eq_match, Json.Fields.get, List.lookup_cons]

end PeerStatus

namespace Location

@[simp] theorem isPlain_toJson (location : Location) : location.toJson.IsPlain := by
  simp [toJson]

/-- A location is read back, with or without an address. -/
@[simp] theorem ofJson?_toJson (location : Location) :
    ofJson? location.toJson = some location := by
  rw [ofJson?, toJson, @Json.fields?_record fieldNames _ rfl (by decide)]
  simp [↓Json.bind_eq_match, Json.Fields.get, List.lookup_cons]

end Location

namespace Peer

/-- The document of a peer is plain. -/
@[simp] theorem isPlain_toJson (peer : Peer) : peer.toJson.IsPlain := by
  simp [toJson]

/-- A peer is read back with its machine, status and location. -/
@[simp] theorem ofJson?_toJson (peer : Peer) : ofJson? peer.toJson = some peer := by
  rw [ofJson?, toJson, @Json.fields?_record fieldNames _ rfl (by decide)]
  simp [↓Json.bind_eq_match, Json.Fields.get, List.lookup_cons]

end Peer

/-! ## Setup keys, users and groups -/

namespace SetupKey

/-- The document of a setup key is plain. -/
@[simp] theorem isPlain_toJson (key : SetupKey) : key.toJson.IsPlain := by
  simp [toJson]

/-- A setup key is read back. -/
@[simp] theorem ofJson?_toJson (key : SetupKey) : ofJson? key.toJson = some key := by
  rw [ofJson?, toJson, @Json.fields?_record fieldNames _ rfl (by decide)]
  simp [↓Json.bind_eq_match, Json.Fields.get, List.lookup_cons]

end SetupKey

namespace AccessToken

/-- The document of a token is plain. -/
@[simp] theorem isPlain_toJson (token : AccessToken) : token.toJson.IsPlain := by
  simp [toJson]

/-- A token is read back. -/
@[simp] theorem ofJson?_toJson (token : AccessToken) :
    ofJson? token.toJson = some token := by
  rw [ofJson?, toJson, @Json.fields?_record fieldNames _ rfl (by decide)]
  simp [↓Json.bind_eq_match, Json.Fields.get, List.lookup_cons]

end AccessToken

namespace User

/-- The document of a user is plain. -/
@[simp] theorem isPlain_toJson (user : User) : user.toJson.IsPlain := by
  simp [toJson]

/-- A user is read back with all tokens. -/
@[simp] theorem ofJson?_toJson (user : User) : ofJson? user.toJson = some user := by
  rw [ofJson?, toJson, @Json.fields?_record fieldNames _ rfl (by decide)]
  simp [↓Json.bind_eq_match, Json.Fields.get, List.lookup_cons]

end User

namespace Group

/-- The document of a group is plain. -/
@[simp] theorem isPlain_toJson (group : Group) : group.toJson.IsPlain := by
  simp [toJson]

/-- A group is read back with its peers in order. -/
@[simp] theorem ofJson?_toJson (group : Group) : ofJson? group.toJson = some group := by
  rw [ofJson?, toJson, @Json.fields?_record fieldNames _ rfl (by decide)]
  simp [↓Json.bind_eq_match, Json.Fields.get, List.lookup_cons]

end Group

/-! ## Policies, routes and name servers -/

namespace PolicyRule

/-- The document of a rule is plain. -/
@[simp] theorem isPlain_toJson (rule : PolicyRule) : rule.toJson.IsPlain := by
  simp [toJson]

/-- A rule is read back, with whatever policy it names. -/
@[simp] theorem ofJson?_toJson (rule : PolicyRule) : ofJson? rule.toJson = some rule := by
  rw [ofJson?, toJson, @Json.fields?_record fieldNames _ rfl (by decide)]
  simp [↓Json.bind_eq_match, Json.Fields.get, List.lookup_cons]

end PolicyRule

namespace Policy

/-- The document of a policy is plain. -/
@[simp] theorem isPlain_toJson (policy : Policy) : policy.toJson.IsPlain := by
  simp [toJson]

/-- A policy is read back with its rules in order. -/
@[simp] theorem ofJson?_toJson (policy : Policy) : ofJson? policy.toJson = some policy := by
  rw [ofJson?, toJson, @Json.fields?_record fieldNames _ rfl (by decide)]
  simp [↓Json.bind_eq_match, Json.Fields.get, List.lookup_cons]

end Policy

namespace Route

/-- The document of a route is plain. -/
@[simp] theorem isPlain_toJson (route : Route) : route.toJson.IsPlain := by
  simp [toJson]

/-- A route is read back, a negative metric too. -/
@[simp] theorem ofJson?_toJson (route : Route) : ofJson? route.toJson = some route := by
  rw [ofJson?, toJson, @Json.fields?_record fieldNames _ rfl (by decide)]
  simp [↓Json.bind_eq_match, Json.Fields.get, List.lookup_cons]

end Route

namespace NameServerGroup

/-- The document of a group of name servers is plain. -/
@[simp] theorem isPlain_toJson (group : NameServerGroup) : group.toJson.IsPlain := by
  simp [toJson]

/-- A group of name servers is read back with its servers in order. -/
@[simp] theorem ofJson?_toJson (group : NameServerGroup) :
    ofJson? group.toJson = some group := by
  rw [ofJson?, toJson, @Json.fields?_record fieldNames _ rfl (by decide)]
  simp [↓Json.bind_eq_match, Json.Fields.get, List.lookup_cons]

end NameServerGroup

/-! ## Accounts -/

namespace Network

@[simp] theorem isPlain_toJson (network : Network) : network.toJson.IsPlain := by
  simp [toJson]

/-- A network is read back with its serial number. -/
@[simp] theorem ofJson?_toJson (network : Network) :
    ofJson? network.toJson = some network := by
  rw [ofJson?, toJson, @Json.fields?_record fieldNames _ rfl (by decide)]
  simp [↓Json.bind_eq_match, Json.Fields.get, List.lookup_cons]

end Network

namespace Account

/-- The document of an account is plain. -/
@[simp] theorem isPlain_toJson (account : Account) : account.toJson.IsPlain := by
  simp [toJson]

/-- An account is read back with everything that it holds. -/
@[simp] theorem ofJson?_toJson (account : Account) :
    ofJson? account.toJson = some account := by
  rw [ofJson?, toJson, @Json.fields?_record fieldNames _ rfl (by decide)]
  simp [↓Json.bind_eq_match, Json.Fields.get, List.lookup_cons]

end Account

/-! ## The store document -/

/-- The bytes of a text are read as its characters. -/
theorem Text.glyphsOfBytes_toUTF8 (text : String) :
    glyphsOfBytes text.toUTF8 = text.toList.map some := by
  have decoded : String.fromUTF8? text.toUTF8 = some text :=
    dif_pos text.isValidUTF8
  rw [glyphsOfBytes, decoded]

/-- A plain document is read back from the bytes of its compact text. -/
theorem Json.ofBytes?_compactText {json : Json} (plain : json.IsPlain) :
    ofBytes? json.compactText.toUTF8 = some json := by
  rw [ofBytes?, Text.glyphsOfBytes_toUTF8]
  exact ofText?_compactText plain

namespace FileEngine.Document

/-- The store document is plain. -/
theorem isPlain_toJson (document : Document) : document.toJson.IsPlain := by
  simp [toJson]

/-- The store document is read back. -/
theorem ofJson?_toJson (document : Document) : ofJson? document.toJson = some document := by
  rw [ofJson?, toJson, @Json.fields?_record fieldNames _ rfl (by decide)]
  simp [↓Json.bind_eq_match, Json.Fields.get, List.lookup_cons]

/-- A store document is read back from the bytes of its file. -/
theorem ofBytes?_bytes (document : Document) : ofBytes? document.bytes = some document := by
  rw [ofBytes?, bytes, Json.ofBytes?_compactText (isPlain_toJson document), Option.bind_some,
    ofJson?_toJson]

end FileEngine.Document

end TenantStore
