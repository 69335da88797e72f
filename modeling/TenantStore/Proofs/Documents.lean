import TenantStore.Account
import TenantStore.Proofs.Addresses
import TenantStore.Proofs.Json.Compact
import TenantStore.Proofs.Json.Records
import TenantStore.Proofs.Spans

namespace TenantStore

/-!
# Documents of entities

What is written for an entity is plain and is read back as the entity.
-/

/-! ## Addresses and spans -/

namespace Address

@[simp] theorem isPlain_toJson (address : Address) : address.toJson.IsPlain :=
  Json.isPlain_text _

/-- An address is read back from its text. -/
@[simp] theorem ofJson?_toJson (address : Address) :
    ofJson? address.toJson = some address := by
  rw [ofJson?, toJson, Json.text?_text, Option.bind_some, ofText?_text]

/-- An address is a text, so an address that is there is told from one that is not. -/
@[simp] theorem toJson_ne_null (address : Address) : address.toJson ≠ .null := by
  intro same
  cases same

end Address

namespace Span

@[simp] theorem isPlain_toJson (span : Span) : span.toJson.IsPlain :=
  Json.isPlain_text _

/-- A span is read back from its text. -/
@[simp] theorem ofJson?_toJson (span : Span) : ofJson? span.toJson = some span := by
  rw [ofJson?, toJson, Json.text?_text, Option.bind_some, ofText?_text]

end Span

/-- What is absent is null, and null is plain. -/
@[simp] theorem Json.isPlain_ofOption
    {write : α → Json}
    (plain : ∀ value, (write value).IsPlain)
    (value : Option α) :
    (Json.ofOption write value).IsPlain := by
  cases value with
  | none => exact Json.isPlain_null
  | some value => exact plain value

/-! ## Settings -/

namespace Settings

@[simp] theorem isPlain_toJson (settings : Settings) : settings.toJson.IsPlain := by
  simp [toJson]

/-- The settings of an account are read back. -/
@[simp] theorem ofJson?_toJson (settings : Settings) :
    ofJson? settings.toJson = some settings := by
  rw [ofJson?, toJson, @Json.fields?_record fieldNames _ rfl (by decide)]
  simp [Json.Fields.get, List.lookup_cons]

/-- Settings are an object, so settings that are there are told from none. -/
@[simp] theorem toJson_ne_null (settings : Settings) : settings.toJson ≠ .null := by
  intro same
  cases same

end Settings

namespace DnsSettings

@[simp] theorem isPlain_toJson (settings : DnsSettings) :
    settings.toJson.IsPlain := by
  simp [toJson]

/-- The settings of the name service are read back. -/
@[simp] theorem ofJson?_toJson (settings : DnsSettings) :
    ofJson? settings.toJson = some settings := by
  rw [ofJson?, toJson, @Json.fields?_record fieldNames _ rfl (by decide)]
  simp [Json.Fields.get]

end DnsSettings

/-! ## Peers -/

namespace SystemMeta

/-- What is written of a machine is plain. -/
@[simp] theorem isPlain_toJson (systemMeta : SystemMeta) :
    systemMeta.toJson.IsPlain := by
  simp [toJson]

/-- What is written of a machine is read back. -/
@[simp] theorem ofJson?_toJson (systemMeta : SystemMeta) :
    ofJson? systemMeta.toJson = some systemMeta := by
  rw [ofJson?, toJson, @Json.fields?_record fieldNames _ rfl (by decide)]
  simp [Json.Fields.get, List.lookup_cons]

end SystemMeta

/-! ## Name servers -/

namespace NameServer

/-- The document of a name server is plain. -/
@[simp] theorem isPlain_toJson (server : NameServer) : server.toJson.IsPlain := by
  simp [toJson]

/-- A name server is read back. There is only one kind of them. -/
@[simp] theorem ofJson?_toJson (server : NameServer) :
    ofJson? server.toJson = some server := by
  have kind : Json.variant? NameServerKind.named (.text server.kind.name) =
      some server.kind := by
    cases server.kind
    rfl
  rw [ofJson?, toJson, @Json.fields?_record fieldNames _ rfl (by decide)]
  simp [Json.Fields.get, Json.Fields.require, List.lookup_cons, kind]

end NameServer

end TenantStore
