import TenantStore.FileEngine.Memory
import TenantStore.Json.Parser
import TenantStore.Json.Printer

namespace TenantStore.FileEngine

/-!
# The store document

The file of the file engine holds one JSON document with the accounts and the
identifier of the installation. The indices are not written; they follow from
the accounts.
-/

/-- What the file of the file engine says. -/
structure Document where
  accounts : Dict Account := ∅
  installation : String := ""
  deriving Repr, DecidableEq

namespace Document

/-- The fields in the order of declaration. -/
def fieldNames : List String :=
  ["accounts", "installation_id"]

/-- The accounts under their identifiers, and the installation. -/
def toJson (document : Document) : Json :=
  .record [
    ("accounts", .ofDict Account.toJson document.accounts),
    ("installation_id", .text document.installation)
  ]

/-- The document that JSON spells. A file without accounts or installation has none. -/
def ofJson? (json : Json) : Option Document := do
  let fields ← json.fields? fieldNames
  some {
    accounts := ← fields.get "accounts" (Json.dict? Account.ofJson?) ∅
    installation := ← fields.get "installation_id" Json.text? ""
  }

/-- The bytes of the file. -/
def bytes (document : Document) : ByteArray :=
  document.toJson.compactText.toUTF8

/-- The document that the bytes of a file spell. -/
def ofBytes? (bytes : ByteArray) : Option Document :=
  (Json.ofBytes? bytes).bind ofJson?

end Document

/-- What is written of a memory. -/
def Memory.document (memory : Memory) : Document where
  accounts := memory.accounts
  installation := memory.installation

/-- The memory of what was written, for now without indices. -/
def Document.memory (document : Document) : Memory where
  accounts := document.accounts
  installation := document.installation

end TenantStore.FileEngine
