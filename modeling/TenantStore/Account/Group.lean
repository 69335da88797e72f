import TenantStore.Account.User

namespace TenantStore

/-!
# Groups

A group is a named list of peers. Routes, policies and name server groups refer
to groups, and one built-in group holds every peer of an account.
-/

/-- A named list of peers. -/
structure Group where
  id : String := ""
  name : String := ""
  issued : String := ""
  /-- Identifiers of the members. -/
  peers : List String := []
  deriving Repr, DecidableEq

namespace Group

/-- The name of the built-in group of all peers. -/
def allName : String :=
  "All"

/-- A group with members, issued here. -/
def new (id name : String) (peers : List String) : Group where
  id := id
  name := name
  issued := issuedHere
  peers := peers

/-- Whether this is the built-in group of all peers. -/
def isAll (group : Group) : Bool :=
  group.name = allName

/-- The fields in the order of declaration. -/
def fieldNames : List String :=
  ["id", "name", "issued", "peers"]

/-- A group with the identifiers of its peers. -/
def toJson (group : Group) : Json :=
  .record [
    ("id", .text group.id),
    ("name", .text group.name),
    ("issued", .text group.issued),
    ("peers", .texts group.peers)
  ]

/-- The group that a document spells, with empty texts for what it leaves out. -/
def ofJson? (json : Json) : Option Group := do
  let fields ← json.fields? fieldNames
  some {
    id := ← fields.get "id" Json.text? ""
    name := ← fields.get "name" Json.text? ""
    issued := ← fields.get "issued" Json.text? ""
    peers := ← fields.get "peers" Json.texts? []
  }

end Group

end TenantStore
