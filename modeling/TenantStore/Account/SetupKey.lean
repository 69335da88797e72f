import TenantStore.Timestamp

namespace TenantStore

/-!
# Setup keys

A setup key lets a peer register without a login, until it expires, is revoked
or is used up.
-/

/-- How often a setup key may be used. -/
inductive SetupKeyKind where
  | reusable
  | oneOff
  deriving Repr, DecidableEq

namespace SetupKeyKind

/-- The name of a kind in files and in the database. -/
def name : SetupKeyKind → String
  | .reusable => "reusable"
  | .oneOff => "oneoff"

/-- The kinds under their names. -/
def named : List (String × SetupKeyKind) :=
  [("reusable", .reusable), ("oneoff", .oneOff)]

/-- The kind of a name; an unknown name is that of a reusable key. -/
def ofName (name : String) : SetupKeyKind :=
  (named.lookup name).getD .reusable

end SetupKeyKind

/-- A key that registers peers. -/
structure SetupKey where
  id : String := ""
  key : String := ""
  name : String := ""
  kind : SetupKeyKind := .reusable
  createdAt : Timestamp := .zero
  expiresAt : Timestamp := .zero
  updatedAt : Timestamp := .zero
  revoked : Bool := false
  usedTimes : UInt32 := 0
  lastUsed : Timestamp := .zero
  autoGroups : List String := []
  /-- How many uses are allowed; zero means any number. -/
  usageLimit : UInt32 := 0
  ephemeral : Bool := false
  deriving Repr, DecidableEq

namespace SetupKey

/-- Whether the key has an expiry and it has come. -/
def isExpired (key : SetupKey) (now : Timestamp) : Bool :=
  !key.expiresAt.isZero && key.expiresAt.millis ≤ now.millis

/-- Whether the key has been used as often as it may. -/
def isOverused (key : SetupKey) : Bool :=
  (key.kind = .oneOff && 1 ≤ key.usedTimes)
    || (0 < key.usageLimit && key.usageLimit ≤ key.usedTimes)

/-- Whether the key may register a peer. -/
def isValid (key : SetupKey) (now : Timestamp) : Bool :=
  !key.revoked && !key.isExpired now && !key.isOverused

/-- The fields in the order of declaration. -/
def fieldNames : List String :=
  ["id", "key", "name", "key_type", "created_at", "expires_at", "updated_at",
    "revoked", "used_times", "last_used", "auto_groups", "usage_limit",
    "ephemeral"]

/-- A setup key with its kind under its name. -/
def toJson (key : SetupKey) : Json :=
  .record [
    ("id", .text key.id),
    ("key", .text key.key),
    ("name", .text key.name),
    ("key_type", .text key.kind.name),
    ("created_at", key.createdAt.toJson),
    ("expires_at", key.expiresAt.toJson),
    ("updated_at", key.updatedAt.toJson),
    ("revoked", .bool key.revoked),
    ("used_times", .nat key.usedTimes.toNat),
    ("last_used", key.lastUsed.toJson),
    ("auto_groups", .texts key.autoGroups),
    ("usage_limit", .nat key.usageLimit.toNat),
    ("ephemeral", .bool key.ephemeral)
  ]

/-- The setup key that a document spells. An unknown kind is refused here. -/
def ofJson? (json : Json) : Option SetupKey := do
  let fields ← json.fields? fieldNames
  some {
    id := ← fields.get "id" Json.text? ""
    key := ← fields.get "key" Json.text? ""
    name := ← fields.get "name" Json.text? ""
    kind := ← fields.get "key_type" (Json.variant? SetupKeyKind.named) .reusable
    createdAt := ← fields.get "created_at" Timestamp.ofJson? .zero
    expiresAt := ← fields.get "expires_at" Timestamp.ofJson? .zero
    updatedAt := ← fields.get "updated_at" Timestamp.ofJson? .zero
    revoked := ← fields.get "revoked" Json.bool? false
    usedTimes := ← fields.get "used_times" Json.uint32? 0
    lastUsed := ← fields.get "last_used" Timestamp.ofJson? .zero
    autoGroups := ← fields.get "auto_groups" Json.texts? []
    usageLimit := ← fields.get "usage_limit" Json.uint32? 0
    ephemeral := ← fields.get "ephemeral" Json.bool? false
  }

end SetupKey

end TenantStore
