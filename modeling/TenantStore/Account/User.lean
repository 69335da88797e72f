import TenantStore.Timestamp

namespace TenantStore

/-!
# Users and access tokens

A user belongs to one account and holds personal access tokens. Of a token
only the hash of its secret is kept.
-/

/-- The issuer of users and groups that are created in this program. -/
def issuedHere : String :=
  "api"

/-- The role of a user inside an account. -/
inductive UserRole where
  | owner
  | admin
  | user
  deriving Repr, DecidableEq

namespace UserRole

/-- The name of a role in files and in the database. -/
def name : UserRole → String
  | .owner => "owner"
  | .admin => "admin"
  | .user => "user"

/-- The roles under their names. -/
def named : List (String × UserRole) :=
  [("owner", .owner), ("admin", .admin), ("user", .user)]

/-- The role of a name; an unknown name is that of a plain user. -/
def ofName (name : String) : UserRole :=
  (named.lookup name).getD .user

end UserRole

/-- A personal access token. -/
structure AccessToken where
  id : String := ""
  userId : String := ""
  name : String := ""
  hashedToken : String := ""
  expirationDate : Timestamp := .zero
  createdBy : String := ""
  createdAt : Timestamp := .zero
  lastUsed : Timestamp := .zero
  deriving Repr, DecidableEq

/-- A user of the management service. -/
structure User where
  id : String := ""
  role : UserRole := .user
  isServiceUser : Bool := false
  nonDeletable : Bool := false
  serviceUserName : String := ""
  autoGroups : List String := []
  blocked : Bool := false
  lastLogin : Timestamp := .zero
  issued : String := ""
  /-- Tokens under their identifiers. -/
  tokens : Dict AccessToken := ∅
  deriving Repr, DecidableEq

namespace AccessToken

/-- The fields in the order of declaration. -/
def fieldNames : List String :=
  ["id", "user_id", "name", "hashed_token", "expiration_date", "created_by",
    "created_at", "last_used"]

/-- A token with its hash, which is all that is kept of the secret. -/
def toJson (token : AccessToken) : Json :=
  .record [
    ("id", .text token.id),
    ("user_id", .text token.userId),
    ("name", .text token.name),
    ("hashed_token", .text token.hashedToken),
    ("expiration_date", token.expirationDate.toJson),
    ("created_by", .text token.createdBy),
    ("created_at", token.createdAt.toJson),
    ("last_used", token.lastUsed.toJson)
  ]

/-- The token that a document spells. -/
def ofJson? (json : Json) : Option AccessToken := do
  let fields ← json.fields? fieldNames
  some {
    id := ← fields.get "id" Json.text? ""
    userId := ← fields.get "user_id" Json.text? ""
    name := ← fields.get "name" Json.text? ""
    hashedToken := ← fields.get "hashed_token" Json.text? ""
    expirationDate := ← fields.get "expiration_date" Timestamp.ofJson? .zero
    createdBy := ← fields.get "created_by" Json.text? ""
    createdAt := ← fields.get "created_at" Timestamp.ofJson? .zero
    lastUsed := ← fields.get "last_used" Timestamp.ofJson? .zero
  }

end AccessToken

namespace User

instance : Inhabited User :=
  ⟨{}⟩

/-- A user with a role, issued here. -/
def new (id : String) (role : UserRole) : User where
  id := id
  role := role
  issued := issuedHere

/-- Whether the user may administer the account. -/
def isAdminOrOwner (user : User) : Bool :=
  user.role = .admin || user.role = .owner

/-- The fields in the order of declaration. -/
def fieldNames : List String :=
  ["id", "role", "is_service_user", "non_deletable", "service_user_name",
    "auto_groups", "blocked", "last_login", "issued", "pats"]

/-- A user with the tokens under their identifiers. -/
def toJson (user : User) : Json :=
  .record [
    ("id", .text user.id),
    ("role", .text user.role.name),
    ("is_service_user", .bool user.isServiceUser),
    ("non_deletable", .bool user.nonDeletable),
    ("service_user_name", .text user.serviceUserName),
    ("auto_groups", .texts user.autoGroups),
    ("blocked", .bool user.blocked),
    ("last_login", user.lastLogin.toJson),
    ("issued", .text user.issued),
    ("pats", .ofDict AccessToken.toJson user.tokens)
  ]

/-- The user that a document spells. -/
def ofJson? (json : Json) : Option User := do
  let fields ← json.fields? fieldNames
  some {
    id := ← fields.get "id" Json.text? ""
    role := ← fields.get "role" (Json.variant? UserRole.named) .user
    isServiceUser := ← fields.get "is_service_user" Json.bool? false
    nonDeletable := ← fields.get "non_deletable" Json.bool? false
    serviceUserName := ← fields.get "service_user_name" Json.text? ""
    autoGroups := ← fields.get "auto_groups" Json.texts? []
    blocked := ← fields.get "blocked" Json.bool? false
    lastLogin := ← fields.get "last_login" Timestamp.ofJson? .zero
    issued := ← fields.get "issued" Json.text? ""
    tokens := ← fields.get "pats" (Json.dict? AccessToken.ofJson?) ∅
  }

end User

end TenantStore
