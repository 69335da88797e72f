import TenantStore.Proofs.Documents
import TenantStore.Proofs.TableEngine.Cells
import TenantStore.TableEngine.Rows
import TenantStore.TableEngine.Schema

namespace TenantStore.TableEngine

/-!
# Kinds of entities

Ten kinds of entities have a table each. For every kind this module says
how an entity is written to a row and how it is read from one.
-/

open Relational (Affinity Cell Row Table)

/-- The kinds of entities that have a table. -/
inductive Kind where
  | account
  | setupKey
  | peer
  | user
  | token
  | group
  | policy
  | rule
  | route
  | nameServerGroup
  deriving Repr, DecidableEq

namespace Kind

/-- The kinds in the order of their tables. -/
def all : List Kind :=
  [.account, .setupKey, .peer, .user, .token, .group, .policy, .rule, .route,
    .nameServerGroup]

/-- Every kind is listed. -/
theorem mem_all (kind : Kind) : kind ∈ all := by
  cases kind <;> decide

instance {property : Kind → Prop} [DecidablePred property] :
    Decidable (∀ kind, property kind) :=
  decidable_of_iff (∀ kind ∈ all, property kind)
    ⟨fun holds kind => holds kind kind.mem_all, fun holds kind _ => holds kind⟩

/-- What an entity of a kind is. -/
abbrev Value : Kind → Type
  | .account => Account
  | .setupKey => SetupKey
  | .peer => Peer
  | .user => User
  | .token => AccessToken
  | .group => Group
  | .policy => Policy
  | .rule => PolicyRule
  | .route => Route
  | .nameServerGroup => NameServerGroup

/-- The name of the table of a kind. -/
def tableName : Kind → String
  | .account => "accounts"
  | .setupKey => "setup_keys"
  | .peer => "peers"
  | .user => "users"
  | .token => "personal_access_tokens"
  | .group => "groups"
  | .policy => "policies"
  | .rule => "policy_rules"
  | .route => "routes"
  | .nameServerGroup => "name_server_groups"

/-- The table of a kind, without rows. -/
def schema : Kind → Table
  | .account => Schema.accounts
  | .setupKey => Schema.setupKeys
  | .peer => Schema.peers
  | .user => Schema.users
  | .token => Schema.tokens
  | .group => Schema.groups
  | .policy => Schema.policies
  | .rule => Schema.policyRules
  | .route => Schema.routes
  | .nameServerGroup => Schema.nameServerGroups

/-- The column that names the owner of an entity. An account has none. -/
def ownerColumn : Kind → String
  | .token => "user_id"
  | .rule => "policy_id"
  | _ => "account_id"

/-- The identifier of an entity. -/
def key : (kind : Kind) → kind.Value → String
  | .account => Account.id
  | .setupKey => SetupKey.id
  | .peer => Peer.id
  | .user => User.id
  | .token => AccessToken.id
  | .group => Group.id
  | .policy => Policy.id
  | .rule => PolicyRule.id
  | .route => Route.id
  | .nameServerGroup => NameServerGroup.id

/-- The cells that an entity of some owner is written to. -/
def cells : (kind : Kind) → String → kind.Value → Except Problem Cells
  | .account, _ => accountCells
  | .setupKey, owner => setupKeyCells owner
  | .peer, owner => peerCells owner
  | .user, owner => userCells owner
  | .token, owner => tokenCells owner
  | .group, owner => fun group => .ok (groupCells owner group)
  | .policy, owner => fun policy => .ok (policyCells owner policy)
  | .rule, owner => fun rule => .ok (ruleCells owner rule)
  | .route, owner => fun route => .ok (routeCells owner route)
  | .nameServerGroup, owner =>
      fun group => .ok (nameServerGroupCells owner group)

/-- How an entity is read from a row. -/
def read : (kind : Kind) → Row → Option kind.Value
  | .account => readAccount
  | .setupKey => readSetupKey
  | .peer => readPeer
  | .user => readUser
  | .token => readToken
  | .group => readGroup
  | .policy => readPolicy
  | .rule => readRule
  | .route => readRoute
  | .nameServerGroup => readNameServerGroup

/--
What a row keeps of an entity: nothing that has a table of its own, and the
owner where the entity names it.
-/
def kept : (kind : Kind) → String → kind.Value → kind.Value
  | .account, _ => fun account =>
      { account with
        setupKeys := ∅, peers := ∅, users := ∅, groups := ∅, policies := [],
        routes := ∅, nameServerGroups := ∅ }
  | .user, _ => fun user => { user with tokens := ∅ }
  | .token, owner => fun token => { token with userId := owner }
  | .policy, _ => fun policy => { policy with rules := [] }
  | .rule, owner => fun rule => { rule with policyId := owner }
  | .setupKey, _ => id
  | .peer, _ => id
  | .group, _ => id
  | .route, _ => id
  | .nameServerGroup, _ => id

/-- No table has two columns of one name. -/
theorem columns_distinct (kind : Kind) :
    (kind.schema.columns.map Relational.Column.name).Nodup := by
  cases kind <;> decide

/-- No two kinds share a table. -/
theorem tableName_injective {left right : Kind}
    (same : left.tableName = right.tableName) :
    left = right := by
  cases left <;> cases right <;> first | rfl | exact absurd same (by decide)

end Kind

/-! ## Choices in cells -/

/-- A category is read back from its name. -/
@[simp] theorem ofName_domainCategory (category : DomainCategory) :
    DomainCategory.ofName category.name = category := by
  cases category <;> rfl

/-- A kind of setup key is read back from its name. -/
@[simp] theorem ofName_setupKeyKind (kind : SetupKeyKind) :
    SetupKeyKind.ofName kind.name = kind := by
  cases kind <;> rfl

/-- A role is read back from its name. -/
@[simp] theorem ofName_userRole (role : UserRole) : UserRole.ofName role.name = role := by
  cases role <;> rfl

/-- An action is read back from its name. -/
@[simp] theorem ofName_trafficAction (action : TrafficAction) :
    TrafficAction.ofName action.name = action := by
  cases action <;> rfl

/-- A protocol is read back from its name. -/
@[simp] theorem ofName_ruleProtocol (protocol : RuleProtocol) :
    RuleProtocol.ofName protocol.name = protocol := by
  cases protocol <;> rfl

/-- A family is read back from its number. -/
@[simp] theorem ofCode_networkFamily (family : NetworkFamily) :
    NetworkFamily.ofCode family.code = family := by
  cases family <;> rfl

/-! ## Cells of a kind -/

/-- A status is written if the peer was last seen at a time that fits. -/
theorem statusCells_eq_ok {status : PeerStatus} {given : Cells}
    (written : statusCells status = .ok given) :
    status.lastSeen.millis.toNat < 0x8000000000000000 ∧
      given = [
        ("status_last_seen", .integer status.lastSeen.millis.toNat),
        ("status_connected", .flag status.connected),
        ("status_login_expired", .flag status.loginExpired)] := by
  simp only [statusCells, Except.bind_eq_ok_iff, timeCell_eq_ok_iff] at written
  obtain ⟨_, ⟨small, rfl⟩, same⟩ := written
  cases same
  exact ⟨small, rfl⟩

/-- The row of a table that some cells are written to. -/
abbrev rowOf (number : Int) (table : Table) (given : Cells) : Row :=
  { number := number, cells := table.newCells given }

end TenantStore.TableEngine
