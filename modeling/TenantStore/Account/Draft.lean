import TenantStore.Account

namespace TenantStore.Account

/-!
# Drafting accounts

A draft is an account in the making that comes with a network, a group of all
peers that grows with every peer, and distinct addresses from `100.64.0.0/10`
for them. `Account.full` drafts an account with one of everything.
-/

/-- The time at which drafted records are created. -/
def draftTime : Timestamp :=
  ⟨1700000000000⟩

/-- An account in the making. -/
structure Draft where
  account : Account
  /-- The number of the next address. -/
  nextHost : Nat
  deriving Repr

namespace Draft

/-- A draft with nothing but the group of all peers. -/
def new (id : String) : Draft where
  account :=
    { Account.new id (id ++ "-owner") "" draftTime with
      network := { identifier := "net-" ++ id, net := "100.64.0.0/10" }
      groups := (∅ : Dict Group).insert (id ++ "-all")
        (Group.new (id ++ "-all") Group.allName []) }
  nextHost := 1

/-- The identifier of the group of all peers. -/
def allGroupId (draft : Draft) : String :=
  draft.account.id ++ "-all"

/-- The address with a number in `100.64.0.0/10`. -/
def hostAddress (number : Nat) : Address :=
  let value := 100 * 0x1000000 + 64 * 0x10000 + number
  .v4 (UInt8.ofNat (value / 0x1000000)) (UInt8.ofNat (value / 0x10000))
    (UInt8.ofNat (value / 0x100)) (UInt8.ofNat value)

/-- Add a peer with the next address and a free label, and put it into the group of all peers. -/
def addPeer (draft : Draft) (id key : String) : Draft :=
  let name := "peer " ++ id
  let peer : Peer := {
    id := id
    key := key
    ip := hostAddress draft.nextHost
    name := name
    dnsLabel := draft.account.unusedLabel name
    systemMeta := { hostname := "host-" ++ id }
    lastLogin := draftTime
  }
  { account :=
      { draft.account with
        groups := draft.account.groups.modify draft.allGroupId (fun group =>
          { group with peers := group.peers ++ [id] })
        peers := draft.account.peers.insert id peer }
    nextHost := draft.nextHost + 1 }

/-- Add a user with a role. -/
def addUser (draft : Draft) (id : String) (role : UserRole) : Draft :=
  let user := { User.new id role with lastLogin := draftTime }
  { draft with
    account :=
      { draft.account with users := draft.account.users.insert id user } }

/-- The token that drafts give to users. -/
def draftToken (id userId hashedToken : String) : AccessToken where
  id := id
  userId := userId
  name := "token " ++ id
  hashedToken := hashedToken
  expirationDate := ⟨1800000000000⟩
  createdBy := userId
  createdAt := draftTime

/-- Give a user a token; a user that is not there yet is added. -/
def addToken (draft : Draft) (userId tokenId hashedToken : String) : Draft :=
  let user := (draft.account.users.get? userId).getD (User.new userId .user)
  let user :=
    { user with
      tokens := user.tokens.insert tokenId
        (draftToken tokenId userId hashedToken) }
  { draft with
    account :=
      { draft.account with users := draft.account.users.insert userId user } }

/-- Add a reusable key that puts peers into the group of all peers. It stands under its secret. -/
def addSetupKey (draft : Draft) (id key : String) : Draft :=
  let setupKey : SetupKey := {
    id := id
    key := key
    name := "key " ++ id
    kind := .reusable
    createdAt := draftTime
    autoGroups := [draft.allGroupId]
  }
  { draft with
    account :=
      { draft.account with
        setupKeys := draft.account.setupKeys.insert key setupKey } }

/-- Add a group with some peers. -/
def addGroup (draft : Draft) (id name : String) (peers : List String) : Draft :=
  { draft with
    account :=
      { draft.account with
        groups := draft.account.groups.insert id (Group.new id name peers) } }

/-- Add a route to a network through a peer, open to all peers. -/
def addRoute (draft : Draft) (id network peer : String) : Draft :=
  let route : Route := {
    id := id
    network := network
    netId := "route-" ++ id
    peer := peer
    metric := 9999
    enabled := true
    groups := [draft.allGroupId]
  }
  { draft with
    account :=
      { draft.account with routes := draft.account.routes.insert id route } }

/-- Add a policy that accepts all traffic between the given groups. -/
def addPolicy
    (draft : Draft)
    (id : String)
    (sources destinations : List String) :
    Draft :=
  let policy : Policy := {
    id := id
    name := "policy " ++ id
    enabled := true
    rules := [{
      id := id ++ "-rule"
      policyId := id
      name := "rule " ++ id
      enabled := true
      action := .accept
      sources := sources
      destinations := destinations
      bidirectional := true
      protocol := .all
    }]
  }
  { draft with
    account :=
      { draft.account with policies := draft.account.policies ++ [policy] } }

/-- Add one name server for all peers and every domain. -/
def addNameServerGroup (draft : Draft) (id : String) (ip : Address) : Draft :=
  let group : NameServerGroup := {
    id := id
    name := "dns " ++ id
    nameServers := [{ ip := ip, kind := .udp, port := 53 }]
    groups := [draft.allGroupId]
    primary := true
    enabled := true
  }
  { draft with
    account :=
      { draft.account with
        nameServerGroups := draft.account.nameServerGroups.insert id group } }

/-- Make the account the owner of a private domain. -/
def ownDomain (draft : Draft) (domain : String) : Draft :=
  { draft with
    account :=
      { draft.account with
        domain := domain
        domainCategory := .privateDomain
        isDomainPrimary := true } }

end Draft

/-- An account with one of everything. -/
def full (id : String) : Account :=
  let draft := Draft.new id
  let draft := draft.addPeer (id ++ "-p1") (id ++ "-key1")
  let draft := draft.addPeer (id ++ "-p2") (id ++ "-key2")
  let draft := draft.addUser (id ++ "-u1") .owner
  let draft := draft.addToken (id ++ "-u2") (id ++ "-t1") (id ++ "-hash1")
  let draft := draft.addSetupKey (id ++ "-sk1") (Text.upperCase (id ++ "-SETUP"))
  let draft := draft.addGroup (id ++ "-dev") "dev" [id ++ "-p1"]
  let draft := draft.addRoute (id ++ "-r1") "10.10.0.0/16" (id ++ "-p1")
  let draft := draft.addPolicy (id ++ "-pol") [id ++ "-dev"] [id ++ "-all"]
  let draft := draft.addNameServerGroup (id ++ "-ns") (.v4 1 1 1 1)
  draft.account

end TenantStore.Account
