import TenantStore.FileEngine.Memory

namespace TenantStore.FileEngine

/-!
# Bringing loaded accounts up to date

Accounts that were written long ago lack what later versions added. A
migration runs over the memory of loaded accounts, in nine steps, each of which
leaves alone what it finds in current shape. The indices are filled on the way:
each of them by one step, from the accounts as that step finds them. The last
step gives peers new identifiers, so it enters these into the index of peers.
-/

/-- Where a peer without an identifier was found. -/
structure PeerOrigin where
  /-- The identifier that its account is filed under. -/
  accountSlot : String
  /-- The identifier that its account carries. -/
  accountId : String
  /-- What the peer is filed under. -/
  slot : String
  /-- The public key of the peer. -/
  key : String
  deriving Repr, DecidableEq

/-- What a migration takes from outside: times, and new identifiers. -/
structure Arrival where
  now : Timestamp
  /--
  When the peers of an account are taken to have logged in, given what the
  account is filed under. The clock is read anew for every account.
  -/
  loginTime : String → Timestamp := fun _ => now
  newId : PeerOrigin → String

namespace Migration

/-! ## What the steps change -/

/-- The settings of accounts from before settings: their logins never expired. -/
def legacySettings : Settings where
  peerLoginExpirationEnabled := false

/-- Supply settings. -/
def supplySettings (account : Account) : Account :=
  { account with settings := some (account.settings.getD legacySettings) }

/-- A user with an issuer. -/
def supplyUserIssuer (user : User) : User :=
  { user with issued := if user.issued.isEmpty then issuedHere else user.issued }

/-- Supply the issuers of users. -/
def supplyUserIssuers (account : Account) : Account :=
  { account with users := account.users.mapValues (fun _ => supplyUserIssuer) }

/-- Bring every policy up to date. -/
def upgradePolicies (account : Account) : Account :=
  { account with policies := account.policies.map Policy.upgrade }

/-- Whether a peer has no label yet. -/
def isUnlabeled (peer : Peer) : Bool :=
  peer.dnsLabel.isEmpty

/-- What the peers without a label are filed under, in ascending order. -/
def unlabeledSlots (account : Account) : List String :=
  (account.peers.filter (fun _ peer => isUnlabeled peer)).keys

/-- Give one peer a label that no other peer of the account has. -/
def labelPeer (account : Account) (slot : String) : Account :=
  { account with
    peers := account.peers.modify slot (fun peer =>
      { peer with dnsLabel := account.unusedLabel peer.name }) }

/-- Give every peer without a label one, in the order of their slots. -/
def labelPeers (account : Account) : Account :=
  (unlabeledSlots account).foldl labelPeer account

/-- A group with an issuer. -/
def supplyGroupIssuer (group : Group) : Group :=
  { group with issued := if group.issued.isEmpty then issuedHere else group.issued }

/-- Supply the issuers of groups. -/
def supplyGroupIssuers (account : Account) : Account :=
  { account with groups := account.groups.mapValues (fun _ => supplyGroupIssuer) }

/-- A route that is given to some group, to the one named if to no other. -/
def supplyRouteGroup (group : String) (route : Route) : Route :=
  { route with groups := if route.groups.isEmpty then [group] else route.groups }

/-- Give routes without groups to the group of all peers, if there is one. -/
def supplyRouteGroups (account : Account) : Account :=
  match account.groupAll? with
  | none => account
  | some group =>
      { account with
        routes := account.routes.mapValues (fun _ => supplyRouteGroup group.id) }

/-! ### Identifiers of peers -/

/-- A peer that has logged in, now if never before. -/
def supplyLogin (now : Timestamp) (peer : Peer) : Peer :=
  { peer with lastLogin := if peer.lastLogin.isZero then now else peer.lastLogin }

/-- The new identifier of a peer that has none. -/
def newPeerId
    (arrival : Arrival)
    (accountSlot : String)
    (account : Account)
    (slot : String)
    (peer : Peer) :
    String :=
  arrival.newId {
    accountSlot := accountSlot
    accountId := account.id
    slot := slot
    key := peer.key
  }

/-- Where a peer is filed in the end: under its identifier if that is new. -/
def finalSlot
    (arrival : Arrival)
    (accountSlot : String)
    (account : Account)
    (slot : String)
    (peer : Peer) :
    String :=
  if peer.id.isEmpty then
    newPeerId arrival accountSlot account slot peer
  else
    slot

/-- A peer with an identifier. -/
def identifyPeer
    (arrival : Arrival)
    (accountSlot : String)
    (account : Account)
    (slot : String)
    (peer : Peer) :
    Peer :=
  if peer.id.isEmpty then
    { peer with id := newPeerId arrival accountSlot account slot peer }
  else
    peer

/-- What a reference to a slot becomes. -/
def finalReference
    (arrival : Arrival)
    (accountSlot : String)
    (account : Account)
    (reference : String) :
    String :=
  match account.peers.get? reference with
  | none => reference
  | some peer => finalSlot arrival accountSlot account reference peer

/-- Give peers without an identifier one, and file them and refer to them by it. -/
def identifyPeers
    (arrival : Arrival)
    (accountSlot : String)
    (account : Account) :
    Account :=
  { account with
    peers := .ofList (account.peers.entries.map (fun entry =>
      (finalSlot arrival accountSlot account entry.1 entry.2,
        supplyLogin (arrival.loginTime accountSlot)
          (identifyPeer arrival accountSlot account entry.1 entry.2))))
    groups := account.groups.mapValues (fun _ group =>
      { group with
        peers := group.peers.map (finalReference arrival accountSlot account) })
    routes := account.routes.mapValues (fun _ route =>
      { route with
        peer := finalReference arrival accountSlot account route.peer }) }

/-- The new identifiers of an account's peers that have none. -/
def newPeerIds (arrival : Arrival) (accountSlot : String) (account : Account) :
    List String :=
  (account.peers.entries.filter (fun entry => entry.2.id.isEmpty)).map (fun entry =>
    newPeerId arrival accountSlot account entry.1 entry.2)

/-! ## Filling the indices -/

/-- Enter something of each account into an index. -/
def enterAll
    (entriesOf : String → Account → List (String × String))
    (accounts : Dict Account)
    (index : Dict String) :
    Dict String :=
  accounts.entries.foldl
    (fun index entry => Memory.addEntries (entriesOf entry.1 entry.2) index)
    index

/-- What an account is found by, each with where the account is filed. -/
def keyEntries (lookup : Lookup) (accountSlot : String) (account : Account) :
    List (String × String) :=
  (lookup.keysOf account).map (fun key => (key, accountSlot))

/-- The new identifiers of an account's peers, each with where the account is filed. -/
def newPeerEntries (arrival : Arrival) (accountSlot : String) (account : Account) :
    List (String × String) :=
  (newPeerIds arrival accountSlot account).map (fun id => (id, accountSlot))

/-- Enter what each account is found by into the index of a lookup. -/
def enterLookup (memory : Memory) (lookup : Lookup) : Memory :=
  { memory with
    indices := memory.indices.modify lookup
      (enterAll (keyEntries lookup) memory.accounts) }

/-- Enter the tokens of each account. -/
def enterTokens (memory : Memory) : Memory :=
  { memory with
    tokenOfHash := enterAll (fun _ => Memory.hashEntries) memory.accounts
      memory.tokenOfHash
    userOfToken := enterAll (fun _ => Memory.tokenEntries) memory.accounts
      memory.userOfToken }

/-- Enter the identifiers that peers are about to get. -/
def enterNewPeerIds (arrival : Arrival) (memory : Memory) : Memory :=
  { memory with
    indices := memory.indices.modify .peerId
      (enterAll (newPeerEntries arrival) memory.accounts) }

/-! ## The steps -/

/-- A step: what it does to the memory, and how many records it changes. -/
structure Step where
  name : String
  change : Memory → Memory
  count : Dict Account → Nat
  /-- What the step finds amiss. -/
  remarks : Dict Account → List Notice := fun _ => []

/-- Change every account, given what it is filed under. -/
def changeAccounts (change : String → Account → Account) (memory : Memory) : Memory :=
  { memory with accounts := memory.accounts.mapValues change }

/-- How many records of all accounts there are, given how many each has. -/
def countIn (count : Account → Nat) (accounts : Dict Account) : Nat :=
  (accounts.values.map count).foldr (· + ·) 0

/-- The accounts whose routes cannot be given to a group of all peers. -/
def withoutGroupOfAll (accounts : Dict Account) : List Notice :=
  (accounts.entries.filter (fun entry => entry.2.groupAll?.isNone)).map
    (fun entry => .noGroupOfAll entry.1)

/-- The steps in order. -/
def steps (arrival : Arrival) : List Step := [
  { name := "default settings"
    change := changeAccounts (fun _ => supplySettings)
    count := countIn (fun account => if account.settings.isNone then 1 else 0) },
  { name := "peer and setup key indices"
    change := fun memory => [.setupKey, .peerKey, .peerId].foldl enterLookup memory
    count := fun _ => 0 },
  { name := "users and tokens"
    change := fun memory =>
      changeAccounts (fun _ => supplyUserIssuers) (enterTokens (enterLookup memory .user))
    count := countIn (fun account =>
      account.users.values.countP (fun user => user.issued.isEmpty)) },
  { name := "private domains"
    change := fun memory => enterLookup memory .privateDomain
    count := fun _ => 0 },
  { name := "policies"
    change := changeAccounts (fun _ => upgradePolicies)
    count := countIn (fun account => account.policies.countP Policy.isOutdated) },
  { name := "dns labels"
    change := changeAccounts (fun _ => labelPeers)
    count := countIn (fun account => (unlabeledSlots account).length) },
  { name := "group issuer"
    change := changeAccounts (fun _ => supplyGroupIssuers)
    count := countIn (fun account =>
      account.groups.values.countP (fun group => group.issued.isEmpty)) },
  { name := "route groups"
    change := changeAccounts (fun _ => supplyRouteGroups)
    count := countIn (fun account =>
      if account.groupAll?.isSome then
        account.routes.values.countP (fun route => route.groups.isEmpty)
      else
        0)
    remarks := withoutGroupOfAll },
  { name := "peer identity"
    change := fun memory =>
      changeAccounts (identifyPeers arrival) (enterNewPeerIds arrival memory)
    count := countIn (fun account =>
      account.peers.values.countP (fun peer => peer.lastLogin.isZero)
        + account.peers.values.countP (fun peer => peer.id.isEmpty)) }
]

/-- The memory after some steps, and what each of them changed. -/
def runSteps : List Step → Memory → Memory × List (String × Nat)
  | [], memory => (memory, [])
  | step :: rest, memory =>
      let (migrated, changes) := runSteps rest (step.change memory)
      (migrated, (step.name, step.count memory.accounts) :: changes)

/-- What each step of the migration changes. -/
def report (arrival : Arrival) (memory : Memory) : Report :=
  ⟨(runSteps (steps arrival) memory).2⟩

/-- What each step finds amiss, and how many records it then changes. -/
def stepNotices : List Step → Memory → List Notice
  | [], _ => []
  | step :: rest, memory =>
      step.remarks memory.accounts
        ++ .migrated step.name (step.count memory.accounts)
        :: stepNotices rest (step.change memory)

/-- What there is to notice while a memory is brought up to date. -/
def notices (arrival : Arrival) (memory : Memory) : List Notice :=
  stepNotices (steps arrival) memory

end Migration

/-- A memory without entries in its indices. -/
def Memory.withoutIndices (memory : Memory) : Memory where
  accounts := memory.accounts
  installation := memory.installation

/-- Bring accounts up to date and fill the indices anew. -/
def Memory.migrate (arrival : Arrival) (memory : Memory) : Memory :=
  (Migration.runSteps (Migration.steps arrival) memory.withoutIndices).1

end TenantStore.FileEngine
