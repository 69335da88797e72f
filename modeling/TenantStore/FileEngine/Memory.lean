import TenantStore.Call
import TenantStore.FileEngine.Indices
import TenantStore.Notice

namespace TenantStore.FileEngine

/-!
# The memory of the file engine

All accounts, with an index for each way to look them up. `Memory.perform`
says what each call does to the memory, what it answers, and whether the
memory has to be written to its file afterwards.

Indices may go stale, because accounts move entities from one to another.
A lookup checks what it finds against the account, and removes the entry when
the account does not hold the key.
-/

/-- Accounts with their indices. -/
structure Memory where
  accounts : Dict Account := ∅
  indices : Indices := {}
  /-- Hashes of tokens to identifiers of tokens. -/
  tokenOfHash : Dict String := ∅
  /-- Identifiers of tokens to identifiers of users. -/
  userOfToken : Dict String := ∅
  installation : String := ""
  deriving Repr, DecidableEq

namespace Memory

instance : Inhabited Memory :=
  ⟨{}⟩

/-- A memory without accounts. -/
def empty : Memory :=
  {}

/-- The tokens of an account, each with the user that holds it. -/
def tokensOf (account : Account) : List (User × AccessToken) :=
  account.users.values.flatMap (fun user =>
    user.tokens.values.map (fun token => (user, token)))

/-- The hashes of an account's tokens, each with its token. -/
def hashEntries (account : Account) : List (String × String) :=
  (tokensOf account).map (fun held => (held.2.hashedToken, held.2.id))

/-- The tokens of an account, each with its user. -/
def tokenEntries (account : Account) : List (String × String) :=
  (tokensOf account).map (fun held => (held.2.id, held.1.id))

/-- Add entries to an index. -/
def addEntries (entries : List (String × String)) (index : Dict String) :
    Dict String :=
  entries.foldl (fun index entry => index.insert entry.1 entry.2) index

/-- Remove the entries of an index that are among the given ones. -/
def removeEntries (entries : List (String × String)) (index : Dict String) :
    Dict String :=
  entries.foldl (fun index entry => eraseOwned index entry.1 entry.2) index

/-- Enter an account into the indices under an identifier. -/
def index (memory : Memory) (id : String) (account : Account) : Memory :=
  { memory with
    indices := memory.indices.addAccount id account
    tokenOfHash := addEntries (hashEntries account) memory.tokenOfHash
    userOfToken := addEntries (tokenEntries account) memory.userOfToken }

/-- Take an account out of the indices, where they still lead to it. -/
def unindex (memory : Memory) (account : Account) : Memory :=
  { memory with
    indices := memory.indices.removeAccount account
    tokenOfHash := removeEntries (hashEntries account) memory.tokenOfHash
    userOfToken := removeEntries (tokenEntries account) memory.userOfToken }

/-- Keep an account under its identifier. -/
def put (memory : Memory) (account : Account) : Memory :=
  { memory with accounts := memory.accounts.insert account.id account }

/-- Drop the account with an identifier, and its entries. -/
def drop (memory : Memory) (id : String) : Memory :=
  match memory.accounts.get? id with
  | none => memory
  | some stored =>
      unindex { memory with accounts := memory.accounts.erase id } stored

/-- Replace the account of the same identifier. -/
def save (memory : Memory) (account : Account) : Memory :=
  let account := account.normalized
  ((memory.drop account.id).index account.id account).put account

/-- Remove an account together with every entry that leads to it. -/
def delete (memory : Memory) (account : Account) : Memory :=
  let remaining := (memory.drop account.id).unindex account
  { remaining with indices := remaining.indices.forget account.id }

/-- Replace everything by the given accounts. -/
def load (accounts : List Account) (installation : String) : Memory :=
  accounts.foldl
    (fun memory account => (memory.index account.id account).put account)
    { installation := installation }

/-! ## Reading -/

/-- Every account, in the order of the identifiers that the accounts carry. -/
def all (memory : Memory) : List Account :=
  memory.accounts.values.mergeSort (fun left right => left.id ≤ right.id)

/-- The account with an identifier. -/
def account? (memory : Memory) (id : String) : Except Problem Account :=
  match memory.accounts.get? id with
  | some account => .ok account
  | none => .error (.notFound .account id)

/-- The memory after a search, what it found, and what it noticed. -/
structure Search (α : Type) where
  memory : Memory
  found : Except Problem α
  notices : List Notice := []
  deriving Repr

/-- Follow an index to an account, and check that the account holds the key. -/
def follow (memory : Memory) (lookup : Lookup) (key : String) : Search Account :=
  let missing := Except.error (Problem.notFound lookup.subject key)
  match (memory.indices.get lookup).get? (lookup.normalize key) with
  | none => { memory := memory, found := missing }
  | some id =>
      match (memory.accounts.get? id).filter (lookup.holds · key) with
      | some account => { memory := memory, found := .ok account }
      | none =>
          { memory :=
              { memory with
                indices := memory.indices.modify lookup
                  (·.erase (lookup.normalize key)) }
            found := missing
            notices := [.staleEntry lookup.subject key id] }

/-- The identifier behind a key of an index, once the account is checked. -/
def followId (memory : Memory) (lookup : Lookup) (key : String) : Search String :=
  let search := memory.follow lookup key
  { memory := search.memory
    found := search.found.map (fun _ =>
      ((memory.indices.get lookup).get? (lookup.normalize key)).getD "")
    notices := search.notices }

/-- Whether some account has a token with an identifier and a hash. -/
def hasToken (memory : Memory) (token hash : String) : Bool :=
  memory.accounts.any (fun account =>
    match (account.userByToken? token).bind (·.tokens.get? token) with
    | some held => held.hashedToken = hash
    | none => false)

/-- The token with a hash. -/
def tokenByHash (memory : Memory) (hash : String) : Search String :=
  let missing := Except.error (Problem.notFound .hashedToken hash)
  match memory.tokenOfHash.get? hash with
  | none => { memory := memory, found := missing }
  | some token =>
      if memory.hasToken token hash then
        { memory := memory, found := .ok token }
      else
        { memory := { memory with tokenOfHash := memory.tokenOfHash.erase hash }
          found := missing
          notices := [.staleHash token] }

/-- The user with an identifier, in the account that the index names. -/
def indexedUser? (memory : Memory) (id : String) : Option User := do
  let accountId ← memory.indices.user.get? id
  let account ← memory.accounts.get? accountId
  account.users.get? id

/-- The user that holds a token. -/
def userByToken (memory : Memory) (token : String) : Search User :=
  let missing := Except.error (Problem.notFound .token token)
  match memory.userOfToken.get? token with
  | none => { memory := memory, found := missing }
  | some userId =>
      match (memory.indexedUser? userId).filter (·.tokens.contains token) with
      | some user => { memory := memory, found := .ok user }
      | none =>
          { memory := { memory with userOfToken := memory.userOfToken.erase token }
            found := missing
            notices := [.staleToken token userId] }

/-! ## Partial updates -/

/-- Change one peer of one account. -/
def updatePeer
    (memory : Memory)
    (accountId peerId : String)
    (change : Peer → Peer) :
    Except Problem Memory := do
  let account ← memory.account? accountId
  if account.peers.contains peerId then
    .ok { memory with
      accounts := memory.accounts.insert accountId
        { account with peers := account.peers.modify peerId change } }
  else
    .error (.notFound .peer peerId)

/-- Change one user of one account. -/
def updateUser
    (memory : Memory)
    (accountId userId : String)
    (change : User → User) :
    Except Problem Memory := do
  let account ← memory.account? accountId
  if account.users.contains userId then
    .ok { memory with
      accounts := memory.accounts.insert accountId
        { account with users := account.users.modify userId change } }
  else
    .error (.notFound .user userId)

/-! ## Calls -/

/-- What a call does. -/
structure Reply where
  memory : Memory
  outcome : Outcome
  notices : List Notice := []
  /-- Whether the memory is to be written to its file. -/
  writes : Bool := false
  deriving Repr

/-- The reply to a search. -/
def Search.reply (answer : α → Answer) (search : Search α) : Reply where
  memory := search.memory
  outcome := search.found.map answer
  notices := search.notices

/-- The reply to an update that is not written at once. -/
def update (memory : Memory) : Except Problem Memory → Reply
  | .ok updated => { memory := updated, outcome := .ok .done }
  | .error problem => { memory := memory, outcome := .error problem }

/-- The reply to a call that changes nothing. -/
def answer (memory : Memory) (outcome : Outcome) : Reply where
  memory := memory
  outcome := outcome

/-- The reply to a call after which the memory is written. -/
def written (memory : Memory) : Reply where
  memory := memory
  outcome := .ok .done
  writes := true

/-- What a call does to the memory, and what it answers. -/
def perform (memory : Memory) : Call → Reply
  | .save account =>
      if account.id.isEmpty then
        memory.answer (.error .emptyAccountId)
      else
        (memory.save account).written
  | .delete account =>
      if account.id.isEmpty then
        memory.answer (.error .emptyAccountId)
      else
        (memory.delete account).written
  | .get id => memory.answer ((memory.account? id).map .account)
  | .all => memory.answer (.ok (.accounts memory.all))
  | .find lookup key => (memory.follow lookup key).reply .account
  | .idByPeerKey key => (memory.followId .peerKey key).reply .text
  | .tokenByHash hash => (memory.tokenByHash hash).reply .text
  | .userByToken token => (memory.userByToken token).reply .user
  | .savePeerStatus account peer status =>
      memory.update (memory.updatePeer account peer (fun stored =>
        { stored with status := status }))
  | .savePeerLocation account peer location =>
      memory.update (memory.updatePeer account peer (fun stored =>
        { stored with location := location }))
  | .saveLastLogin account user time =>
      memory.update (memory.updateUser account user (fun stored =>
        { stored with lastLogin := time }))
  | .saveInstallation id => ({ memory with installation := id } : Memory).written
  | .installation => memory.answer (.ok (.text memory.installation))
  | .dropHashIndex hash =>
      ({ memory with tokenOfHash := memory.tokenOfHash.erase hash } : Memory).answer
        (.ok .done)
  | .dropTokenIndex token =>
      ({ memory with userOfToken := memory.userOfToken.erase token } : Memory).answer
        (.ok .done)
  | .close => memory.written

end Memory

end TenantStore.FileEngine
