import TenantStore.Call
import TenantStore.Relational.Database
import TenantStore.TableEngine.Rows

namespace TenantStore.TableEngine

/-!
# Calls on a database

Every call is a few statements on the tables; there are no indices of its own.
Saving an account deletes all its rows and writes them again, taking over rows
of equal identifiers from other accounts. `perform` says what each call does to
the database and what it answers; a call that fails leaves it as it was.
-/

open Relational (Cell Row Table Database)

/-- Read every row of a list. -/
def readRows (read : Row → Option α) (rows : List Row) : Except Problem (List α) :=
  match rows.mapM read with
  | some values => .ok values
  | none => .error .database

/-- Read a row. -/
def readRow (read : Row → Option α) (row : Row) : Except Problem α :=
  match read row with
  | some value => .ok value
  | none => .error .database

/-! ## Loading -/

/-- The rows that belong to the owner of an identifier. -/
def ownedRows (db : Database) (table ownerColumn id : String) : List Row :=
  db.rowsWith table ownerColumn (.text id)

/-- The entities of a table that belong to an account. -/
def loadOwned
    (db : Database)
    (table : String)
    (read : Row → Option α)
    (accountId : String) :
    Except Problem (List α) :=
  readRows read (ownedRows db table "account_id" accountId)

/-- Entities under their keys. -/
def keyed (key : α → String) (entities : List α) : Dict α :=
  .ofList (entities.map (fun entity => (key entity, entity)))

/-- Give a token to the user that it belongs to. -/
def giveToken (users : Dict User) (token : AccessToken) : Dict User :=
  users.modify token.userId (fun user =>
    { user with tokens := user.tokens.insert token.id token })

/-- The rows of the tokens of an account's users. -/
def tokenRows (db : Database) (accountId : String) : List Row :=
  let userIds :=
    (ownedRows db "users" "account_id" accountId).map (·.cell "id")
  match db.tables.get? "personal_access_tokens" with
  | none => []
  | some table =>
      table.rows.filter (fun row =>
        userIds.any (fun id => id.sameValue (row.cell "user_id")))

/-- The users of an account with their tokens. -/
def loadUsers (db : Database) (accountId : String) : Except Problem (Dict User) := do
  let users ← loadOwned db "users" readUser accountId
  let tokens ← readRows readToken (tokenRows db accountId)
  .ok (tokens.foldl giveToken (keyed User.id users))

/-- A policy with its rules. -/
def loadRules (db : Database) (policy : Policy) : Except Problem Policy := do
  let rules ← readRows readRule
    (ownedRows db "policy_rules" "policy_id" policy.id)
  .ok { policy with rules := rules }

/-- The policies of an account with their rules. -/
def loadPolicies (db : Database) (accountId : String) :
    Except Problem (List Policy) := do
  let policies ← loadOwned db "policies" readPolicy accountId
  policies.mapM (loadRules db)

/-- The account with an identifier and everything in it. -/
def loadAccount (db : Database) (id : String) : Except Problem Account :=
  match db.rowsWith "accounts" "id" (.text id) with
  | [] => .error (.notFound .account id)
  | row :: _ => do
      let account ← readRow readAccount row
      let setupKeys ← loadOwned db "setup_keys" readSetupKey id
      let peers ← loadOwned db "peers" readPeer id
      let users ← loadUsers db id
      let groups ← loadOwned db "groups" readGroup id
      let policies ← loadPolicies db id
      let routes ← loadOwned db "routes" readRoute id
      let nameServerGroups ←
        loadOwned db "name_server_groups" readNameServerGroup id
      .ok { account with
        setupKeys := keyed SetupKey.key setupKeys
        peers := keyed Peer.id peers
        users := users
        groups := keyed Group.id groups
        policies := policies
        routes := keyed Route.id routes
        nameServerGroups := keyed NameServerGroup.id nameServerGroups }

/-- Every account, in the order of the identifiers. -/
def loadAll (db : Database) : Except Problem (List Account) := do
  let table ← db.table? "accounts"
  let ids ← readRows (readText · "id") table.rows
  (ids.mergeSort (fun left right => left ≤ right)).mapM (loadAccount db)

/-- The user with an identifier and its tokens. -/
def loadUser (db : Database) (id : String) : Except Problem User := do
  let users ← readRows readUser (db.rowsWith "users" "id" (.text id))
  match users with
  | [] => .error (.notFound .user id)
  | user :: _ => do
      let tokens ← readRows readToken
        (ownedRows db "personal_access_tokens" "user_id" id)
      .ok (tokens.foldl
        (fun user token =>
          { user with tokens := user.tokens.insert token.id token })
        user)

/-! ## Finding -/

/-- Whether a row holds a text in a column, up to the case of ASCII letters. -/
def holdsNoCase (column text : String) (row : Row) : Bool :=
  match row.cell column with
  | .text value => Text.equalNoCase value text
  | _ => false

/-- Whether a row is that of an account that owns a private domain. -/
def ownsDomain (domain : String) (table : Table) (row : Row) : Bool :=
  holdsNoCase "domain" domain row
    && row.cell "domain" != .text ""
    && table.holds "is_domain_primary_account" (.integer 1) row
    && table.holds "domain_category" (.text "private") row

/-- The table in which a lookup searches. -/
def lookupTable : Lookup → String
  | .setupKey => "setup_keys"
  | .peerKey => "peers"
  | .peerId => "peers"
  | .user => "users"
  | .privateDomain => "accounts"

/-- The column in which a found row names the account. -/
def lookupAnswer : Lookup → String
  | .privateDomain => "id"
  | _ => "account_id"

/-- What a lookup names in messages. -/
def lookupSubject : Lookup → Subject
  | .peerId => .peer
  | lookup => lookup.subject

/-- Whether a row is what a key leads to. -/
def leadsTo (lookup : Lookup) (key : String) (table : Table) (row : Row) : Bool :=
  match lookup with
  | .setupKey => holdsNoCase "key" key row
  | .peerKey => table.holds "key" (.text key) row
  | .peerId => table.holds "id" (.text key) row
  | .user => table.holds "id" (.text key) row
  | .privateDomain => ownsDomain key table row

/-- The text that the first fitting row of a table has in a column. -/
def findText
    (db : Database)
    (name column : String)
    (test : Table → Row → Bool)
    (missing : Problem) :
    Except Problem String := do
  let table ← db.table? name
  match table.rows.find? (test table) with
  | some row => readRow (readText · column) row
  | none => .error missing

/-- The identifier of the account that a key leads to. -/
def findAccountId (db : Database) (lookup : Lookup) (key : String) :
    Except Problem String :=
  findText db (lookupTable lookup) (lookupAnswer lookup) (leadsTo lookup key)
    (.notFound (lookupSubject lookup) key)

/-- The account that a key leads to. -/
def findAccount (db : Database) (lookup : Lookup) (key : String) :
    Except Problem Account :=
  (findAccountId db lookup key).bind (loadAccount db)

/-- The token with a hash. -/
def findToken (db : Database) (hash : String) : Except Problem String :=
  findText db "personal_access_tokens" "id"
    (fun table => table.holds "hashed_token" (.text hash))
    (.notFound .hashedToken hash)

/-- The user that holds a token. -/
def findUserByToken (db : Database) (token : String) : Except Problem User :=
  (findText db "personal_access_tokens" "user_id"
    (fun table => table.holds "id" (.text token))
    (.notFound .token token)).bind (loadUser db)

/-! ## Saving and deleting -/

/-- Delete the rows of a table that belong to an account. -/
def deleteOwned (accountId : String) (db : Database) (table : String) :
    Except Problem Database :=
  db.deleteWhere table (fun found => found.holds "account_id" (.text accountId))

/-- Delete the rows of a table whose owners belong to an account. -/
def deleteBelow
    (db : Database)
    (table ownerColumn ownerTable accountId : String) :
    Except Problem Database :=
  let owners :=
    (ownedRows db ownerTable "account_id" accountId).map (·.cell "id")
  db.deleteWhere table (fun _ row =>
    owners.any (fun id => id.sameValue (row.cell ownerColumn)))

/-- The tables of what an account owns directly, apart from policies and users. -/
def plainTables : List String :=
  ["setup_keys", "peers", "groups", "routes", "name_server_groups"]

/-- Delete every row of an account. -/
def deleteAccount (db : Database) (id : String) : Except Problem Database := do
  let db ← deleteBelow db "policy_rules" "policy_id" "policies" id
  let db ← deleteOwned id db "policies"
  let db ← deleteBelow db "personal_access_tokens" "user_id" "users" id
  let db ← deleteOwned id db "users"
  let db ← plainTables.foldlM (deleteOwned id) db
  db.deleteWhere "accounts" (fun table => table.holds "id" (.text id))

/-- Write an entity to a row, in place of the row of its identifier. -/
def writeRow
    (table : String)
    (cells : α → Except Problem Cells)
    (db : Database)
    (entity : α) :
    Except Problem Database := do
  let given ← cells entity
  db.upsert table given

/-- Write entities to rows of a table. -/
def writeRows
    (table : String)
    (cells : α → Except Problem Cells)
    (entities : List α)
    (db : Database) :
    Except Problem Database := do
  db.replaceable table
  entities.foldlM (writeRow table cells) db

/-- Write a user and its tokens. -/
def writeUser (accountId : String) (db : Database) (user : User) :
    Except Problem Database := do
  let db ← writeRow "users" (userCells accountId) db user
  user.tokens.values.foldlM
    (writeRow "personal_access_tokens" (tokenCells user.id)) db

/-- Write the users of an account. -/
def writeUsers (account : Account) (db : Database) : Except Problem Database := do
  db.replaceable "users"
  db.replaceable "personal_access_tokens"
  account.users.values.foldlM (writeUser account.id) db

/-- Write a policy and its rules. -/
def writePolicy (accountId : String) (db : Database) (policy : Policy) :
    Except Problem Database := do
  let db ← writeRow "policies" (fun policy => .ok (policyCells accountId policy))
    db policy
  policy.rules.foldlM
    (writeRow "policy_rules" (fun rule => .ok (ruleCells policy.id rule))) db

/-- Write the policies of an account. -/
def writePolicies (account : Account) (db : Database) : Except Problem Database := do
  db.replaceable "policies"
  db.replaceable "policy_rules"
  account.policies.foldlM (writePolicy account.id) db

/-- Write an account and everything in it. -/
def writeAccount (db : Database) (account : Account) : Except Problem Database := do
  let db ← writeRows "accounts" accountCells [account] db
  let db ← writeRows "setup_keys" (setupKeyCells account.id)
    account.setupKeys.values db
  let db ← writeRows "peers" (peerCells account.id) account.peers.values db
  let db ← writeUsers account db
  let db ← writeRows "groups" (fun group => .ok (groupCells account.id group))
    account.groups.values db
  let db ← writePolicies account db
  let db ← writeRows "routes" (fun route => .ok (routeCells account.id route))
    account.routes.values db
  writeRows "name_server_groups"
    (fun group => .ok (nameServerGroupCells account.id group))
    account.nameServerGroups.values db

/-- Replace an account with everything in it. -/
def saveAccount (db : Database) (account : Account) : Except Problem Database := do
  let account := account.normalized
  let remaining ← deleteAccount db account.id
  writeAccount remaining account

/-! ## Partial updates -/

/-- Why no row of an account was there to be updated. -/
def missing (db : Database) (accountId : String) (subject : Subject) (id : String) :
    Problem :=
  if (db.rowsWith "accounts" "id" (.text accountId)).isEmpty then
    .notFound .account accountId
  else
    .notFound subject id

/-- Put cells into the row of one entity of an account. -/
def updateEntity
    (db : Database)
    (table : String)
    (subject : Subject)
    (accountId id : String)
    (cells : Cells) :
    Except Problem Database := do
  let (updated, count) ← db.updateWhere table cells (fun found row =>
    found.holds "account_id" (.text accountId) row
      && found.holds "id" (.text id) row)
  if count = 0 then
    .error (missing db accountId subject id)
  else
    .ok updated

/-! ## The installation -/

/-- Keep the identifier of the installation, in the only row of its table. -/
def saveInstallation (db : Database) (id : String) : Except Problem Database := do
  db.replaceable "installations"
  db.upsert "installations" [("id", .integer 1), ("installation_id", .text id)]

/-- The identifier of the installation, empty if there is none. -/
def installation (db : Database) : Except Problem String :=
  match db.rowsWith "installations" "id" (.integer 1) with
  | [] => .ok ""
  | row :: _ => readRow (readText · "installation_id") row

/-! ## Calls -/

/-- What a call does. -/
structure Reply where
  db : Database
  outcome : Outcome
  deriving Repr

/-- The reply to a call that changes the database, or fails. -/
def changed (db : Database) : Except Problem Database → Reply
  | .ok updated => { db := updated, outcome := .ok .done }
  | .error problem => { db := db, outcome := .error problem }

/-- The reply to a call that changes nothing. -/
def answered (db : Database) (answer : α → Answer) (found : Except Problem α) :
    Reply where
  db := db
  outcome := found.map answer

/-- Carry out a change for an account that has an identifier. -/
def named (account : Account) (change : Except Problem Database) :
    Except Problem Database :=
  if account.id.isEmpty then .error .emptyAccountId else change

/-- What a call does to the database, and what it answers. -/
def perform (db : Database) : Call → Reply
  | .save account => changed db (named account (saveAccount db account))
  | .delete account => changed db (named account (deleteAccount db account.id))
  | .get id => answered db .account (loadAccount db id)
  | .all => answered db .accounts (loadAll db)
  | .find lookup key => answered db .account (findAccount db lookup key)
  | .idByPeerKey key => answered db .text (findAccountId db .peerKey key)
  | .tokenByHash hash => answered db .text (findToken db hash)
  | .userByToken token => answered db .user (findUserByToken db token)
  | .savePeerStatus account peer status =>
      changed db (do
        let cells ← statusCells status
        updateEntity db "peers" .peer account peer cells)
  | .savePeerLocation account peer location =>
      changed db
        (updateEntity db "peers" .peer account peer (locationCells location))
  | .saveLastLogin account user time =>
      changed db (do
        let cell ← timeCell time
        updateEntity db "users" .user account user [("last_login", cell)])
  | .saveInstallation id => changed db (saveInstallation db id)
  | .installation => answered db .text (installation db)
  | .dropHashIndex _ => { db := db, outcome := .ok .done }
  | .dropTokenIndex _ => { db := db, outcome := .ok .done }
  | .close => { db := db, outcome := .ok .done }

end TenantStore.TableEngine
