import TenantStore.Proofs.TableEngine.Statements

namespace TenantStore.TableEngine

/-!
# Reading contents

What the queries read, in terms of contents: the account with an identifier,
all accounts, the user with its tokens, and the first record that fits a key.
-/

open Relational (Cell Row Table Database)

/-- What a search found, or else what is missing. -/
def foundOr (missing : Problem) : Option α → Except Problem α
  | some value => .ok value
  | none => .error missing

/-! ## Entities of an owner -/

/-- The entities of a kind that some owner has, as rows keep them. -/
def Contents.entities (contents : Contents) (kind : Kind) (owner : String) :
    List kind.Value :=
  (contents.owned kind owner).map Record.kept

/-- The tokens of the users of an account. -/
def Contents.tokensBelow (contents : Contents) (accountId : String) :
    List AccessToken :=
  ((contents .token).filter (fun record =>
    record.owner ∈ contents.ownedKeys .user accountId)).map Record.kept

/-- The users of an account with their tokens. -/
def Contents.users (contents : Contents) (accountId : String) : Dict User :=
  (contents.tokensBelow accountId).foldl giveToken
    (keyed User.id (contents.entities .user accountId))

/-- The policies of an account with their rules. -/
def Contents.policies (contents : Contents) (accountId : String) : List Policy :=
  (contents.entities .policy accountId).map (fun policy =>
    { (policy : Policy) with rules := contents.entities .rule (Policy.id policy) })

/-- The account with an identifier and everything in it. -/
def Contents.account? (contents : Contents) (id : String) : Option Account :=
  ((contents .account).find? (fun record => record.key = id)).map (fun record =>
    { (record.kept : Account) with
      setupKeys := keyed SetupKey.key (contents.entities .setupKey id)
      peers := keyed Peer.id (contents.entities .peer id)
      users := contents.users id
      groups := keyed Group.id (contents.entities .group id)
      policies := contents.policies id
      routes := keyed Route.id (contents.entities .route id)
      nameServerGroups :=
        keyed NameServerGroup.id (contents.entities .nameServerGroup id) })

namespace Represents

variable {db : Database} {contents : Contents} {installation : Option String}

/-- Rows of an owner are read as the entities of the owner. -/
theorem readRows_owned
    (represents : Represents db contents installation)
    {kind : Kind}
    (owned : kind ≠ .account)
    (owner : String) :
    readRows kind.read (ownedRows db kind.tableName kind.ownerColumn owner) =
      .ok (contents.entities kind owner) :=
  readRows_eq (represents.ownedRows_stand owned owner)

/-- The entities of an account are loaded from the rows that name it. -/
theorem loadOwned_eq
    (represents : Represents db contents installation)
    {kind : Kind}
    (column : kind.ownerColumn = "account_id")
    (owned : kind ≠ .account)
    (accountId : String) :
    loadOwned db kind.tableName kind.read accountId =
      .ok (contents.entities kind accountId) := by
  rw [loadOwned, ← column]
  exact represents.readRows_owned owned accountId

/-- The tokens of an account are read through the rows of its users. -/
theorem readRows_tokens
    (represents : Represents db contents installation)
    (accountId : String) :
    readRows readToken (tokenRows db accountId) =
      .ok (contents.tokensBelow accountId) := by
  obtain ⟨table, found, holds⟩ := represents.tables .token
  have ids : (ownedRows db "users" "account_id" accountId).map (·.cell "id") =
      (contents.ownedKeys .user accountId).map Cell.text :=
    @ownedRows_ids _ _ _ represents .user (by decide) accountId
  have tokenTable : db.tables.get? "personal_access_tokens" = some table := found
  rw [tokenRows, ids, tokenTable]
  refine @readRows_eq .token _ _ (forall₂_filter holds.rows ?_)
  intro row record stands
  have user_cell : row.cell "user_id" = .text record.owner :=
    stands.owner_cell (by decide)
  rw [user_cell, Cell.any_sameValue_text]

/-- The users of an account are loaded with their tokens. -/
theorem loadUsers_eq
    (represents : Represents db contents installation)
    (accountId : String) :
    loadUsers db accountId = .ok (contents.users accountId) := by
  have users := @loadOwned_eq _ _ _ represents .user rfl (by decide) accountId
  rw [loadUsers]
  show loadOwned db Kind.user.tableName Kind.user.read accountId >>= _ = _
  rw [users]
  show readRows readToken (tokenRows db accountId) >>= _ = _
  rw [represents.readRows_tokens]
  rfl

/-- A policy is loaded with its rules. -/
theorem loadRules_eq
    (represents : Represents db contents installation)
    (policy : Policy) :
    loadRules db policy =
      .ok { policy with rules := contents.entities .rule policy.id } := by
  have rules := @readRows_owned _ _ _ represents .rule (by decide) policy.id
  show readRows Kind.rule.read
    (ownedRows db Kind.rule.tableName Kind.rule.ownerColumn policy.id) >>= _ = _
  rw [rules]
  rfl

/-- The policies of an account are loaded with their rules. -/
theorem loadPolicies_eq
    (represents : Represents db contents installation)
    (accountId : String) :
    loadPolicies db accountId = .ok (contents.policies accountId) := by
  have policies := @loadOwned_eq _ _ _ represents .policy rfl (by decide) accountId
  show loadOwned db Kind.policy.tableName Kind.policy.read accountId >>= _ = _
  rw [policies]
  show (contents.entities .policy accountId).mapM (loadRules db) = _
  rw [Contents.policies]
  induction contents.entities .policy accountId with
  | nil => rfl
  | cons policy rest inductionHypothesis =>
      rw [List.mapM_cons, represents.loadRules_eq, inductionHypothesis]
      rfl

/-- An account is loaded as the contents have it, or it is not found. -/
theorem loadAccount_eq
    (represents : Represents db contents installation)
    (id : String) :
    loadAccount db id = foundOr (.notFound .account id) (contents.account? id) := by
  have stand := represents.rowsWith_id_stand .account id
  rw [loadAccount, Contents.account?, ← List.head?_filter]
  have tableName : Kind.account.tableName = "accounts" := rfl
  rw [tableName] at stand
  cases records : (contents .account).filter (fun record => record.key = id) with
  | nil =>
      rw [records] at stand
      rw [List.forall₂_nil_right_iff.mp stand]
      rfl
  | cons record others =>
      rw [records] at stand
      obtain ⟨row, rest, stands, _, rows_eq⟩ := List.forall₂_cons_right_iff.mp stand
      have read : readAccount row = some record.kept := stands.read
      have setupKeys := @loadOwned_eq _ _ _ represents .setupKey rfl (by decide) id
      have peers := @loadOwned_eq _ _ _ represents .peer rfl (by decide) id
      have groups := @loadOwned_eq _ _ _ represents .group rfl (by decide) id
      have routes := @loadOwned_eq _ _ _ represents .route rfl (by decide) id
      have nameServerGroups :=
        @loadOwned_eq _ _ _ represents .nameServerGroup rfl (by decide) id
      simp only [Kind.tableName, Kind.read] at setupKeys peers groups routes
      simp only [Kind.tableName, Kind.read] at nameServerGroups
      simp only [rows_eq, readRow, read, setupKeys, peers, groups, routes,
        nameServerGroups, represents.loadUsers_eq, represents.loadPolicies_eq, bind,
        Except.bind, List.head?_cons, Option.map_some, foundOr]

/-- The identifiers of the accounts in ascending order. -/
theorem loadAll_eq (represents : Represents db contents installation) :
    loadAll db =
      (((contents .account).map Record.key).mergeSort
        (fun left right => left ≤ right)).mapM (loadAccount db) := by
  obtain ⟨table, found, holds⟩ := represents.tables .account
  have ids : readRows (readText · "id") table.rows =
      .ok ((contents .account).map Record.key) := by
    refine readRows_map holds.rows ?_
    intro row record stands
    rw [readText_eq, stands.key_cell, Cell.text?_text]
  have tableFound : db.table? "accounts" = .ok table := by
    have accountTable : db.tables.get? "accounts" = some table := found
    rw [Database.table?, accountTable]
  rw [loadAll, tableFound]
  show readRows (readText · "id") table.rows >>= _ = _
  rw [ids]
  rfl

/-! ## Finding records -/

/-- What a column says of the first record that passes a test. -/
theorem findText_eq
    (represents : Represents db contents installation)
    (kind : Kind)
    {column : String}
    {view : Record kind → String}
    {test : Table → Row → Bool}
    {keep : Record kind → Bool}
    (agree : ∀ table, Holds table (contents kind) → ∀ row record,
      Record.StandsIn record row → test table row = keep record)
    (shows : ∀ row record, Record.StandsIn record row →
      row.cell column = .text (view record))
    (missing : Problem) :
    findText db kind.tableName column test missing =
      foundOr missing (((contents kind).find? keep).map view) := by
  obtain ⟨table, found, holds⟩ := represents.tables kind
  rw [findText, Database.table?, found]
  simp only [bind, Except.bind]
  rcases forall₂_find? holds.rows (agree table holds) with
    ⟨noRow, noRecord⟩ | ⟨row, record, someRow, someRecord, stands⟩
  · rw [noRow, noRecord]
    rfl
  · rw [someRow, someRecord]
    simp [readRow, readText_eq, shows row record stands, foundOr]

end Represents

end TenantStore.TableEngine
