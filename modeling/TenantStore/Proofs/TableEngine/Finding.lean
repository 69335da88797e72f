import TenantStore.Proofs.TableEngine.Loading

namespace TenantStore.TableEngine

/-!
# Finding records

What the lookups of the table engine find: the first record of a kind that
fits a key, and from it an account, a token or a user.
-/

open Relational (Cell Row Table Database)

/-! ## Columns that are searched -/

/-- The row of a setup key shows its secret. -/
theorem setupKey_cell {record : Record .setupKey} {row : Row}
    (stands : record.StandsIn row) :
    row.cell "key" = .text (SetupKey.key record.value) := by
  obtain ⟨given, cells_eq, row_eq⟩ := stands.exists_cells
  rw [row_eq]
  simp only [Kind.cells, setupKeyCells, Except.bind_eq_ok_iff, timeCell_eq_ok_iff]
    at cells_eq
  obtain ⟨_, ⟨_, rfl⟩, _, ⟨_, rfl⟩, _, ⟨_, rfl⟩, _, ⟨_, rfl⟩, same⟩ := cells_eq
  cases same
  rfl

/-- The row of a token shows its hash. -/
theorem hash_cell {record : Record .token} {row : Row} (stands : record.StandsIn row) :
    row.cell "hashed_token" = .text (AccessToken.hashedToken record.value) := by
  obtain ⟨given, cells_eq, row_eq⟩ := stands.exists_cells
  rw [row_eq]
  simp only [Kind.cells, tokenCells, Except.bind_eq_ok_iff, timeCell_eq_ok_iff]
    at cells_eq
  obtain ⟨_, ⟨_, rfl⟩, _, ⟨_, rfl⟩, _, ⟨_, rfl⟩, same⟩ := cells_eq
  cases same
  rfl

/-- The row of an account shows its domain, of which kind it is, and whether it is the primary
one. -/
theorem domain_cells {record : Record .account} {row : Row}
    (stands : record.StandsIn row) :
    row.cell "domain" = .text (Account.domain record.value) ∧
      row.cell "is_domain_primary_account" =
        .flag (Account.isDomainPrimary record.value) ∧
      row.cell "domain_category" =
        .text (Account.domainCategory record.value).name := by
  obtain ⟨given, cells_eq, row_eq⟩ := stands.exists_cells
  rw [row_eq]
  simp only [Kind.cells, accountCells, Except.bind_eq_ok_iff, timeCell_eq_ok_iff,
    wideCell_eq_ok_iff] at cells_eq
  obtain ⟨_, ⟨_, rfl⟩, _, ⟨_, rfl⟩, same⟩ := cells_eq
  cases same
  exact ⟨rfl, rfl, rfl⟩

/-! ## Lookups -/

/-- The kind of entities among which a lookup searches. -/
def lookupKind : Lookup → Kind
  | .setupKey => .setupKey
  | .peerKey => .peer
  | .peerId => .peer
  | .user => .user
  | .privateDomain => .account

/-- Whether a record is what a key leads to. -/
def fits : (lookup : Lookup) → String → Record (lookupKind lookup) → Bool
  | .setupKey, key, record => Text.equalNoCase (SetupKey.key record.value) key
  | .peerKey, key, record => Peer.key record.value = key
  | .peerId, key, record => record.key = key
  | .user, key, record => record.key = key
  | .privateDomain, key, record =>
      Text.equalNoCase (Account.domain record.value) key
        && Account.ownsPrivateDomain record.value

/-- The identifier of the account that a found record belongs to. -/
def accountOf : (lookup : Lookup) → Record (lookupKind lookup) → String
  | .setupKey, record => record.owner
  | .peerKey, record => record.owner
  | .peerId, record => record.owner
  | .user, record => record.owner
  | .privateDomain, record => record.key

/-- A lookup searches the table of one kind. -/
theorem lookupTable_eq (lookup : Lookup) :
    lookupTable lookup = (lookupKind lookup).tableName := by
  cases lookup <;> rfl

/-- Whether a text is held, whatever the case of its ASCII letters. -/
theorem holdsNoCase_text {row : Row} {column value : String}
    (cell_eq : row.cell column = .text value) (text : String) :
    holdsNoCase column text row = Text.equalNoCase value text := by
  rw [holdsNoCase, cell_eq]

/-- The condition on a row that a private domain leads to, as one on the record. -/
theorem ownsDomain_eq
    {contents : Contents}
    {table : Table}
    (holds : Holds table (contents .account))
    (domain : String)
    {row : Row}
    {record : Record .account}
    (stands : record.StandsIn row) :
    ownsDomain domain table row = fits .privateDomain domain record := by
  obtain ⟨domain_eq, primary_eq, category_eq⟩ := domain_cells stands
  have primaryStored : table.stored "is_domain_primary_account" (.integer 1) =
      .integer 1 :=
    (holds.stored_eq _ _).trans rfl
  have categoryStored : table.stored "domain_category" (.text "private") =
      .text "private" :=
    (holds.stored_eq _ _).trans rfl
  rw [ownsDomain, holdsNoCase_text domain_eq, domain_eq, Table.holds, Table.holds,
    primaryStored, categoryStored, primary_eq, category_eq]
  simp only [fits, Account.ownsPrivateDomain]
  have nonempty : ∀ text : String, (Cell.text text != Cell.text "") = !text.isEmpty := by
    intro text
    rw [bne, Bool.eq_iff_iff]
    simp
  have primary : ∀ flag : Bool, (Cell.integer 1).sameValue (.flag flag) = flag := by
    decide
  have category : ∀ category : DomainCategory,
      (Cell.text "private").sameValue (.text category.name) =
        decide (category = .privateDomain) := by
    intro category
    cases category <;> decide
  rw [nonempty, primary, category]
  ac_rfl

/-- The condition on a row that a lookup leads to, as one on the record. -/
theorem leadsTo_eq
    {contents : Contents}
    {lookup : Lookup}
    {table : Table}
    (holds : Holds table (contents (lookupKind lookup)))
    (key : String)
    (row : Row)
    (record : Record (lookupKind lookup))
    (stands : record.StandsIn row) :
    leadsTo lookup key table row = fits lookup key record := by
  cases lookup with
  | setupKey => exact holdsNoCase_text (setupKey_cell stands) key
  | peerKey =>
      have stored : table.stored "key" (.text key) = .text key :=
        (holds.stored_eq _ _).trans rfl
      show (table.stored "key" (.text key)).sameValue (row.cell "key") = _
      rw [stored, (peer_cells stands).1, Cell.sameValue_text]
      exact decide_eq_decide.mpr eq_comm
  | peerId => exact holds.holds_id key row record stands
  | user => exact holds.holds_id key row record stands
  | privateDomain => exact ownsDomain_eq holds key stands

/-- The user with an identifier and its tokens. -/
def Contents.user? (contents : Contents) (id : String) : Option User :=
  ((contents .user).find? (fun record => record.key = id)).map (fun record =>
    (contents.entities .token id).foldl
      (fun user token =>
        { (user : User) with
          tokens := user.tokens.insert (AccessToken.id token) token })
      record.kept)

namespace Represents

variable {db : Database} {contents : Contents} {installation : Option String}

/-- A lookup finds the account of the first record that fits its key. -/
theorem findAccountId_eq
    (represents : Represents db contents installation)
    (lookup : Lookup)
    (key : String) :
    findAccountId db lookup key =
      foundOr (.notFound (lookupSubject lookup) key)
        (((contents (lookupKind lookup)).find? (fits lookup key)).map
          (accountOf lookup)) := by
  have shows : ∀ row (record : Record (lookupKind lookup)), record.StandsIn row →
      row.cell (lookupAnswer lookup) = .text (accountOf lookup record) := by
    intro row record stands
    cases lookup with
    | setupKey => exact stands.owner_cell (by decide)
    | peerKey => exact stands.owner_cell (by decide)
    | peerId => exact stands.owner_cell (by decide)
    | user => exact stands.owner_cell (by decide)
    | privateDomain => exact stands.key_cell
  have agree : ∀ table, Holds table (contents (lookupKind lookup)) → ∀ row
      (record : Record (lookupKind lookup)), record.StandsIn row →
        leadsTo lookup key table row = fits lookup key record :=
    fun table holds => leadsTo_eq holds key
  rw [findAccountId, lookupTable_eq]
  exact represents.findText_eq (lookupKind lookup) agree shows _

/-- A hash leads to the first token that has it. -/
theorem findToken_eq
    (represents : Represents db contents installation)
    (hash : String) :
    findToken db hash =
      foundOr (.notFound .hashedToken hash)
        (((contents .token).find? (fun record =>
          AccessToken.hashedToken record.value = hash)).map Record.key) := by
  have agree : ∀ table, Holds table (contents .token) → ∀ row
      (record : Record .token), record.StandsIn row →
        table.holds "hashed_token" (.text hash) row =
          decide (AccessToken.hashedToken record.value = hash) := by
    intro table holds row record stands
    have stored : table.stored "hashed_token" (.text hash) = .text hash :=
      (holds.stored_eq _ _).trans rfl
    show (table.stored "hashed_token" (.text hash)).sameValue
      (row.cell "hashed_token") = _
    rw [stored, hash_cell stands, Cell.sameValue_text]
    exact decide_eq_decide.mpr eq_comm
  exact represents.findText_eq .token agree (fun _ _ stands => stands.key_cell) _

/-- A lookup leads to the account of the first record that fits. -/
theorem findAccount_eq
    (represents : Represents db contents installation)
    (lookup : Lookup)
    (key : String) :
    findAccount db lookup key =
      (foundOr (.notFound (lookupSubject lookup) key)
        (((contents (lookupKind lookup)).find? (fits lookup key)).map
          (accountOf lookup))).bind (fun id =>
            foundOr (.notFound .account id) (contents.account? id)) := by
  rw [findAccount, represents.findAccountId_eq, funext represents.loadAccount_eq]

/-- A user is loaded as the contents have it, or it is not found. -/
theorem loadUser_eq
    (represents : Represents db contents installation)
    (id : String) :
    loadUser db id = foundOr (.notFound .user id) (contents.user? id) := by
  have stand := represents.rowsWith_id_stand .user id
  have read := @readRows_eq .user _ _ stand
  have tokens := @readRows_owned _ _ _ represents .token (by decide) id
  simp only [Kind.tableName, Kind.read, Kind.ownerColumn] at read tokens
  rw [loadUser, read, Contents.user?, ← List.head?_filter]
  cases (contents .user).filter (fun record => record.key = id) with
  | nil => rfl
  | cons record others =>
      simp only [bind, Except.bind, List.map_cons, tokens, List.head?_cons,
        Option.map_some, foundOr]

/-- A token leads to the user that its record names. -/
theorem findUserByToken_eq
    (represents : Represents db contents installation)
    (token : String) :
    findUserByToken db token =
      (foundOr (.notFound .token token)
        (((contents .token).find? (fun record => record.key = token)).map
          Record.owner)).bind (fun id =>
            foundOr (.notFound .user id) (contents.user? id)) := by
  have agree : ∀ table, Holds table (contents .token) → ∀ row
      (record : Record .token), record.StandsIn row →
        table.holds "id" (.text token) row = decide (record.key = token) :=
    fun table holds => holds.holds_id token
  have found := represents.findText_eq .token agree
    (fun _ _ stands => stands.owner_cell (by decide)) (.notFound .token token)
  simp only [Kind.tableName, Kind.ownerColumn] at found
  rw [findUserByToken, found, funext represents.loadUser_eq]

end Represents

end TenantStore.TableEngine
