import TenantStore.Proofs.TableEngine.Remains

namespace TenantStore.TableEngine

/-!
# Rows with some of the cells of an entity

A row may show the cells of an entity in some columns and have defaults in the
others: it was written when its table had just these columns, or, if they are
all of them, it is a new row. It is read as what remains of the entity
(`Kind.read_shows`), which is also what the document with just these fields is
read as (`Kind.ofJson?_portion`).
-/

open Relational (Affinity Cell Column Row Table)

/-- A row holds what is given for the columns that are there, and defaults elsewhere. -/
def Shows (present : String → Bool) (schema : Table) (given : Cells) (row : Row) : Prop :=
  ∀ column ∈ schema.columns, row.cell column.name =
    if present column.name = true then
      column.affinity.store ((given.lookup column.name).getD column.default)
    else
      column.affinity.store column.default

/-! ## Readers -/

namespace Shows

variable {present : String → Bool} {schema : Table} {given : Cells} {row : Row}
  (agrees : Shows present schema given row)

include agrees

/-- Whatever is read from a cell is read from the value if the column is there, and from the
default of the column otherwise. -/
theorem read_eq
    {column : Column}
    (member : column ∈ schema.columns)
    (read : Cell → Option α) :
    read (row.cell column.name) = kept present column.name
      (read (column.affinity.store ((given.lookup column.name).getD column.default)))
      (read (column.affinity.store column.default)) :=
  (congrArg read (agrees column member)).trans (apply_ite read ..)

/-! Identifiers and owners are texts without a default. -/

/-- Every row has its identifier. -/
theorem readText_identifier
    (member : Schema.identifier ∈ schema.columns)
    (identified : present "id" = true) :
    readText row "id" = (Affinity.texts.store ((given.lookup "id").getD .null)).text? :=
  (agrees.read_eq member Cell.text?).trans (kept_eq_value identified ..)

variable {column : String}

/-- Every row of an owned kind has its owner. -/
theorem readText_owner
    (member : Schema.owner column ∈ schema.columns)
    (owned : present column = true) :
    readText row column = (Affinity.texts.store ((given.lookup column).getD .null)).text? :=
  (agrees.read_eq member Cell.text?).trans (kept_eq_value owned ..)

/-! Every other column has the default of its kind. -/

/-- A text that has no column is empty. -/
theorem readText_text (member : Schema.text column ∈ schema.columns) :
    readText row column = kept present column
      (Affinity.texts.store ((given.lookup column).getD (.text ""))).text? (some "") :=
  agrees.read_eq member Cell.text?

/-- A flag that has no column is not set. -/
theorem readFlag_number (member : Schema.number column ∈ schema.columns) :
    readFlag row column = kept present column
      (Affinity.numbers.store ((given.lookup column).getD (.integer 0))).flag? (some false) :=
  agrees.read_eq member Cell.flag?

/-- An integer that has no column is zero. -/
theorem readInteger_number (member : Schema.number column ∈ schema.columns) :
    readInteger row column = kept present column
      (Affinity.numbers.store ((given.lookup column).getD (.integer 0))).integer? (some 0) :=
  agrees.read_eq member Cell.integer?

/-- A bounded number that has no column is zero. -/
theorem readNatBelow_number
    {bound : Nat}
    (positive : 0 < bound)
    (member : Schema.number column ∈ schema.columns) :
    readNatBelow bound row column = kept present column
      (natIn bound (Affinity.numbers.store ((given.lookup column).getD (.integer 0))))
      (some 0) :=
  (agrees.read_eq member (natIn bound)).trans (congrArg _ (natIn_integer positive))

/-- A number of 32 bits that has no column is zero. -/
theorem readShort_number (member : Schema.number column ∈ schema.columns) :
    readShort row column = kept present column
      ((natIn UInt32.size
        (Affinity.numbers.store ((given.lookup column).getD (.integer 0)))).map UInt32.ofNat)
      (some 0) := by
  rw [readShort, agrees.readNatBelow_number (by decide) member]
  exact apply_kept ..

/-- A number of 64 bits that has no column is zero. -/
theorem readWide_number (member : Schema.number column ∈ schema.columns) :
    readWide row column = kept present column
      ((natIn 0x8000000000000000
        (Affinity.numbers.store ((given.lookup column).getD (.integer 0)))).map UInt64.ofNat)
      (some 0) := by
  rw [readWide, agrees.readNatBelow_number (by decide) member]
  exact apply_kept ..

/-- A timestamp that has no column is the zero time. -/
theorem readTime_number (member : Schema.number column ∈ schema.columns) :
    readTime row column = kept present column
      (((natIn 0x8000000000000000
        (Affinity.numbers.store ((given.lookup column).getD (.integer 0)))).map
          UInt64.ofNat).map Timestamp.mk)
      (some .zero) := by
  rw [readTime, agrees.readWide_number member]
  exact apply_kept ..

/-- A document that has no column is read as its default. -/
theorem readDocument_document
    (read : Json → Option α)
    (default : α)
    (member : Schema.document column ∈ schema.columns) :
    readDocument read default row column = kept present column
      (documentIn read default (Affinity.texts.store ((given.lookup column).getD .null)))
      (some default) := by
  rw [readDocument_eq]
  exact agrees.read_eq member (documentIn read default)

/-- A list of texts that has no column is empty. -/
theorem readTexts_document (member : Schema.document column ∈ schema.columns) :
    readTexts row column = kept present column
      (documentIn Json.texts? [] (Affinity.texts.store ((given.lookup column).getD .null)))
      (some []) :=
  agrees.readDocument_document Json.texts? [] member

end Shows

/-! ## Entities -/

section Entities

variable {owner : String} {present : String → Bool} {given : Cells} {row : Row}

/-- The settings of an account are null in the database when it has none, which is also what a
missing column holds. -/
theorem readAccount_shows
    {account : Account}
    (written : accountCells account = .ok given)
    (identified : present "id" = true)
    (agrees : Shows present Schema.accounts given row) :
    readAccount row = some (keptAccount present account) := by
  simp (disch := decide) only [readAccount, agrees.readText_identifier (by decide) identified,
    agrees.readText_text, agrees.readTime_number, agrees.readFlag_number,
    agrees.readDocument_document, agrees.readWide_number]
  simp only [accountCells, Except.bind_eq_ok_iff, timeCell_eq_ok_iff, wideCell_eq_ok_iff] at written
  obtain ⟨_, ⟨createdAt, rfl⟩, _, ⟨serial, rfl⟩, same⟩ := written
  cases same
  have unset : DomainCategory.ofName "" = .unset := rfl
  have reads : ∀ settings : Settings,
      Json.option? Settings.ofJson? settings.toJson = some (some settings) :=
    fun settings => Json.option?_ofOption Settings.ofJson?_toJson
      Settings.toJson_ne_null (some settings)
  cases settings : account.settings <;>
    simp [List.lookup_cons, natIn_integer createdAt, natIn_integer serial,
      apply_kept DomainCategory.ofName, unset, documentIn_null, documentIn_documentCell, reads,
      settings, keptAccount, keptNetwork]

/-- A key of an unknown type is a reusable one, like a key of the time before there were types. -/
theorem readSetupKey_shows
    {key : SetupKey}
    (written : setupKeyCells owner key = .ok given)
    (identified : present "id" = true)
    (agrees : Shows present Schema.setupKeys given row) :
    readSetupKey row = some (keptSetupKey present key) := by
  simp (disch := decide) only [readSetupKey, agrees.readText_identifier (by decide) identified,
    agrees.readText_text, agrees.readFlag_number, agrees.readTime_number,
    agrees.readShort_number, agrees.readTexts_document]
  simp only [setupKeyCells, Except.bind_eq_ok_iff, timeCell_eq_ok_iff] at written
  obtain ⟨_, ⟨createdAt, rfl⟩, _, ⟨expiresAt, rfl⟩, _, ⟨updatedAt, rfl⟩,
    _, ⟨lastUsed, rfl⟩, same⟩ := written
  cases same
  have unset : SetupKeyKind.ofName "" = .reusable := rfl
  simp [List.lookup_cons, natIn_integer createdAt, natIn_integer expiresAt,
    natIn_integer updatedAt, natIn_integer lastUsed, apply_kept SetupKeyKind.ofName, unset,
    keptSetupKey]

/-- The parts of a peer's status and of its location have columns of their own and may be missing
one by one. -/
theorem readPeer_shows
    {peer : Peer}
    (written : peerCells owner peer = .ok given)
    (identified : present "id" = true)
    (agrees : Shows present Schema.peers given row) :
    readPeer row = some (keptPeer present peer) := by
  simp (disch := decide) only [readPeer, readPeerAddress, readStatus, readLocation,
    agrees.readText_identifier (by decide) identified, agrees.readText_text,
    agrees.readFlag_number, agrees.readTime_number, agrees.readShort_number,
    agrees.readDocument_document]
  simp only [peerCells, Except.bind_eq_ok_iff, timeCell_eq_ok_iff] at written
  obtain ⟨_, status, _, ⟨lastLogin, rfl⟩, same⟩ := written
  obtain ⟨lastSeen, rfl⟩ := statusCells_eq_ok status
  cases same
  have connection : documentIn (Json.option? Address.ofJson?) none
      (documentCell (.ofOption Address.toJson peer.location.connectionIp)) =
        some peer.location.connectionIp :=
    (documentIn_documentCell (Json.isPlain_ofOption Address.isPlain_toJson _)).trans
      (Json.option?_ofOption Address.ofJson?_toJson Address.toJson_ne_null _)
  have reads : Json.option? Address.ofJson? peer.ip.toJson = some (some peer.ip) :=
    Json.option?_ofOption Address.ofJson?_toJson Address.toJson_ne_null (some peer.ip)
  simp [List.lookup_cons, natIn_integer lastLogin, natIn_integer lastSeen,
    documentIn_documentCell, connection, reads, locationCells,
    apply_kept (Option.getD · Address.unspecified), keptPeer, keptStatus, keptLocation]

/-- A user without a role has the least one. The tokens are in a table of their own. -/
theorem readUser_shows
    {user : User}
    (written : userCells owner user = .ok given)
    (identified : present "id" = true)
    (agrees : Shows present Schema.users given row) :
    readUser row = some (keptUser present user) := by
  simp (disch := decide) only [readUser, agrees.readText_identifier (by decide) identified,
    agrees.readText_text, agrees.readFlag_number, agrees.readTime_number,
    agrees.readTexts_document]
  simp only [userCells, Except.bind_eq_ok_iff, timeCell_eq_ok_iff] at written
  obtain ⟨_, ⟨lastLogin, rfl⟩, same⟩ := written
  cases same
  have unset : UserRole.ofName "" = .user := rfl
  simp [List.lookup_cons, natIn_integer lastLogin, apply_kept UserRole.ofName, unset,
    keptUser]

/-- A token is read with the user that its row names. -/
theorem readToken_shows
    {token : AccessToken}
    (written : tokenCells owner token = .ok given)
    (identified : present "id" = true)
    (owned : present "user_id" = true)
    (agrees : Shows present Schema.tokens given row) :
    readToken row = some (keptToken present (Kind.token.kept owner token)) := by
  simp (disch := decide) only [readToken, agrees.readText_identifier (by decide) identified,
    agrees.readText_owner (by decide) owned, agrees.readText_text, agrees.readTime_number]
  simp only [tokenCells, Except.bind_eq_ok_iff, timeCell_eq_ok_iff] at written
  obtain ⟨_, ⟨expirationDate, rfl⟩, _, ⟨createdAt, rfl⟩, _, ⟨lastUsed, rfl⟩, same⟩ := written
  cases same
  simp [List.lookup_cons, natIn_integer expirationDate, natIn_integer createdAt,
    natIn_integer lastUsed, keptToken, Kind.kept]

/-- A group is read with the peers that are left of it. -/
theorem readGroup_shows
    (group : Group)
    (identified : present "id" = true)
    (agrees : Shows present Schema.groups (groupCells owner group) row) :
    readGroup row = some (keptGroup present group) := by
  simp (disch := decide) only [readGroup, agrees.readText_identifier (by decide) identified,
    agrees.readText_text, agrees.readTexts_document]
  simp [groupCells, List.lookup_cons, keptGroup]

/-- A policy without the column of its flag is disabled. The rules are in a table of their own. -/
theorem readPolicy_shows
    (policy : Policy)
    (identified : present "id" = true)
    (agrees : Shows present Schema.policies (policyCells owner policy) row) :
    readPolicy row = some (keptPolicy present policy) := by
  simp (disch := decide) only [readPolicy, agrees.readText_identifier (by decide) identified,
    agrees.readText_text, agrees.readFlag_number]
  simp [policyCells, List.lookup_cons, keptPolicy]

/-- A rule is read with the policy that its row names. Without an action it accepts. -/
theorem readRule_shows
    (rule : PolicyRule)
    (identified : present "id" = true)
    (owned : present "policy_id" = true)
    (agrees : Shows present Schema.policyRules (ruleCells owner rule) row) :
    readRule row = some (keptRule present (Kind.rule.kept owner rule)) := by
  simp (disch := decide) only [readRule, agrees.readText_identifier (by decide) identified,
    agrees.readText_owner (by decide) owned, agrees.readText_text, agrees.readFlag_number,
    agrees.readTexts_document]
  have accept : TrafficAction.ofName "" = .accept := rfl
  have unset : RuleProtocol.ofName "" = .unset := rfl
  simp [ruleCells, List.lookup_cons, apply_kept TrafficAction.ofName, accept,
    apply_kept RuleProtocol.ofName, unset, keptRule, Kind.kept]

/-- A route without the type of its network has the invalid one. -/
theorem readRoute_shows
    (route : Route)
    (identified : present "id" = true)
    (agrees : Shows present Schema.routes (routeCells owner route) row) :
    readRoute row = some (keptRoute present route) := by
  simp (disch := decide) only [readRoute, agrees.readText_identifier (by decide) identified,
    agrees.readText_text, agrees.readFlag_number, agrees.readInteger_number,
    agrees.readDocument_document, agrees.readTexts_document]
  have invalid : NetworkFamily.ofCode 0 = .invalid := rfl
  simp [routeCells, List.lookup_cons, apply_kept NetworkFamily.ofCode, invalid,
    apply_kept Int64.ofInt, documentIn_documentCell, keptRoute]

/-- The flag of a primary group has a column of another name than its field. -/
theorem readNameServerGroup_shows
    (group : NameServerGroup)
    (identified : present "id" = true)
    (agrees : Shows present Schema.nameServerGroups (nameServerGroupCells owner group) row) :
    readNameServerGroup row = some (keptNameServerGroup present group) := by
  simp (disch := decide) only [readNameServerGroup,
    agrees.readText_identifier (by decide) identified, agrees.readText_text,
    agrees.readFlag_number, agrees.readDocument_document, agrees.readTexts_document]
  have servers : documentIn (Json.list? NameServer.ofJson?) []
      (documentCell (.array (group.nameServers.map NameServer.toJson))) =
        some group.nameServers :=
    (documentIn_documentCell (by simp)).trans
      (Json.list?_array NameServer.ofJson?_toJson group.nameServers)
  simp [nameServerGroupCells, List.lookup_cons, servers, keptNameServerGroup]

/-- A row that had only some of the columns is read as what remains of the entity. -/
theorem Kind.read_shows
    {kind : Kind}
    {value : kind.Value}
    (cells_eq : kind.cells owner value = .ok given)
    (identified : present "id" = true)
    (owned : kind ≠ .account → present kind.ownerColumn = true)
    (agrees : Shows present kind.schema given row) :
    kind.read row = some (kind.remains present (kind.kept owner value)) := by
  cases kind with
  | account => exact readAccount_shows cells_eq identified agrees
  | setupKey => exact readSetupKey_shows cells_eq identified agrees
  | peer => exact readPeer_shows cells_eq identified agrees
  | user => exact readUser_shows cells_eq identified agrees
  | token => exact readToken_shows cells_eq identified (owned (by decide)) agrees
  | group =>
      cases cells_eq
      exact readGroup_shows value identified agrees
  | policy =>
      cases cells_eq
      exact readPolicy_shows value identified agrees
  | rule =>
      cases cells_eq
      exact readRule_shows value identified (owned (by decide)) agrees
  | route =>
      cases cells_eq
      exact readRoute_shows value identified agrees
  | nameServerGroup =>
      cases cells_eq
      exact readNameServerGroup_shows value identified agrees

end Entities

end TenantStore.TableEngine
