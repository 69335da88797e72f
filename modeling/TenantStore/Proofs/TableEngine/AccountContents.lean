import TenantStore.Proofs.TableEngine.Saving
import TenantStore.Proofs.TableEngine.Updates

namespace TenantStore.TableEngine

/-!
# Contents made of accounts

The contents of a database are the records of some accounts, one account after
the other. As long as no two entities of a kind share an identifier, deleting
takes one account out, saving adds one at the end, and a partial update changes
one account where it stands.
-/

open Relational (Cell Row Table Database)

/-! ## Entities of an account -/

/-- The entities of a kind in an account. -/
def entitiesOf : (kind : Kind) → Account → List kind.Value
  | .account, account => [account]
  | .setupKey, account => account.setupKeys.values
  | .peer, account => account.peers.values
  | .user, account => account.users.values
  | .token, account => account.users.values.flatMap (fun user => user.tokens.values)
  | .group, account => account.groups.values
  | .policy, account => account.policies
  | .rule, account => account.policies.flatMap Policy.rules
  | .route, account => account.routes.values
  | .nameServerGroup, account => account.nameServerGroups.values

/-- The timestamps and serial numbers of an entity. -/
def numbersOf : (kind : Kind) → kind.Value → List UInt64
  | .account => fun (account : Account) =>
      [account.createdAt.millis, account.network.serial]
  | .setupKey => fun (key : SetupKey) =>
      [key.createdAt.millis, key.expiresAt.millis, key.updatedAt.millis,
        key.lastUsed.millis]
  | .peer => fun (peer : Peer) =>
      [peer.status.lastSeen.millis, peer.lastLogin.millis]
  | .user => fun (user : User) => [user.lastLogin.millis]
  | .token => fun (token : AccessToken) =>
      [token.expirationDate.millis, token.createdAt.millis, token.lastUsed.millis]
  | .group => fun _ => []
  | .policy => fun _ => []
  | .rule => fun _ => []
  | .route => fun _ => []
  | .nameServerGroup => fun _ => []

-- Only the numbers of the entity are looked at, not all that have 64 bits.
instance (kind : Kind) (value : kind.Value) :
    Decidable (∀ number ∈ numbersOf kind value, number.toNat < 0x8000000000000000) :=
  List.decidableBAll _ _

/-- An entity whose numbers fit their cells can be stored. -/
theorem isStorable_of_numbers
    {kind : Kind}
    (owner : String)
    {value : kind.Value}
    (small : ∀ number ∈ numbersOf kind value, number.toNat < 0x8000000000000000) :
    (Record.mk owner value).IsStorable := by
  have time : ∀ {time : Timestamp}, time.millis ∈ numbersOf kind value →
      timeCell time = .ok (.integer time.millis.toNat) :=
    fun member => timeCell_eq_ok_iff.mpr ⟨small _ member, rfl⟩
  cases kind with
  | account =>
      have createdAt := @time (Account.createdAt value) (by simp [numbersOf])
      have serial : wideCell .networkSerial (Account.network value).serial = .ok _ :=
        wideCell_eq_ok_iff.mpr ⟨small _ (by simp [numbersOf]), rfl⟩
      simp only [Record.IsStorable, Kind.cells, accountCells, createdAt, serial, bind,
        Except.bind]
      exact ⟨_, rfl⟩
  | setupKey =>
      have createdAt := @time (SetupKey.createdAt value) (by simp [numbersOf])
      have expiresAt := @time (SetupKey.expiresAt value) (by simp [numbersOf])
      have updatedAt := @time (SetupKey.updatedAt value) (by simp [numbersOf])
      have lastUsed := @time (SetupKey.lastUsed value) (by simp [numbersOf])
      simp only [Record.IsStorable, Kind.cells, setupKeyCells, createdAt, expiresAt,
        updatedAt, lastUsed, bind, Except.bind]
      exact ⟨_, rfl⟩
  | peer =>
      have lastSeen := @time (Peer.status value).lastSeen (by simp [numbersOf])
      have lastLogin := @time (Peer.lastLogin value) (by simp [numbersOf])
      simp only [Record.IsStorable, Kind.cells, peerCells, statusCells, lastSeen,
        lastLogin, bind, Except.bind]
      exact ⟨_, rfl⟩
  | user =>
      have lastLogin := @time (User.lastLogin value) (by simp [numbersOf])
      simp only [Record.IsStorable, Kind.cells, userCells, lastLogin, bind, Except.bind]
      exact ⟨_, rfl⟩
  | token =>
      have expirationDate := @time (AccessToken.expirationDate value) (by simp [numbersOf])
      have createdAt := @time (AccessToken.createdAt value) (by simp [numbersOf])
      have lastUsed := @time (AccessToken.lastUsed value) (by simp [numbersOf])
      simp only [Record.IsStorable, Kind.cells, tokenCells, expirationDate, createdAt,
        lastUsed, bind, Except.bind]
      exact ⟨_, rfl⟩
  | group => exact ⟨_, rfl⟩
  | policy => exact ⟨_, rfl⟩
  | rule => exact ⟨_, rfl⟩
  | route => exact ⟨_, rfl⟩
  | nameServerGroup => exact ⟨_, rfl⟩

/-! ## Contents -/

/-- A test that depends on the item alone keeps or drops all parts of an item. -/
theorem filter_flatMap_of_agree
    {items : List α}
    {parts : α → List β}
    {keep : β → Bool}
    {select : α → Bool}
    (agree : ∀ item ∈ items, ∀ part ∈ parts item, keep part = select item) :
    (items.flatMap parts).filter keep = (items.filter select).flatMap parts := by
  induction items with
  | nil => rfl
  | cons item rest inductionHypothesis =>
      have restAgree : ∀ other ∈ rest, ∀ part ∈ parts other, keep part = select other :=
        fun other member => agree other (List.mem_cons_of_mem _ member)
      have here := agree item List.mem_cons_self
      rw [List.flatMap_cons, List.filter_append, inductionHypothesis restAgree,
        List.filter_cons]
      cases selected : select item with
      | true =>
          rw [List.filter_eq_self.mpr (fun part member => by
            rw [here part member, selected])]
          rfl
      | false =>
          rw [List.filter_eq_nil_iff.mpr (fun part member => by
            rw [here part member, selected]
            exact Bool.false_ne_true)]
          rfl

/-- Of items with distinct names the one of a name is selected alone. -/
theorem filter_eq_singleton
    {items : List α}
    {name : α → String}
    (distinct : (items.map name).Nodup)
    {item : α}
    (member : item ∈ items) :
    items.filter (fun other => name other = name item) = [item] := by
  induction items with
  | nil => cases member
  | cons head rest inductionHypothesis =>
      obtain ⟨headApart, restDistinct⟩ := List.nodup_cons.mp distinct
      rcases List.mem_cons.mp member with rfl | later
      · have others : rest.filter (fun other => name other = name item) = [] := by
          rw [List.filter_eq_nil_iff]
          intro other otherMember same
          exact headApart (of_decide_eq_true same ▸ List.mem_map_of_mem otherMember)
        simp only [List.filter_cons, decide_true, if_true, others]
      · have apart : name head ≠ name item :=
          fun same => headApart (same ▸ List.mem_map_of_mem later)
        rw [List.filter_cons_of_neg (by simpa using apart),
          inductionHypothesis restDistinct later]

/-- Of the records below owners with distinct names those of one owner are selected. -/
theorem filter_recordsBelow
    {kind : Kind}
    {owners : List α}
    {name : α → String}
    (distinct : (owners.map name).Nodup)
    {owner : α}
    (member : owner ∈ owners)
    (values : α → List kind.Value) :
    (owners.flatMap (fun other => (values other).map (Record.mk (name other)))).filter
        (fun record => record.owner = name owner) =
      (values owner).map (Record.mk (name owner)) := by
  have agree : ∀ other ∈ owners,
      ∀ record ∈ (values other).map (@Record.mk kind (name other)),
        decide (record.owner = name owner) = decide (name other = name owner) := by
    intro other _ record listed
    obtain ⟨value, _, rfl⟩ := List.mem_map.mp listed
    rfl
  rw [filter_flatMap_of_agree agree, filter_eq_singleton distinct member,
    List.flatMap_cons, List.flatMap_nil, List.append_nil]

/-- The contents that some accounts are written to. -/
def contentsOf (accounts : List Account) : Contents :=
  fun kind => accounts.flatMap (fun account => recordsOf account kind)

/-- No two entities of a kind in some accounts share an identifier. -/
def DistinctKeys (accounts : List Account) : Prop :=
  ∀ kind : Kind,
    (accounts.flatMap (fun account => (entitiesOf kind account).map kind.key)).Nodup

theorem values_recordsOf (account : Account) (kind : Kind) :
    (recordsOf account kind).map Record.value = entitiesOf kind account := by
  cases kind <;>
    simp [recordsOf, entitiesOf, List.map_flatMap, Function.comp_def]

theorem keys_contentsOf (accounts : List Account) (kind : Kind) :
    (contentsOf accounts kind).map Record.key =
      accounts.flatMap (fun account => (entitiesOf kind account).map kind.key) := by
  simp only [contentsOf, List.map_flatMap, ← values_recordsOf, List.map_map]
  rfl

section Accounts

variable {accounts : List Account} {kind : Kind}

/-- Records of one identifier are one record. -/
theorem DistinctKeys.record_eq
    (distinct : DistinctKeys accounts)
    {left right : Record kind}
    (leftMember : left ∈ contentsOf accounts kind)
    (rightMember : right ∈ contentsOf accounts kind)
    (same : left.key = right.key) :
    left = right := by
  have keys := distinct kind
  rw [← keys_contentsOf] at keys
  exact List.inj_on_of_nodup_map keys leftMember rightMember same

theorem mem_contentsOf
    {account : Account}
    (member : account ∈ accounts)
    {record : Record kind}
    (listed : record ∈ recordsOf account kind) :
    record ∈ contentsOf accounts kind :=
  List.mem_flatMap.mpr ⟨account, member, listed⟩

/-- What an account owns directly is recorded with its identifier. -/
theorem owner_of_mem
    (column : kind.ownerColumn = "account_id")
    (owned : kind ≠ .account)
    {account : Account}
    {record : Record kind}
    (listed : record ∈ recordsOf account kind) :
    record.owner = account.id := by
  have inMap : ∀ {kind : Kind} {values : List kind.Value} {record : Record kind},
      record ∈ values.map (Record.mk account.id) → record.owner = account.id := by
    intro kind values record member
    obtain ⟨value, _, rfl⟩ := List.mem_map.mp member
    rfl
  cases kind with
  | account => exact absurd rfl owned
  | token => exact absurd column (by decide)
  | rule => exact absurd column (by decide)
  | _ => exact inMap listed

/-- A test that depends on the account alone keeps or drops whole accounts. -/
theorem filter_contentsOf
    {keep : Record kind → Bool}
    {select : Account → Bool}
    (agree : ∀ account ∈ accounts, ∀ record ∈ recordsOf account kind,
      keep record = select account) :
    (contentsOf accounts kind).filter keep =
      contentsOf (accounts.filter select) kind :=
  filter_flatMap_of_agree agree

/-- An identifier is owned by the account that it is recorded for. -/
theorem DistinctKeys.mem_ownedKeys_iff
    (distinct : DistinctKeys accounts)
    (column : kind.ownerColumn = "account_id")
    (owned : kind ≠ .account)
    {account : Account}
    (member : account ∈ accounts)
    {record : Record kind}
    (listed : record ∈ recordsOf account kind)
    {id : String} :
    record.key ∈ (contentsOf accounts).ownedKeys kind id ↔ account.id = id := by
  have here := mem_contentsOf member listed
  have owner := owner_of_mem column owned listed
  constructor
  · intro known
    obtain ⟨other, otherMember, same⟩ := List.mem_map.mp known
    obtain ⟨otherHere, otherOwner⟩ := List.mem_filter.mp otherMember
    have isRecord := distinct.record_eq otherHere here same
    rw [← owner, ← isRecord]
    exact of_decide_eq_true otherOwner
  · rintro rfl
    exact List.mem_map.mpr ⟨record, List.mem_filter.mpr ⟨here, decide_eq_true owner⟩, rfl⟩

/-- The owner of a token is a user of the account, that of a rule a policy. -/
theorem exists_owner
    {account : Account} :
    (∀ record ∈ recordsOf account .token,
        ∃ user ∈ recordsOf account .user, user.key = record.owner) ∧
      ∀ record ∈ recordsOf account .rule,
        ∃ policy ∈ recordsOf account .policy, policy.key = record.owner := by
  constructor
  · intro record listed
    obtain ⟨user, member, inner⟩ := List.mem_flatMap.mp listed
    obtain ⟨token, _, rfl⟩ := List.mem_map.mp inner
    exact ⟨⟨account.id, user⟩, List.mem_map.mpr ⟨user, member, rfl⟩, rfl⟩
  · intro record listed
    obtain ⟨policy, member, inner⟩ := List.mem_flatMap.mp listed
    obtain ⟨rule, _, rfl⟩ := List.mem_map.mp inner
    exact ⟨⟨account.id, policy⟩, List.mem_map.mpr ⟨policy, member, rfl⟩, rfl⟩

/-! ## Deleting and saving -/

/-- Dropping an account drops it from the list of accounts. -/
theorem drop_contentsOf (distinct : DistinctKeys accounts) (id : String) :
    (contentsOf accounts).drop id =
      contentsOf (accounts.filter (fun account => account.id ≠ id)) := by
  have plain : ∀ kind : Kind, kind.ownerColumn = "account_id" → kind ≠ .account →
      (contentsOf accounts kind).filter (fun record => record.owner ≠ id) =
        contentsOf (accounts.filter (fun account => account.id ≠ id)) kind := by
    intro kind column owned
    apply filter_contentsOf
    intro account member record listed
    rw [owner_of_mem column owned listed]
  funext kind
  cases kind with
  | account =>
      apply filter_contentsOf
      intro account member record listed
      rw [List.mem_singleton.mp listed]
      rfl
  | token =>
      apply filter_contentsOf
      intro account member record listed
      obtain ⟨user, userListed, same⟩ := exists_owner.1 record listed
      rw [← same]
      exact decide_eq_decide.mpr (not_congr
        (distinct.mem_ownedKeys_iff rfl (by decide) member userListed))
  | rule =>
      apply filter_contentsOf
      intro account member record listed
      obtain ⟨policy, policyListed, same⟩ := exists_owner.2 record listed
      rw [← same]
      exact decide_eq_decide.mpr (not_congr
        (distinct.mem_ownedKeys_iff rfl (by decide) member policyListed))
  | setupKey => exact plain .setupKey rfl (by decide)
  | peer => exact plain .peer rfl (by decide)
  | user => exact plain .user rfl (by decide)
  | group => exact plain .group rfl (by decide)
  | policy => exact plain .policy rfl (by decide)
  | route => exact plain .route rfl (by decide)
  | nameServerGroup => exact plain .nameServerGroup rfl (by decide)

/-- Records with new identifiers are added behind all others. -/
theorem foldl_putRecord
    {records new : List (Record kind)}
    (distinct : ((records ++ new).map Record.key).Nodup) :
    new.foldl (fun records record => putRecord record records) records =
      records ++ new := by
  induction new generalizing records with
  | nil => rw [List.foldl_nil, List.append_nil]
  | cons record rest inductionHypothesis =>
      have appended : records ++ record :: rest = records ++ [record] ++ rest := by simp
      have fresh : records.any (fun other => other.key = record.key) = false := by
        rw [List.any_eq_false]
        intro other member same
        rw [List.map_append, List.nodup_append] at distinct
        exact distinct.2.2 other.key (List.mem_map_of_mem member) record.key
          (List.mem_map_of_mem List.mem_cons_self) (of_decide_eq_true same)
      have put_eq : putRecord record records = records ++ [record] := by
        rw [putRecord, fresh, if_neg Bool.false_ne_true]
      rw [appended] at distinct ⊢
      rw [List.foldl_cons, put_eq, inductionHypothesis distinct]

/-- Putting the records of a new account adds it at the end. -/
theorem putAll_contentsOf
    {account : Account}
    (distinct : DistinctKeys (accounts ++ [account])) :
    (contentsOf accounts).putAll (accountEntries account) =
      contentsOf (accounts ++ [account]) := by
  funext kind
  have appended : contentsOf (accounts ++ [account]) kind =
      contentsOf accounts kind ++ recordsOf account kind := by
    simp [contentsOf]
  have keys := distinct kind
  rw [← keys_contentsOf, appended] at keys
  rw [putAll_apply, filterMap_accountEntries, foldl_putRecord keys, appended]

/-- Entries whose entities have small numbers can be stored. -/
theorem storable_of_numbers
    {account : Account}
    (small : ∀ kind, ∀ value ∈ entitiesOf kind account,
      ∀ number ∈ numbersOf kind value, number.toNat < 0x8000000000000000)
    {entry : Entry}
    (member : entry ∈ accountEntries account) :
    entry.record.IsStorable := by
  obtain ⟨kind, record⟩ := entry
  have listed : record ∈ recordsOf account kind := by
    rw [← filterMap_accountEntries]
    exact List.mem_filterMap.mpr ⟨⟨kind, record⟩, member, of?_self kind record⟩
  have entity : record.value ∈ entitiesOf kind account := by
    rw [← values_recordsOf]
    exact List.mem_map_of_mem listed
  exact isStorable_of_numbers record.owner (small kind record.value entity)

end Accounts

namespace Represents

variable {db : Database} {accounts : List Account} {installation : Option String}

/-- Deleting an account takes it out of the accounts that a database holds. -/
theorem deleteFrom
    (represents : Represents db (contentsOf accounts) installation)
    (distinct : DistinctKeys accounts)
    (id : String) :
    ∃ after, TableEngine.deleteAccount db id = .ok after ∧
      Represents after
        (contentsOf (accounts.filter (fun account => account.id ≠ id)))
        installation := by
  obtain ⟨after, deleted, afterRepresents⟩ := represents.deleteAccount id
  rw [drop_contentsOf distinct] at afterRepresents
  exact ⟨after, deleted, afterRepresents⟩

/-- Saving an account puts it behind the other accounts of a database. -/
theorem saveInto
    (represents : Represents db (contentsOf accounts) installation)
    (distinct : DistinctKeys accounts)
    {account : Account}
    (distinctAfter : DistinctKeys
      (accounts.filter (fun other => other.id ≠ account.id) ++ [account.normalized]))
    (small : ∀ kind, ∀ value ∈ entitiesOf kind account.normalized,
      ∀ number ∈ numbersOf kind value, number.toNat < 0x8000000000000000)
    (apart : (account.peers.values.map Peer.ip).Nodup) :
    ∃ after, TableEngine.saveAccount db account = .ok after ∧
      Represents after
        (contentsOf (accounts.filter (fun other => other.id ≠ account.id)
          ++ [account.normalized]))
        installation := by
  obtain ⟨after, saved, afterRepresents⟩ :=
    represents.saveAccount (fun _ => storable_of_numbers small) apart
  rw [drop_contentsOf distinct, putAll_contentsOf distinctAfter] at afterRepresents
  exact ⟨after, saved, afterRepresents⟩

end Represents

end TenantStore.TableEngine
