import TenantStore.Proofs.Accounts
import TenantStore.Proofs.TableEngine.AccountContents

namespace TenantStore.TableEngine

/-!
# Partial updates of accounts

A partial update of a database that holds some accounts changes one peer or
one user in one of them, or says what is missing.
-/

open Relational (Cell Row Table Database)

/-! ## What a row keeps -/

/-- A record with its entity changed. -/
def Record.change {kind : Kind} (change : kind.Value → kind.Value) (record : Record kind) :
    Record kind where
  owner := record.owner
  value := change record.value

/-- Rows of accounts do not see changes of what they do not keep. -/
theorem Represents.changeAccounts
    {db : Database}
    {contents : Contents}
    {installation : Option String}
    (represents : Represents db contents installation)
    {change : Account → Account}
    (same : ∀ account, Kind.kept .account "" (change account) =
      Kind.kept .account "" account) :
    Represents db
      (Function.update contents .account
        ((contents .account).map (@Record.change .account change)))
      installation := by
  have cells : ∀ account, accountCells (change account) = accountCells account := by
    intro account
    show accountCells (Kind.kept .account "" (change account)) = _
    rw [same]
    rfl
  have key : ∀ account, (change account).id = account.id := by
    intro account
    show Account.id (Kind.kept .account "" (change account)) = _
    rw [same]
    rfl
  refine ⟨?_, represents.installations, represents.indices, represents.references, ?_⟩
  · intro kind
    by_cases account : kind = .account
    · subst account
      obtain ⟨table, found, holds⟩ := represents.tables .account
      rw [Function.update_self]
      refine ⟨table, found, holds.columns, holds.references, holds.ascending, ?_, ?_⟩
      · rw [List.map_map]
        have keys : Record.key ∘ @Record.change .account change = Record.key :=
          funext (fun record => key record.value)
        rw [keys]
        exact holds.distinct
      · rw [List.forall₂_map_right_iff]
        refine holds.rows.imp ?_
        intro row record stands
        obtain ⟨given, cells_eq, row_eq⟩ := stands
        exact ⟨given, (cells record.value).trans cells_eq, row_eq⟩
    · rw [Function.update_of_ne account]
      exact represents.tables kind
  · rw [Function.update_of_ne (by decide)]
    exact represents.addresses

/-! ## Changes of one entity -/

section Changes

variable {accounts : List Account} {kind : Kind}

/-- Putting a changed record changes the records of its identifier. -/
theorem putRecord_change
    (distinct : DistinctKeys accounts)
    {record : Record kind}
    (member : record ∈ contentsOf accounts kind)
    {change : kind.Value → kind.Value}
    (sameKey : ∀ value, kind.key (change value) = kind.key value) :
    putRecord (record.change change) (contentsOf accounts kind) =
      (contentsOf accounts kind).map (fun other =>
        if other.key = record.key then other.change change else other) := by
  have key_eq : (record.change change).key = record.key := sameKey record.value
  rw [putRecord, if_pos (List.any_eq_true.mpr ⟨record, member, decide_eq_true key_eq.symm⟩)]
  apply List.map_congr_left
  intro other otherMember
  rw [key_eq]
  split
  · rename_i same
    rw [distinct.record_eq otherMember member same]
  · rfl

/-- Records of changed accounts are changed records of the accounts. -/
theorem contentsOf_map
    {change : Account → Account}
    {alter : Record kind → Record kind}
    (agree : ∀ account ∈ accounts,
      recordsOf (change account) kind = (recordsOf account kind).map alter) :
    contentsOf (accounts.map change) kind = (contentsOf accounts kind).map alter := by
  simp only [contentsOf, List.flatMap_map, List.map_flatMap]
  exact List.flatMap_congr agree

/-- A change of accounts that changes the entity of one identifier in them. -/
structure Changes
    (kind : Kind)
    (change : kind.Value → kind.Value)
    (key : String)
    (alter : Account → Account) : Prop where
  kept : ∀ account, Kind.kept .account "" (alter account) =
    Kind.kept .account "" account
  own : ∀ account, account.IsNormal →
    recordsOf (alter account) kind =
      (recordsOf account kind).map (fun record =>
        if record.key = key then record.change change else record)
  others : ∀ account other, other ≠ kind → other ≠ .account →
    recordsOf (alter account) other = recordsOf account other

/-- Changing the entity under an identifier changes its record. -/
theorem records_modify
    {entities : Dict kind.Value}
    (filed : entities.FiledBy kind.key)
    (owner id : String)
    (change : kind.Value → kind.Value) :
    (entities.modify id change).values.map (Record.mk owner) =
      (entities.values.map (Record.mk owner)).map (fun record =>
        if record.key = id then record.change change else record) := by
  rw [filed.values_modify, List.map_map, List.map_map]
  apply List.map_congr_left
  intro value member
  by_cases here : kind.key value = id
  · simp [Record.key, Record.change, here]
  · simp [Record.key, here]

/-- Changing the peer under an identifier changes its record. -/
theorem changes_peer (change : Peer → Peer) (id : String) :
    Changes .peer change id
      (fun account => { account with peers := account.peers.modify id change }) where
  kept _ := rfl
  own := by
    intro account normal
    exact @records_modify .peer account.peers normal.peers_filed account.id id change
  others := by
    intro account other unlike notAccount
    cases other with
    | peer => exact absurd rfl unlike
    | account => exact absurd rfl notAccount
    | _ => rfl

/-- Changing the user under an identifier changes its record, not its tokens. -/
theorem changes_user
    {change : User → User}
    (sameId : ∀ user, (change user).id = user.id)
    (sameTokens : ∀ user, (change user).tokens = user.tokens)
    (id : String) :
    Changes .user change id
      (fun account => { account with users := account.users.modify id change }) where
  kept _ := rfl
  own := by
    intro account normal
    exact @records_modify .user account.users normal.users_filed account.id id change
  others := by
    intro account other unlike notAccount
    cases other with
    | user => exact absurd rfl unlike
    | account => exact absurd rfl notAccount
    | token =>
        refine Dict.flatMap_values_modify account.users id ?_
        intro user
        rw [sameId, sameTokens]
    | _ => rfl

/-- A change of the account with an identifier alone. -/
def changeIn (id : String) (alter : Account → Account) (account : Account) : Account :=
  if account.id = id then alter account else account

theorem Changes.id_eq
    {change : kind.Value → kind.Value}
    {key : String}
    {alter : Account → Account}
    (changes : Changes kind change key alter)
    (account : Account) :
    (alter account).id = account.id := by
  show Account.id (Kind.kept .account "" (alter account)) = _
  rw [changes.kept]
  rfl

/-- Putting a changed record changes the entity in its account. -/
theorem put_contentsOf
    (distinct : DistinctKeys accounts)
    (normal : ∀ account ∈ accounts, account.IsNormal)
    (column : kind.ownerColumn = "account_id")
    (owned : kind ≠ .account)
    {change : kind.Value → kind.Value}
    (sameKey : ∀ value, kind.key (change value) = kind.key value)
    {record : Record kind}
    (member : record ∈ contentsOf accounts kind)
    {alter : Account → Account}
    (changes : Changes kind change record.key alter) :
    Function.update ((contentsOf accounts).put (record.change change)) .account
        ((contentsOf accounts .account).map
          (@Record.change .account (changeIn record.owner alter))) =
      contentsOf (accounts.map (changeIn record.owner alter)) := by
  funext other
  by_cases account : other = .account
  · subst account
    rw [Function.update_self]
    exact (contentsOf_map (fun _ _ => rfl)).symm
  · rw [Function.update_of_ne account, Contents.put]
    by_cases same : other = kind
    · subst same
      rw [Function.update_self, putRecord_change distinct member sameKey]
      refine (contentsOf_map ?_).symm
      intro account accountMember
      rw [changeIn]
      split
      · exact changes.own account (normal account accountMember)
      · rename_i elsewhere
        refine Eq.trans (List.map_id _).symm (List.map_congr_left ?_)
        intro record' listed
        rw [if_neg]
        · rfl
        · intro sameKeys
          have isRecord := distinct.record_eq (mem_contentsOf accountMember listed) member
            sameKeys
          exact elsewhere (isRecord ▸ owner_of_mem column owned listed).symm
    · rw [Function.update_of_ne same]
      have kept : contentsOf (accounts.map (changeIn record.owner alter)) other =
          (contentsOf accounts other).map id := by
        apply contentsOf_map
        intro account _
        rw [changeIn, List.map_id]
        split
        · exact changes.others account other same (by assumption)
        · rfl
      rw [kept, List.map_id]

end Changes

namespace Represents

variable {db : Database} {accounts : List Account} {installation : Option String}

/-- A partial update changes an entity where it stands or says what is missing. -/
theorem updateIn
    (represents : Represents db (contentsOf accounts) installation)
    (distinct : DistinctKeys accounts)
    (normal : ∀ account ∈ accounts, account.IsNormal)
    {kind : Kind}
    (column : kind.ownerColumn = "account_id")
    (owned : kind ≠ .account)
    {change : kind.Value → kind.Value}
    {values : Cells}
    (writes : Writes kind change values)
    {id : String}
    {alter : Account → Account}
    (changes : Changes kind change id alter)
    (subject : Subject)
    (accountId : String) :
    (∃ record ∈ contentsOf accounts kind, record.owner = accountId ∧ record.key = id ∧
      ∃ after,
        TableEngine.updateEntity db kind.tableName subject accountId id values = .ok after ∧
          Represents after (contentsOf (accounts.map (changeIn accountId alter)))
            installation) ∨
      (∀ record ∈ contentsOf accounts kind,
        ¬(record.owner = accountId ∧ record.key = id)) ∧
        TableEngine.updateEntity db kind.tableName subject accountId id values =
          .error (missing db accountId subject id) := by
  rcases represents.updateEntity column owned writes subject accountId id with
    ⟨record, member, rfl, rfl, after, updated, afterRepresents⟩ | absent
  · refine .inl ⟨record, member, rfl, rfl, after, updated, ?_⟩
    have keptSame : ∀ account,
        Kind.kept .account "" (changeIn record.owner alter account) =
          Kind.kept .account "" account := by
      intro account
      rw [changeIn]
      split
      · exact changes.kept account
      · rfl
    have changed := afterRepresents.changeAccounts keptSame
    have accountsKept : (contentsOf accounts).put (record.change change) .account =
        contentsOf accounts .account := by
      rw [Contents.put, Function.update_of_ne (fun same => owned same.symm)]
    rw [← put_contentsOf distinct normal column owned writes.key member changes,
      ← accountsKept]
    exact changed
  · exact .inr absent

/-- Without a row of an entity, either its account is missing or the entity. -/
theorem missing_eq
    (represents : Represents db (contentsOf accounts) installation)
    (accountId : String)
    (subject : Subject)
    (id : String) :
    missing db accountId subject id =
      if ∃ account ∈ accounts, account.id = accountId then .notFound subject id
      else .notFound .account accountId := by
  have stand := represents.rowsWith_id_stand .account accountId
  have tableName : Kind.account.tableName = "accounts" := rfl
  rw [tableName] at stand
  have empty_iff : (db.rowsWith "accounts" "id" (.text accountId)).isEmpty = true ↔
      ¬∃ account ∈ accounts, account.id = accountId := by
    rw [List.isEmpty_iff_length_eq_zero, stand.length_eq, List.length_eq_zero_iff,
      List.filter_eq_nil_iff]
    constructor
    · intro none found
      obtain ⟨account, member, same⟩ := found
      exact none ⟨"", account⟩ (mem_contentsOf member List.mem_cons_self)
        (decide_eq_true same)
    · intro absent record member same
      obtain ⟨account, accountMember, listed⟩ := List.mem_flatMap.mp member
      rw [List.mem_singleton.mp listed] at same
      exact absent ⟨account, accountMember, of_decide_eq_true same⟩
  rw [missing]
  by_cases present : ∃ account ∈ accounts, account.id = accountId
  · rw [if_neg (fun empty => empty_iff.mp empty present), if_pos present]
  · rw [if_pos (empty_iff.mpr present), if_neg present]

end Represents

end TenantStore.TableEngine
