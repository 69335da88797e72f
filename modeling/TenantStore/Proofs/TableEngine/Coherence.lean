import TenantStore.Proofs.TableEngine.Takeover

namespace TenantStore.TableEngine

/-!
# Rows and what is loaded from them

In a database that was used in any way every row has its owner, and it is part
of exactly one of the accounts that are loaded (`CoherentAnswers`). In terms of
contents: the entities of a loaded account, without what has a table of its
own, are the records that belong to it (`Coherent.mem_bare_iff`), and every
record belongs to exactly one account.
-/

open Relational (Row Table Database)

/-! ## Entities of loaded accounts -/

namespace Kind

/-- An entity without what has a table of its own. -/
def bare : (kind : Kind) → kind.Value → kind.Value
  | .account => kept .account ""
  | .user => kept .user ""
  | .policy => kept .policy ""
  | _ => id

end Kind

/-- A row is that of an entity of an account. -/
def Appears (kind : Kind) (row : Row) (account : Account) : Prop :=
  ∃ value ∈ entitiesOf kind account, kind.read row = some (kind.bare value)

namespace Contents

variable {contents : Contents} {accountId : String} {account : Account}

/-- The entities of an owner are those of the records that name it. -/
theorem mem_entities_iff {kind : Kind} {owner : String} {value : kind.Value} :
    value ∈ contents.entities kind owner ↔
      ∃ record ∈ contents kind, record.owner = owner ∧ record.kept = value := by
  simp [entities, owned, and_assoc]

/-- The account that is loaded for a record of accounts. -/
theorem account?_eq_some_iff :
    contents.account? accountId = some account ↔
      ∃ record, (contents .account).find? (fun record => record.key = accountId) = some record ∧
        account = { (record.kept : Account) with
          setupKeys := keyed SetupKey.key (contents.entities .setupKey accountId)
          peers := keyed Peer.id (contents.entities .peer accountId)
          users := contents.users accountId
          groups := keyed Group.id (contents.entities .group accountId)
          policies := contents.policies accountId
          routes := keyed Route.id (contents.entities .route accountId)
          nameServerGroups :=
            keyed NameServerGroup.id (contents.entities .nameServerGroup accountId) } := by
  rw [account?, Option.map_eq_some_iff]
  simp only [eq_comm]

/-- An account is found under its own identifier. -/
theorem account?_id (found : contents.account? accountId = some account) :
    account.id = accountId := by
  obtain ⟨record, recordFound, rfl⟩ := account?_eq_some_iff.mp found
  have same : record.key = accountId := by simpa using List.find?_some recordFound
  exact same

/-- A user of an account has the tokens whose records name it. -/
theorem Coherent.get?_users_eq_some_iff
    (coherent : contents.Coherent)
    {key : String}
    {user : User} :
    (contents.users accountId).get? key = some user ↔
      ∃ record ∈ contents .user, record.owner = accountId ∧ record.key = key ∧
        user = { (record.kept : User) with
          tokens := keyed AccessToken.id (contents.entities .token key) } := by
  rw [coherent.get?_users]
  constructor
  · intro held
    split at held
    · rename_i owned
      rw [user?_eq, Option.map_eq_some_iff] at held
      obtain ⟨record, found, rfl⟩ := held
      obtain ⟨member, rfl⟩ := coherent.find?_key_iff.mp found
      exact ⟨record, member, (coherent.mem_ownedKeys_iff member).mp owned, rfl, rfl⟩
    · cases held
  · rintro ⟨record, member, owned, rfl, rfl⟩
    rw [if_pos ((coherent.mem_ownedKeys_iff member).mpr owned), user?_eq,
      coherent.find?_key_iff.mpr ⟨member, rfl⟩]
    rfl

/-- The users of an account are those whose records name it. -/
theorem Coherent.mem_bare_users_iff
    (coherent : contents.Coherent)
    {value : User} :
    value ∈ (contents.users accountId).values.map Kind.user.bare ↔
      ∃ record ∈ contents .user, record.owner = accountId ∧ record.kept = value := by
  rw [List.mem_map]
  constructor
  · rintro ⟨user, member, rfl⟩
    obtain ⟨key, held⟩ := Dict.mem_values_iff.mp member
    obtain ⟨record, recordMember, owned, _, rfl⟩ := coherent.get?_users_eq_some_iff.mp held
    exact ⟨record, recordMember, owned, rfl⟩
  · rintro ⟨record, member, owned, rfl⟩
    have held := coherent.get?_users_eq_some_iff.mpr ⟨record, member, owned, rfl, rfl⟩
    exact ⟨_, Dict.mem_values_iff.mpr ⟨_, held⟩, rfl⟩

/-- The tokens in an account are those of its users. -/
theorem Coherent.mem_tokens_iff
    (coherent : contents.Coherent)
    {value : AccessToken} :
    value ∈ (contents.users accountId).values.flatMap (fun user => user.tokens.values) ↔
      ∃ record ∈ contents .token, record.owner ∈ contents.ownedKeys .user accountId ∧
        record.kept = value := by
  have held (user : String) :
      value ∈ (keyed AccessToken.id (contents.entities .token user)).values ↔
        ∃ record ∈ contents .token, record.owner = user ∧ record.kept = value :=
    (mem_values_keyed_iff (coherent.entities_nodup .token user)).trans mem_entities_iff
  rw [List.mem_flatMap]
  constructor
  · rintro ⟨user, member, tokenMember⟩
    obtain ⟨key, found⟩ := Dict.mem_values_iff.mp member
    obtain ⟨holder, holderMember, owned, rfl, rfl⟩ := coherent.get?_users_eq_some_iff.mp found
    obtain ⟨record, recordMember, same, rfl⟩ := (held _).mp tokenMember
    have ownedHere := (coherent.mem_ownedKeys_iff holderMember).mpr owned
    exact ⟨record, recordMember, same ▸ ownedHere, rfl⟩
  · rintro ⟨record, member, owned, rfl⟩
    obtain ⟨holder, holderMember, holderOwned, same⟩ := TableEngine.mem_ownedKeys_iff.mp owned
    have found := coherent.get?_users_eq_some_iff.mpr
      ⟨holder, holderMember, holderOwned, same, rfl⟩
    exact ⟨_, Dict.mem_values_iff.mpr ⟨_, found⟩, (held _).mpr ⟨record, member, rfl, rfl⟩⟩

/-- The policies of an account are those whose records name it. -/
theorem mem_bare_policies_iff {value : Policy} :
    value ∈ (contents.policies accountId).map Kind.policy.bare ↔
      ∃ record ∈ contents .policy, record.owner = accountId ∧ record.kept = value := by
  have bare : (contents.policies accountId).map Kind.policy.bare =
      contents.entities .policy accountId := by
    rw [policies, entities, List.map_map, List.map_map]
    rfl
  rw [bare]
  exact mem_entities_iff

/-- The rules of loaded policies are those of their identifiers. -/
theorem flatMap_rules (contents : Contents) (accountId : String) :
    (contents.policies accountId).flatMap Policy.rules =
      (contents.ownedKeys .policy accountId).flatMap (contents.entities .rule) := by
  rw [← keys_entities, policies, List.flatMap_map, List.flatMap_map]
  rfl

/-- The rules in an account are those of its policies. -/
theorem mem_rules_iff {value : PolicyRule} :
    value ∈ (contents.policies accountId).flatMap Policy.rules ↔
      ∃ record ∈ contents .rule, record.owner ∈ contents.ownedKeys .policy accountId ∧
        record.kept = value := by
  rw [flatMap_rules, List.mem_flatMap]
  constructor
  · rintro ⟨policy, owned, member⟩
    obtain ⟨record, recordMember, rfl, same⟩ := mem_entities_iff.mp member
    exact ⟨record, recordMember, owned, same⟩
  · rintro ⟨record, member, owned, same⟩
    exact ⟨_, owned, mem_entities_iff.mpr ⟨record, member, rfl, same⟩⟩

/-- What an account is loaded with are the records that belong to it. -/
theorem Coherent.mem_bare_iff
    (coherent : contents.Coherent)
    (found : contents.account? accountId = some account)
    (kind : Kind)
    (value : kind.Value) :
    value ∈ (entitiesOf kind account).map kind.bare ↔
      ∃ record ∈ contents kind, contents.Belongs accountId record ∧ record.kept = value := by
  obtain ⟨record, recordFound, rfl⟩ := account?_eq_some_iff.mp found
  -- A collection of whole entities has the records of the account under their keys.
  have whole {kind : Kind} {name : kind.Value → String} {value : kind.Value}
      (bare : kind.bare = id)
      (distinct : ((contents.entities kind accountId).map name).Nodup) :
      value ∈ (keyed name (contents.entities kind accountId)).values.map kind.bare ↔
        ∃ record ∈ contents kind, record.owner = accountId ∧ record.kept = value := by
    rw [bare, List.map_id, mem_values_keyed_iff distinct]
    exact mem_entities_iff
  cases kind with
  | account =>
      obtain ⟨member, same⟩ := coherent.find?_key_iff.mp recordFound
      rw [show entitiesOf .account _ = [_] from rfl, List.map_singleton, List.mem_singleton]
      constructor
      · rintro rfl
        exact ⟨record, member, same, rfl⟩
      · rintro ⟨other, otherMember, otherSame, rfl⟩
        rw [coherent.record_eq otherMember member (otherSame.trans same.symm)]
        rfl
  | setupKey => exact whole rfl (coherent.setupKeys_nodup accountId)
  | peer => exact whole rfl (coherent.entities_nodup .peer accountId)
  | user => exact coherent.mem_bare_users_iff
  | token =>
      change value ∈ List.map id _ ↔ _
      rw [List.map_id]
      exact coherent.mem_tokens_iff
  | group => exact whole rfl (coherent.entities_nodup .group accountId)
  | policy => exact mem_bare_policies_iff
  | rule =>
      change value ∈ List.map id _ ↔ _
      rw [List.map_id]
      exact mem_rules_iff
  | route => exact whole rfl (coherent.entities_nodup .route accountId)
  | nameServerGroup => exact whole rfl (coherent.entities_nodup .nameServerGroup accountId)

/-! ## Rows of loaded accounts -/

/-- A row appears in the account that its record belongs to. -/
theorem Coherent.appears_iff
    (coherent : contents.Coherent)
    (found : contents.account? accountId = some account)
    {kind : Kind}
    {record : Record kind}
    (member : record ∈ contents kind)
    {row : Row}
    (stands : record.StandsIn row) :
    Appears kind row account ↔ contents.Belongs accountId record := by
  have part := coherent.mem_bare_iff found kind record.kept
  rw [List.mem_map] at part
  rw [Appears, stands.read]
  constructor
  · rintro ⟨value, valueMember, same⟩
    obtain ⟨other, otherMember, belongs, sameKept⟩ :=
      part.mp ⟨value, valueMember, (Option.some.inj same).symm⟩
    have sameKey : other.key = record.key := by
      have keys := congrArg kind.key sameKept
      rwa [Record.kept, Record.kept, kind.key_kept, kind.key_kept] at keys
    exact coherent.record_eq otherMember member sameKey ▸ belongs
  · intro belongs
    obtain ⟨value, valueMember, same⟩ := part.mpr ⟨record, member, belongs, rfl⟩
    exact ⟨value, valueMember, congrArg some same.symm⟩

/-- Every record of an account is loaded. -/
theorem Coherent.account?_of_mem
    (coherent : contents.Coherent)
    {record : Record .account}
    (member : record ∈ contents .account) :
    ∃ account, contents.account? record.key = some account :=
  ⟨_, account?_eq_some_iff.mpr ⟨record, coherent.find?_key_iff.mpr ⟨member, rfl⟩, rfl⟩⟩

/-- An account that a record belongs to can be loaded. -/
theorem Coherent.account?_of_belongs
    (coherent : contents.Coherent)
    {kind : Kind}
    {record : Record kind}
    (member : record ∈ contents kind)
    (belongs : contents.Belongs accountId record) :
    ∃ account, contents.account? accountId = some account := by
  obtain ⟨holder, holderMember, holds⟩ := coherent.exists_account kind record member
  rw [coherent.belongs_unique belongs holds]
  exact coherent.account?_of_mem holderMember

/-- A record belongs to the account that a lookup finds through it. -/
theorem belongs_accountOf {lookup : Lookup} (record : Record (lookupKind lookup)) :
    contents.Belongs (accountOf lookup record) record := by
  cases lookup <;> rfl

/-- The users of an account that is loaded. -/
theorem account?_users (found : contents.account? accountId = some account) :
    account.users = contents.users accountId := by
  obtain ⟨record, _, rfl⟩ := account?_eq_some_iff.mp found
  rfl

end Contents

/-! ## Answers -/

/-- What is stored and what is answered go together. -/
structure CoherentAnswers (db : Database) : Prop where
  /-- No row is an orphan. -/
  owned : ∀ kind : Kind, kind ≠ .account → ∀ row ∈ rowsOf db kind.tableName,
    ∃ owner ∈ rowsOf db kind.ownerKind.tableName,
      owner.cell "id" = row.cell kind.ownerColumn
  /-- Every stored account is loaded by its identifier. -/
  stored : ∀ row ∈ rowsOf db Kind.account.tableName, ∃ account,
    row.cell "id" = .text account.id ∧
      (perform db (.get account.id)).outcome = .ok (.account account)
  /-- All accounts are loaded, and every row is part of exactly one of them. -/
  loaded : ∃ accounts, (perform db .all).outcome = .ok (.accounts accounts) ∧
    (∀ account, account ∈ accounts ↔
      (perform db (.get account.id)).outcome = .ok (.account account)) ∧
    (accounts.map Account.id).Nodup ∧
    ∀ kind : Kind, ∀ row ∈ rowsOf db kind.tableName,
      ∃! account, account ∈ accounts ∧ Appears kind row account
  /-- A lookup that finds a row answers with the account that the row is part of. -/
  lookups : ∀ lookup key table row,
    db.tables.get? (lookupTable lookup) = some table →
      table.rows.find? (leadsTo lookup key table) = some row →
        ∃ account, (perform db (.find lookup key)).outcome = .ok (.account account) ∧
          Appears (lookupKind lookup) row account ∧
          (lookup = .peerKey →
            (perform db (.idByPeerKey key)).outcome = .ok (.text account.id))
  /-- Every token leads to the user that holds it. -/
  tokens : ∀ row ∈ rowsOf db Kind.token.tableName, ∃ token user,
    (perform db (.userByToken token.id)).outcome = .ok (.user user) ∧
      readToken row = some token ∧ user.tokens.get? token.id = some token
  /-- A user is found by a token as it is loaded with its account. -/
  users : ∀ token user, (perform db (.userByToken token)).outcome = .ok (.user user) →
    ∃ account, (perform db (.find .user user.id)).outcome = .ok (.account account) ∧
      account.users.get? user.id = some user

namespace Represents

variable {db : Database} {contents : Contents} {installation : Option String}

/-- A row of a table stands for a record. -/
theorem exists_record
    (represents : Represents db contents installation)
    {kind : Kind}
    {row : Row}
    (member : row ∈ rowsOf db kind.tableName) :
    ∃ record ∈ contents kind, record.StandsIn row := by
  obtain ⟨table, found, holds⟩ := represents.tables kind
  rw [rowsOf, found] at member
  exact exists_record_of_mem holds.rows member

/-- Every record stands in a row. -/
theorem exists_row
    (represents : Represents db contents installation)
    {kind : Kind}
    {record : Record kind}
    (member : record ∈ contents kind) :
    ∃ row ∈ rowsOf db kind.tableName, record.StandsIn row := by
  obtain ⟨table, found, holds⟩ := represents.tables kind
  rw [rowsOf, found]
  exact exists_row_of_mem holds.rows member

/-- Every row has its owner in the table of owners. -/
theorem owned_rows
    (represents : Represents db contents installation)
    (coherent : contents.Coherent)
    {kind : Kind}
    (owned : kind ≠ .account)
    {row : Row}
    (member : row ∈ rowsOf db kind.tableName) :
    ∃ owner ∈ rowsOf db kind.ownerKind.tableName,
      owner.cell "id" = row.cell kind.ownerColumn := by
  obtain ⟨record, recordMember, stands⟩ := represents.exists_record member
  obtain ⟨holder, holderMember, same⟩ :=
    List.mem_map.mp (coherent.owned kind owned record recordMember)
  obtain ⟨owner, ownerMember, ownerStands⟩ := represents.exists_row holderMember
  refine ⟨owner, ownerMember, ?_⟩
  rw [ownerStands.key_cell, stands.owner_cell owned, same]

/-- Every row of an account is answered with the account. -/
theorem stored_accounts
    (represents : Represents db contents installation)
    (coherent : contents.Coherent)
    {row : Row}
    (member : row ∈ rowsOf db Kind.account.tableName) :
    ∃ account, row.cell "id" = .text account.id ∧
      (TableEngine.perform db (.get account.id)).outcome = .ok (.account account) := by
  obtain ⟨record, recordMember, stands⟩ := represents.exists_record member
  obtain ⟨account, found⟩ := coherent.account?_of_mem recordMember
  have same := Contents.account?_id found
  refine ⟨account, ?_, ?_⟩
  · rw [stands.key_cell, same]
  · rw [get_eq_ok_iff represents, same, found]

/-- All accounts are loaded, each of them once. -/
theorem loadAll_coherent
    (represents : Represents db contents installation)
    (coherent : contents.Coherent) :
    ∃ accounts, loadAll db = .ok accounts ∧
      (∀ account, account ∈ accounts ↔ contents.account? account.id = some account) ∧
      (accounts.map Account.id).Nodup := by
  obtain ⟨accounts, loaded, ids, found⟩ := represents.loadAll_ok
  refine ⟨accounts, loaded, fun account => ⟨found account, ?_⟩, ?_⟩
  · intro here
    obtain ⟨record, recordFound, _⟩ := Contents.account?_eq_some_iff.mp here
    obtain ⟨recordMember, same⟩ := coherent.find?_key_iff.mp recordFound
    have listed : account.id ∈ accounts.map Account.id := by
      rw [ids, List.mem_mergeSort, ← same]
      exact List.mem_map_of_mem recordMember
    obtain ⟨other, otherMember, otherSame⟩ := List.mem_map.mp listed
    have otherFound := found other otherMember
    rw [otherSame, here, Option.some.injEq] at otherFound
    exact otherFound ▸ otherMember
  · rw [ids]
    exact (List.mergeSort_perm _ _).nodup_iff.mpr (coherent.distinct .account)

/-- Every row is part of exactly one account. -/
theorem appears_once
    (represents : Represents db contents installation)
    (coherent : contents.Coherent)
    {kind : Kind}
    {row : Row}
    (member : row ∈ rowsOf db kind.tableName) :
    ∃! account, contents.account? account.id = some account ∧ Appears kind row account := by
  obtain ⟨record, recordMember, stands⟩ := represents.exists_record member
  obtain ⟨holder, holderMember, belongs⟩ := coherent.exists_account kind record recordMember
  obtain ⟨account, found⟩ := coherent.account?_of_mem holderMember
  have same := Contents.account?_id found
  refine ⟨account, ⟨same ▸ found, (coherent.appears_iff found recordMember stands).mpr belongs⟩, ?_⟩
  rintro other ⟨otherFound, otherAppears⟩
  have otherBelongs := (coherent.appears_iff otherFound recordMember stands).mp otherAppears
  rw [coherent.belongs_unique otherBelongs belongs, found, Option.some.injEq] at otherFound
  exact otherFound.symm

/-- What a lookup answers once it has found a record. -/
theorem find_eq_ok
    (represents : Represents db contents installation)
    {lookup : Lookup}
    {key : String}
    {record : Record (lookupKind lookup)}
    (fitting : (contents (lookupKind lookup)).find? (fits lookup key) = some record)
    {account : Account}
    (found : contents.account? (accountOf lookup record) = some account) :
    (TableEngine.perform db (.find lookup key)).outcome = .ok (.account account) := by
  have answer : (TableEngine.perform db (.find lookup key)).outcome =
      (findAccount db lookup key).map .account := rfl
  rw [answer, represents.findAccount_eq, fitting, Option.map_some]
  change ((foundOr _ (contents.account? (accountOf lookup record))).map _ : Outcome) = _
  rw [found]
  rfl

/-- A row that a lookup leads to is answered with the account in which it appears. -/
theorem lookup_coherent
    (represents : Represents db contents installation)
    (coherent : contents.Coherent)
    {lookup : Lookup}
    {key : String}
    {table : Table}
    {row : Row}
    (stored : db.tables.get? (lookupTable lookup) = some table)
    (rowFound : table.rows.find? (leadsTo lookup key table) = some row) :
    ∃ account, (TableEngine.perform db (.find lookup key)).outcome = .ok (.account account) ∧
      Appears (lookupKind lookup) row account ∧
      (lookup = .peerKey →
        (TableEngine.perform db (.idByPeerKey key)).outcome = .ok (.text account.id)) := by
  obtain ⟨kept, keptFound, holds⟩ := represents.tables (lookupKind lookup)
  rw [lookupTable_eq, keptFound, Option.some.injEq] at stored
  subst stored
  obtain ⟨noRow, _⟩ | ⟨first, record, firstFound, fitting, stands⟩ :=
    forall₂_find? holds.rows (leadsTo_eq holds key)
  · rw [noRow] at rowFound
    cases rowFound
  rw [rowFound, Option.some.injEq] at firstFound
  subst firstFound
  have recordMember := List.mem_of_find?_eq_some fitting
  have belongs : contents.Belongs (accountOf lookup record) record :=
    Contents.belongs_accountOf record
  obtain ⟨account, found⟩ := coherent.account?_of_belongs recordMember belongs
  refine ⟨account, represents.find_eq_ok fitting found,
    (coherent.appears_iff found recordMember stands).mpr belongs, ?_⟩
  rintro rfl
  change ((findAccountId db .peerKey key).map _ : Outcome) = _
  rw [represents.findAccountId_eq, fitting, Contents.account?_id found]
  rfl

/-- A user that a token leads to is the one that its account has. -/
theorem user_coherent
    (represents : Represents db contents installation)
    (coherent : contents.Coherent)
    {id : String}
    {user : User}
    (userFound : contents.user? id = some user) :
    ∃ account,
      (TableEngine.perform db (.find .user user.id)).outcome = .ok (.account account) ∧
        account.users.get? user.id = some user := by
  have sameId := Contents.user?_id userFound
  subst sameId
  have held := userFound
  rw [Contents.user?_eq, Option.map_eq_some_iff] at held
  obtain ⟨record, fitting, _⟩ := held
  obtain ⟨member, same⟩ := coherent.find?_key_iff.mp fitting
  have belongs : contents.Belongs (accountOf .user record) record :=
    @Contents.belongs_accountOf contents .user record
  obtain ⟨account, found⟩ := coherent.account?_of_belongs member belongs
  refine ⟨account, @find_eq_ok _ _ _ represents .user _ _ fitting _ found, ?_⟩
  have owned : user.id ∈ contents.ownedKeys .user (accountOf .user record) := by
    rw [← same]
    exact (coherent.mem_ownedKeys_iff member).mpr rfl
  rw [Contents.account?_users found, coherent.get?_users, if_pos owned, userFound]

/-- A token is answered with the user that its record names. -/
theorem userByToken_eq_ok_iff
    (represents : Represents db contents installation)
    (coherent : contents.Coherent)
    {token : String}
    {user : User} :
    (TableEngine.perform db (.userByToken token)).outcome = .ok (.user user) ↔
      ∃ record ∈ contents .token, record.key = token ∧
        contents.user? record.owner = some user := by
  have answer : (TableEngine.perform db (.userByToken token)).outcome =
      (findUserByToken db token).map .user := rfl
  rw [answer, represents.findUserByToken_eq]
  constructor
  · intro answered
    cases fitting : (contents .token).find? (fun record => record.key = token) with
    | none =>
        rw [fitting] at answered
        cases answered
    | some record =>
        obtain ⟨member, same⟩ := coherent.find?_key_iff.mp fitting
        refine ⟨record, member, same, ?_⟩
        rw [fitting, Option.map_some] at answered
        change ((foundOr _ (contents.user? record.owner)).map _ : Outcome) = _ at answered
        cases held : contents.user? record.owner with
        | none =>
            rw [held] at answered
            cases answered
        | some holder =>
            rw [held] at answered
            cases answered
            rfl
  · rintro ⟨record, member, same, held⟩
    rw [coherent.find?_key_iff.mpr ⟨member, same⟩, Option.map_some]
    change ((foundOr _ (contents.user? record.owner)).map _ : Outcome) = _
    rw [held]
    rfl

/-- A row of a token leads to a user that holds the token. -/
theorem token_coherent
    (represents : Represents db contents installation)
    (coherent : contents.Coherent)
    {row : Row}
    (member : row ∈ rowsOf db Kind.token.tableName) :
    ∃ token user,
      (TableEngine.perform db (.userByToken token.id)).outcome = .ok (.user user) ∧
        readToken row = some token ∧ user.tokens.get? token.id = some token := by
  obtain ⟨record, recordMember, stands⟩ := represents.exists_record member
  obtain ⟨holder, holderMember, same⟩ :=
    List.mem_map.mp (coherent.owned .token (by decide) record recordMember)
  have fitting : (contents .user).find? (fun holder => holder.key = record.owner) =
      some holder :=
    coherent.find?_key_iff.mpr ⟨holderMember, same⟩
  have held : contents.user? record.owner = some { (holder.kept : User) with
      tokens := keyed AccessToken.id (contents.entities .token record.owner) } := by
    rw [Contents.user?_eq, fitting]
    rfl
  refine ⟨record.kept, _, (represents.userByToken_eq_ok_iff coherent).mpr
    ⟨record, recordMember, rfl, held⟩, stands.read, ?_⟩
  have distinct := coherent.entities_nodup .token record.owner
  exact (get?_keyed_iff distinct).mpr
    ⟨Contents.mem_entities_iff.mpr ⟨record, recordMember, rfl, rfl⟩, rfl⟩

end Represents

/-- A database that was used in any way answers coherently. -/
theorem Used.coherentAnswers {db : Database} (used : Used db) : CoherentAnswers db := by
  obtain ⟨contents, installation, coherent, represents⟩ := used.coherent
  obtain ⟨accounts, loaded, accounts_iff, distinct⟩ := represents.loadAll_coherent coherent
  refine ⟨fun _ owned _ => represents.owned_rows coherent owned,
    fun _ => represents.stored_accounts coherent, ⟨accounts, ?_, ?_, distinct, ?_⟩,
    fun _ _ _ _ => represents.lookup_coherent coherent,
    fun _ => represents.token_coherent coherent, ?_⟩
  · change ((loadAll db).map _ : Outcome) = _
    rw [loaded]
    rfl
  · intro account
    rw [accounts_iff, get_eq_ok_iff represents]
  · intro kind row member
    simp only [accounts_iff]
    exact represents.appears_once coherent member
  · intro token user answered
    obtain ⟨record, _, _, held⟩ := (represents.userByToken_eq_ok_iff coherent).mp answered
    exact represents.user_coherent coherent held

/-- A user with a token that was taken from another one. -/
def receiver : User where
  id := "v"
  tokens := .ofList [("t", { id := "t", userId := "v", hashedToken := "f" })]

/-- The token leads to the user that has it now, and so does the account of this user. -/
theorem coherentAnswers_taken :
    Used (performAll (upkeep .empty ⟨0⟩).db [.save giver, .save taker]) ∧
      (perform (performAll (upkeep .empty ⟨0⟩).db [.save giver, .save taker])
        (.userByToken "t")).outcome = .ok (.user receiver) ∧
      ∃ account, (perform (performAll (upkeep .empty ⟨0⟩).db [.save giver, .save taker])
        (.find .user receiver.id)).outcome = .ok (.account account) ∧
          account.users.get? receiver.id = some receiver := by
  have used : Used (performAll (upkeep .empty ⟨0⟩).db [.save giver, .save taker]) :=
    ⟨⟨0⟩, _, rfl⟩
  have found : (perform (performAll (upkeep .empty ⟨0⟩).db [.save giver, .save taker])
      (.userByToken "t")).outcome = .ok (.user receiver) := by
    rw [(upkeep_empty ⟨0⟩).2]
    decide +kernel
  exact ⟨used, found, used.coherentAnswers.users "t" receiver found⟩

end TenantStore.TableEngine
