import TenantStore.Proofs.Engines.Conditions
import TenantStore.Proofs.TableEngine.AccountUpdates
import TenantStore.Proofs.TableEngine.Installation

namespace TenantStore.Engines

/-!
# A database that mirrors a memory

A database mirrors a memory when it holds the accounts of the memory, in some
order, and the same installation. Each call that changes the memory changes
the database to one that mirrors the changed memory.
-/

open TableEngine
open FileEngine (Memory)
open Relational (Database)

/-! ## Lists of accounts -/

/-- A list has the accounts of a dictionary, in some order. -/
structure Lists (order : List Account) (accounts : Dict Account) : Prop where
  mem_iff : ∀ account, account ∈ order ↔ accounts.get? account.id = some account
  ids : (order.map Account.id).Nodup

namespace Lists

variable {order : List Account} {memory : Memory}

/-- The accounts are listed, in some order. -/
theorem perm (lists : Lists order memory.accounts) (filed : memory.Filed) :
    order.Perm memory.accounts.values := by
  have orderDistinct : order.Nodup := lists.ids.of_map _
  have valuesDistinct : memory.accounts.values.Nodup :=
    (accountIds_nodup filed).of_map _
  refine (List.perm_ext_iff_of_nodup orderDistinct valuesDistinct).mpr ?_
  intro account
  rw [lists.mem_iff, Dict.mem_values_iff]
  constructor
  · intro found
    exact ⟨account.id, found⟩
  · rintro ⟨slot, found⟩
    rw [filed.id found, found]

/-- A saved account comes behind the others. -/
theorem save (lists : Lists order memory.accounts) (account : Account) :
    Lists (order.filter (fun other => other.id ≠ account.id) ++ [account.normalized])
      (memory.save account).accounts where
  mem_iff := by
    intro other
    rw [FileEngine.Memory.accounts_save, List.mem_append, List.mem_filter,
      List.mem_singleton, decide_eq_true_eq]
    by_cases same : account.id = other.id
    · rw [if_pos same, Option.some.injEq]
      constructor
      · rintro (⟨_, elsewhere⟩ | isSaved)
        · exact absurd same.symm elsewhere
        · exact isSaved.symm
      · exact fun isSaved => .inr isSaved.symm
    · rw [if_neg same, ← lists.mem_iff]
      constructor
      · rintro (⟨kept, _⟩ | isSaved)
        · exact kept
        · exact absurd (congrArg Account.id isSaved).symm same
      · exact fun kept => .inl ⟨kept, fun equal => same equal.symm⟩
  ids := by
    rw [List.map_append, List.nodup_append]
    refine ⟨(List.filter_sublist.map _).nodup lists.ids, List.nodup_singleton _, ?_⟩
    intro id member last isLast same
    obtain ⟨other, kept, rfl⟩ := List.mem_map.mp member
    have elsewhere : other.id ≠ account.id := by
      simpa using (List.mem_filter.mp kept).2
    exact elsewhere (same.trans (List.mem_singleton.mp isLast))

/-- Without an account the others are listed. -/
theorem delete (lists : Lists order memory.accounts) (account : Account) :
    Lists (order.filter (fun other => other.id ≠ account.id))
      (memory.delete account).accounts where
  mem_iff := by
    intro other
    rw [FileEngine.Memory.accounts_delete, List.mem_filter, decide_eq_true_eq]
    by_cases same : account.id = other.id
    · rw [if_pos same]
      constructor
      · exact fun both => absurd same.symm both.2
      · exact fun found => by cases found
    · rw [if_neg same, ← lists.mem_iff]
      exact and_iff_left (fun equal => same equal.symm)
  ids := (List.filter_sublist.map _).nodup lists.ids

/-- A changed account stands where it stood. -/
theorem change
    (lists : Lists order memory.accounts)
    (filed : memory.Filed)
    {id : String}
    {old : Account}
    (stored : memory.accounts.get? id = some old)
    {alter : Account → Account}
    (sameId : ∀ account, (alter account).id = account.id) :
    Lists (order.map (changeIn id alter)) (memory.accounts.insert id (alter old)) where
  mem_iff := by
    have oldId : old.id = id := filed.id stored
    intro account
    rw [Dict.get?_insert, List.mem_map]
    constructor
    · rintro ⟨before, member, rfl⟩
      have found := (lists.mem_iff before).mp member
      by_cases here : before.id = id
      · rw [here, stored, Option.some.injEq] at found
        subst found
        rw [changeIn, if_pos here, sameId, if_pos here.symm]
      · rw [changeIn, if_neg here, if_neg (fun same => here same.symm), found]
    · intro found
      by_cases here : id = account.id
      · rw [if_pos here, Option.some.injEq] at found
        refine ⟨old, (lists.mem_iff old).mpr (oldId ▸ stored), ?_⟩
        rw [changeIn, if_pos oldId, found]
      · rw [if_neg here] at found
        refine ⟨account, (lists.mem_iff account).mpr found, ?_⟩
        rw [changeIn, if_neg (fun same => here same.symm)]
  ids := by
    have kept : Account.id ∘ changeIn id alter = Account.id := by
      funext account
      simp only [Function.comp, changeIn]
      split
      · exact sameId account
      · rfl
    rw [List.map_map, kept]
    exact lists.ids

end Lists

/-! ## Mirrors -/

/-- A database holds the accounts of a memory in some order, and its installation. -/
structure Mirrors (order : List Account) (memory : Memory) (db : Database) : Prop where
  lists : Lists order memory.accounts
  represents : ∃ installation,
    Represents db (contentsOf order) installation ∧
      installation.getD "" = memory.installation

/-- A call is answered alike, and the database is a mirror afterwards. -/
def Matches (memory : Memory) (db : Database) (call : Call) : Prop :=
  Agree (memory.perform call).outcome (TableEngine.perform db call).outcome ∧
    ∃ order, Mirrors order (memory.perform call).memory (TableEngine.perform db call).db

/-- Accounts that are tidy share no identifiers, in whichever order they are. -/
theorem Lists.distinctKeys
    {order : List Account}
    {memory : Memory}
    (lists : Lists order memory.accounts)
    (filed : memory.Filed)
    (tidy : Tidy memory.accounts.values) :
    DistinctKeys order := by
  intro kind
  have perm := (lists.perm filed).flatMap_right
    (fun account => (entitiesOf kind account).map kind.key)
  exact perm.nodup_iff.mpr (tidy.distinctKeys filed kind)

/-! ## Calls that change accounts -/

section Changes

variable {order : List Account} {memory : Memory} {db : Database}

/-- Saving is matched if the accounts stay tidy. -/
theorem matches_save
    (mirrors : Mirrors order memory db)
    (filed : memory.Filed)
    (tidy : Tidy memory.accounts.values)
    (account : Account)
    (tidyAfter : Tidy (memory.perform (.save account)).memory.accounts.values) :
    Matches memory db (.save account) := by
  have filedAfter := filed.perform (.save account)
  obtain ⟨lists, installation, represents, same⟩ := mirrors
  simp only [Matches, Memory.perform, TableEngine.perform, named] at tidyAfter filedAfter ⊢
  split
  · exact ⟨rfl, order, lists, installation, represents, same⟩
  · rename_i named
    rw [if_neg named] at tidyAfter filedAfter
    have listsAfter := lists.save account
    have stored : account.normalized ∈ (memory.save account).accounts.values :=
      Dict.mem_values_iff.mpr ⟨account.id, by simp⟩
    have apart := tidyAfter.addresses account.normalized stored
    rw [account.normalized_addresses] at apart
    obtain ⟨after, saved, afterRepresents⟩ :=
      represents.saveInto (lists.distinctKeys filed tidy)
        (listsAfter.distinctKeys filedAfter tidyAfter)
        (tidyAfter.numbers account.normalized stored) apart
    rw [saved]
    exact ⟨rfl, _, listsAfter, installation, afterRepresents,
      same.trans (memory.installation_save account).symm⟩

/-- Both engines delete an account, or report that it is not there. -/
theorem matches_delete
    (mirrors : Mirrors order memory db)
    (filed : memory.Filed)
    (tidy : Tidy memory.accounts.values)
    (account : Account) :
    Matches memory db (.delete account) := by
  obtain ⟨lists, installation, represents, same⟩ := mirrors
  simp only [Matches, Memory.perform, TableEngine.perform, named]
  split
  · exact ⟨rfl, order, lists, installation, represents, same⟩
  · obtain ⟨after, deleted, afterRepresents⟩ :=
      represents.deleteFrom (lists.distinctKeys filed tidy) account.id
    rw [deleted]
    exact ⟨rfl, _, lists.delete account, installation, afterRepresents,
      same.trans (memory.installation_delete account).symm⟩

/--
A partial update of a memory: it changes the account that has an entity, or
says whether the account or the entity is missing.
-/
structure Updates
    (kind : Kind)
    (memory : Memory)
    (alter : Account → Account)
    (subject : Subject)
    (accountId id : String)
    (result : Except Problem Memory) : Prop where
  missing : memory.accounts.get? accountId = none →
    result = .error (.notFound .account accountId)
  lacking : ∀ old, memory.accounts.get? accountId = some old →
    (∀ record ∈ recordsOf old kind, record.key ≠ id) →
      result = .error (.notFound subject id)
  updated : ∀ old, memory.accounts.get? accountId = some old →
    (∃ record ∈ recordsOf old kind, record.key = id) →
      result =
        .ok { memory with accounts := memory.accounts.insert accountId (alter old) }

/-- An update of the memory is one of the records, if it asks for the same entity. -/
theorem updates_updateAccount
    {kind : Kind}
    {subject : Subject}
    {accountId id : String}
    {has : Account → Bool}
    (has_iff : ∀ old, memory.accounts.get? accountId = some old →
      (has old = true ↔ ∃ record ∈ recordsOf old kind, record.key = id))
    (alter : Account → Account) :
    Updates kind memory alter subject accountId id
      (memory.updateAccount accountId (.notFound subject id) has alter) where
  missing absent := by
    simp only [Memory.updateAccount, absent]
  lacking := by
    intro old stored lacks
    have without : ¬has old = true := by
      rw [has_iff old stored]
      rintro ⟨record, listed, key⟩
      exact lacks record listed key
    simp only [Memory.updateAccount, stored, if_neg without]
  updated := by
    intro old stored listed
    simp only [Memory.updateAccount, stored, if_pos ((has_iff old stored).mpr listed)]

/-- A change of a peer is an update. -/
theorem updates_peer
    (filed : memory.Filed)
    (change : Peer → Peer)
    (accountId id : String) :
    Updates .peer memory
      (fun account => { account with peers := account.peers.modify id change })
      .peer accountId id (memory.updatePeer accountId id change) := by
  rw [Memory.updatePeer_eq]
  apply updates_updateAccount
  intro old stored
  rw [(filed.normal stored).peers_filed.contains_iff]
  simp [recordsOf, Record.key, Kind.key]

/-- A change of a user is an update. -/
theorem updates_user
    (filed : memory.Filed)
    (change : User → User)
    (accountId id : String) :
    Updates .user memory
      (fun account => { account with users := account.users.modify id change })
      .user accountId id (memory.updateUser accountId id change) := by
  rw [Memory.updateUser_eq]
  apply updates_updateAccount
  intro old stored
  rw [(filed.normal stored).users_filed.contains_iff]
  simp [recordsOf, Record.key, Kind.key]

/-- A partial update is matched by the update of a row. -/
theorem matches_update
    (mirrors : Mirrors order memory db)
    (filed : memory.Filed)
    (tidy : Tidy memory.accounts.values)
    (kind : Kind)
    (column : kind.ownerColumn = "account_id")
    (owned : kind ≠ .account)
    {change : kind.Value → kind.Value}
    {values : Cells}
    (writes : Writes kind change values)
    {accountId id : String}
    {alter : Account → Account}
    (changes : Changes kind change id alter)
    {subject : Subject}
    {result : Except Problem Memory}
    (updates : Updates kind memory alter subject accountId id result) :
    Agree (memory.update result).outcome
        (changed db (updateEntity db kind.tableName subject accountId id values)).outcome ∧
      ∃ order, Mirrors order (memory.update result).memory
        (changed db (updateEntity db kind.tableName subject accountId id values)).db := by
  obtain ⟨lists, installation, represents, same⟩ := mirrors
  have normal : ∀ account ∈ order, account.IsNormal :=
    fun account member => filed.normal ((lists.mem_iff account).mp member)
  rcases represents.updateIn (lists.distinctKeys filed tidy) normal column owned writes
    changes subject accountId with
    ⟨record, member, owner, key, after, run, afterRepresents⟩ | ⟨absent, run⟩
  · obtain ⟨old, oldMember, listed⟩ := List.mem_flatMap.mp member
    have oldId : old.id = accountId := (owner_of_mem column owned listed).symm.trans owner
    have stored : memory.accounts.get? accountId = some old :=
      oldId ▸ (lists.mem_iff old).mp oldMember
    rw [updates.updated old stored ⟨record, listed, key⟩, run]
    exact ⟨rfl, _, lists.change filed stored changes.id_eq, installation, afterRepresents,
      same⟩
  · rw [run, represents.missing_eq]
    cases stored : memory.accounts.get? accountId with
    | none =>
        have noAccount : ¬∃ account ∈ order, account.id = accountId := by
          rintro ⟨account, member, rfl⟩
          rw [(lists.mem_iff account).mp member] at stored
          cases stored
        rw [updates.missing stored, if_neg noAccount]
        exact ⟨rfl, order, lists, installation, represents, same⟩
    | some old =>
        have oldId : old.id = accountId := filed.id stored
        have oldMember : old ∈ order := (lists.mem_iff old).mpr (oldId ▸ stored)
        have lacks : ∀ record ∈ recordsOf old kind, record.key ≠ id :=
          fun record listed key => absent record (mem_contentsOf oldMember listed)
            ⟨(owner_of_mem column owned listed).trans oldId, key⟩
        rw [updates.lacking old stored lacks, if_pos ⟨old, oldMember, oldId⟩]
        exact ⟨rfl, order, lists, installation, represents, same⟩

/-- Both engines save a status whose time fits, or report that the peer is not there. -/
theorem matches_savePeerStatus
    (mirrors : Mirrors order memory db)
    (filed : memory.Filed)
    (tidy : Tidy memory.accounts.values)
    (account peer : String)
    {status : PeerStatus}
    (small : status.lastSeen.millis.toNat < 0x8000000000000000) :
    Matches memory db (.savePeerStatus account peer status) := by
  have lastSeen := timeCell_eq_ok_iff.mpr ⟨small, rfl⟩
  obtain ⟨values, written⟩ : ∃ values, statusCells status = .ok values := by
    simp only [statusCells, lastSeen, bind, Except.bind]
    exact ⟨_, rfl⟩
  have matched := matches_update mirrors filed tidy .peer rfl (by decide)
    (writes_status written) (changes_peer _ peer) (updates_peer filed _ account peer)
  simp only [Matches, Memory.perform, TableEngine.perform, written]
  exact matched

/-- Both engines save a location, or report that the peer is not there. -/
theorem matches_savePeerLocation
    (mirrors : Mirrors order memory db)
    (filed : memory.Filed)
    (tidy : Tidy memory.accounts.values)
    (account peer : String)
    (location : Location) :
    Matches memory db (.savePeerLocation account peer location) :=
  matches_update mirrors filed tidy .peer rfl (by decide) (writes_location location)
    (changes_peer _ peer) (updates_peer filed _ account peer)

/-- Both engines save a login whose time fits, or report that the user is not there. -/
theorem matches_saveLastLogin
    (mirrors : Mirrors order memory db)
    (filed : memory.Filed)
    (tidy : Tidy memory.accounts.values)
    (account user : String)
    {time : Timestamp}
    (small : time.millis.toNat < 0x8000000000000000) :
    Matches memory db (.saveLastLogin account user time) := by
  have written := timeCell_eq_ok_iff.mpr ⟨small, rfl⟩
  have changes := @changes_user (fun stored => { stored with lastLogin := time })
    (fun _ => rfl) (fun _ => rfl) user
  have matched := matches_update mirrors filed tidy .user rfl (by decide)
    (writes_lastLogin written) changes (updates_user filed _ account user)
  simp only [Matches, Memory.perform, TableEngine.perform, written]
  exact matched

/-! ## The installation -/

/-- Both engines save the installation. -/
theorem matches_saveInstallation (mirrors : Mirrors order memory db) (id : String) :
    Matches memory db (.saveInstallation id) := by
  obtain ⟨lists, installation, represents, same⟩ := mirrors
  obtain ⟨after, saved, afterRepresents⟩ := represents.saveInstallation id
  simp only [Matches, Memory.perform, TableEngine.perform, saved]
  exact ⟨rfl, order, lists, some id, afterRepresents, rfl⟩

/-- Both engines answer with the same installation. -/
theorem matches_installation (mirrors : Mirrors order memory db) :
    Matches memory db .installation := by
  obtain ⟨lists, installation, represents, same⟩ := mirrors
  simp only [Matches, Memory.perform, TableEngine.perform, represents.installation_eq, same]
  exact ⟨rfl, order, lists, installation, represents, same⟩

end Changes

end TenantStore.Engines
