import TenantStore.Proofs.TableEngine.Reopening
import TenantStore.Proofs.TableEngine.Replacement

namespace TenantStore.TableEngine

/-!
# Filling a database

A database is filled by saving accounts one after the other and then, unless it
is empty, the identifier of the installation (`fill`). What the database holds
before stays as far as no saved account replaces it: its accounts are those of
before and those that were saved (`mem_savedAll_iff`).
-/

open Relational (Database)

/-! ## Saving one account after the other -/

/-- Save accounts and, unless it is empty, the identifier of an installation. -/
def fill (db : Database) (accounts : List Account) (installation : String) :
    Except Problem Database := do
  let filled ← accounts.foldlM saveAccount db
  if installation.isEmpty then .ok filled else saveInstallation filled installation

/-- Contents after an account was saved. -/
def Contents.saved (contents : Contents) (account : Account) : Contents :=
  (contents.drop account.id).over account.normalized

/-- Contents after accounts were saved. -/
def Contents.savedAll (contents : Contents) (accounts : List Account) : Contents :=
  accounts.foldl Contents.saved contents

/-- An account that fits in every database. -/
structure Fits (account : Account) : Prop where
  named : account.id.isEmpty = false
  numbers : ∀ kind, ∀ value ∈ entitiesOf kind account.normalized,
    ∀ number ∈ numbersOf kind value, number.toNat < 0x8000000000000000
  addresses : (account.peers.values.map Peer.ip).Nodup

/-- The installation after one was carried over, unless it is empty. -/
def carried (before : Option String) (installation : String) : Option String :=
  if installation.isEmpty then before else some installation

theorem Contents.saved_account (contents : Contents) (account : Account) :
    contents.saved account .account =
      (contents .account).filter (fun record => record.key ≠ account.id)
        ++ [⟨"", account.normalized⟩] := by
  have dropped : contents.drop account.id .account =
      (contents .account).filter (fun record => record.key ≠ account.id) := rfl
  have single : recordsOf account.normalized .account = [⟨"", account.normalized⟩] := rfl
  rw [Contents.saved, Contents.over, putAll_apply, filterMap_accountEntries, dropped, single,
    List.foldl_cons, List.foldl_nil, putRecord_of_not_mem]
  intro known
  obtain ⟨record, member, same⟩ := List.mem_map.mp known
  have apart := of_decide_eq_true (List.mem_filter.mp member).2
  exact apart same

section Accounts

variable {contents : Contents} {accounts : List Account}

/-- The accounts that are there after saving are the old ones and the saved ones. -/
theorem mem_savedAll_iff {id : String} :
    id ∈ (contents.savedAll accounts .account).map Record.key ↔
      id ∈ (contents .account).map Record.key ∨ id ∈ accounts.map Account.id := by
  induction accounts generalizing contents with
  | nil => simp [Contents.savedAll]
  | cons account rest inductionHypothesis =>
      have saved : id ∈ (contents.saved account .account).map Record.key ↔
          id ∈ (contents .account).map Record.key ∨ id = account.id := by
        rw [contents.saved_account, List.map_append, List.mem_append, List.map_singleton,
          List.mem_singleton]
        have own : (⟨"", account.normalized⟩ : Record .account).key = account.id := rfl
        rw [own]
        constructor
        · rintro (old | same)
          · exact .inl ((List.filter_sublist.map Record.key).subset old)
          · exact .inr same
        · rintro (old | same)
          · by_cases here : id = account.id
            · exact .inr here
            · obtain ⟨record, member, rfl⟩ := List.mem_map.mp old
              exact .inl (List.mem_map_of_mem
                (List.mem_filter.mpr ⟨member, decide_eq_true here⟩))
          · exact .inr same
      have step : contents.savedAll (account :: rest) =
          (contents.saved account).savedAll rest := rfl
      rw [step, inductionHypothesis, saved, List.map_cons, List.mem_cons, or_assoc]

theorem length_savedAll_le :
    (contents.savedAll accounts .account).length ≤
      (contents .account).length + accounts.length := by
  induction accounts generalizing contents with
  | nil => exact Nat.le_refl _
  | cons account rest inductionHypothesis =>
      have step : contents.savedAll (account :: rest) =
          (contents.saved account).savedAll rest := rfl
      have saved : (contents.saved account .account).length ≤
          (contents .account).length + 1 := by
        rw [contents.saved_account, List.length_append]
        exact Nat.add_le_add_right (List.length_filter_le _ _) 1
      rw [step, List.length_cons]
      have others := @inductionHypothesis (contents.saved account)
      omega

end Accounts

namespace Represents

variable {db : Database} {contents : Contents} {installation : Option String}

theorem of_saves
    (represents : Represents db contents installation)
    {accounts : List Account}
    {after : Database}
    (saves : accounts.foldlM TableEngine.saveAccount db = .ok after) :
    Represents after (contents.savedAll accounts) installation := by
  induction accounts generalizing db contents with
  | nil =>
      cases saves
      exact represents
  | cons account rest inductionHypothesis =>
      rw [List.foldlM_cons] at saves
      obtain ⟨middle, saved, others⟩ := Except.bind_eq_ok_iff.mp saves
      exact inductionHypothesis (represents.of_saveAccount saved) others

/-- An account that fits is saved. -/
theorem saves_of_fits
    (represents : Represents db contents installation)
    {account : Account}
    (fits : Fits account) :
    ∃ after, named account (TableEngine.saveAccount db account) = .ok after := by
  obtain ⟨after, saved, _⟩ := represents.saveAccount
    (fun _ member => storable_of_numbers fits.numbers member) fits.addresses
  exact ⟨after, by rw [named, fits.named, if_neg Bool.false_ne_true, saved]⟩

theorem perform_save_outcome
    (represents : Represents db contents installation)
    {account : Account}
    (fits : Fits account) :
    (TableEngine.perform db (.save account)).outcome = .ok .done := by
  obtain ⟨after, saved⟩ := represents.saves_of_fits fits
  have run : TableEngine.perform db (.save account) =
      TableEngine.changed db (named account (TableEngine.saveAccount db account)) := rfl
  rw [run, saved]
  rfl

/-- A database that was filled holds what was there with the accounts saved over it. -/
theorem of_fill
    (represents : Represents db contents installation)
    {accounts : List Account}
    {id : String}
    {after : Database}
    (filled : fill db accounts id = .ok after) :
    Represents after (contents.savedAll accounts) (carried installation id) := by
  obtain ⟨middle, saves, rest⟩ := Except.bind_eq_ok_iff.mp filled
  have middleRepresents := represents.of_saves saves
  rw [carried]
  split at rest
  · rename_i none
    cases rest
    rw [if_pos none]
    exact middleRepresents
  · rename_i some
    obtain ⟨found, run, foundRepresents⟩ := middleRepresents.saveInstallation id
    rw [rest, Except.ok.injEq] at run
    subst run
    rw [if_neg some]
    exact foundRepresents

/-- Every account is loaded, in the order of the identifiers. -/
theorem loadAll_ok (represents : Represents db contents installation) :
    ∃ accounts, loadAll db = .ok accounts ∧
      accounts.map Account.id =
        ((contents .account).map Record.key).mergeSort (fun left right => left ≤ right) ∧
      ∀ account ∈ accounts, contents.account? account.id = some account := by
  have each : ∀ ids : List String,
      (∀ id ∈ ids, id ∈ (contents .account).map Record.key) →
        ∃ accounts, ids.mapM (loadAccount db) = .ok accounts ∧
          accounts.map Account.id = ids ∧
          ∀ account ∈ accounts, contents.account? account.id = some account := by
    intro ids known
    induction ids with
    | nil => exact ⟨[], rfl, rfl, fun _ member => absurd member List.not_mem_nil⟩
    | cons id rest inductionHypothesis =>
        obtain ⟨accounts, loaded, same, found⟩ := inductionHypothesis
          (fun other member => known other (List.mem_cons_of_mem _ member))
        obtain ⟨record, member, here⟩ := List.mem_map.mp (known id List.mem_cons_self)
        obtain ⟨account, first, named⟩ :
            ∃ account, contents.account? id = some account ∧ account.id = id := by
          rw [Contents.account?]
          cases search : (contents .account).find? (fun record => record.key = id) with
          | none => exact absurd (decide_eq_true here) (List.find?_eq_none.mp search record member)
          | some first =>
              have named : first.key = id := by simpa using List.find?_some search
              exact ⟨_, rfl, named⟩
        refine ⟨account :: accounts, ?_, by rw [List.map_cons, named, same], ?_⟩
        · rw [List.mapM_cons, represents.loadAccount_eq, first, loaded]
          rfl
        · exact List.forall_mem_cons.mpr ⟨named ▸ first, found⟩
  rw [represents.loadAll_eq]
  exact each _ (fun id member => List.mem_mergeSort.mp member)

end Represents

/-! ## Staying up to date -/

/-- A database that was used in any way is up to date. -/
theorem Used.upToDate {db : Database} (used : Used db) : UpToDate db := by
  obtain ⟨now, calls, rfl⟩ := used
  rw [(upkeep_empty now).2]
  have start := newDatabase_upToDate now
  generalize newDatabase now = db at start
  induction calls generalizing db with
  | nil => exact start
  | cons call rest inductionHypothesis => exact inductionHypothesis _ (start.perform call)

theorem UpToDate.saves
    {db after : Database}
    {accounts : List Account}
    (upToDate : UpToDate db)
    (saves : accounts.foldlM saveAccount db = .ok after) :
    UpToDate after :=
  (DefinesNothing.foldlM saveAccount_definesNothing accounts db after saves).upToDate upToDate

end TenantStore.TableEngine
