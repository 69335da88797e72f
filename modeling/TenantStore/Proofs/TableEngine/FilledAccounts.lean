import TenantStore.Proofs.TableEngine.Filling

namespace TenantStore.TableEngine

/-!
# Filling with accounts that can be told apart

Accounts in normal form that share no identifiers take nothing from each
other. So a database that is filled with them holds just what they are written
to (`savedAll_contentsOf`), and all of them are loaded again as they were
(`Represents.loadAll_contentsOf`).
-/

open Relational (Database)

section Accounts

variable {before accounts : List Account} {account : Account}

theorem DistinctKeys.of_append (distinct : DistinctKeys (before ++ accounts)) :
    DistinctKeys before := by
  intro kind
  have keys := distinct kind
  rw [List.flatMap_append] at keys
  exact keys.of_append_left

/-- The identifier of a further account is new. -/
theorem DistinctKeys.id_ne
    (distinct : DistinctKeys (before ++ [account])) :
    ∀ other ∈ before, other.id ≠ account.id := by
  have keys := distinct .account
  rw [List.flatMap_append, List.nodup_append] at keys
  intro other member
  exact keys.2.2 other.id (List.mem_flatMap.mpr ⟨other, member, List.mem_singleton_self _⟩)
    account.id
    (List.mem_flatMap.mpr ⟨account, List.mem_singleton_self _, List.mem_singleton_self _⟩)

/-- Saving a further account adds it behind the others. -/
theorem saved_contentsOf
    (distinct : DistinctKeys (before ++ [account]))
    (normal : account.IsNormal) :
    (contentsOf before).saved account = contentsOf (before ++ [account]) := by
  have unlike : before.filter (fun other => other.id ≠ account.id) = before :=
    List.filter_eq_self.mpr (fun other member => decide_eq_true (distinct.id_ne other member))
  rw [Contents.saved, normal, Contents.over, drop_contentsOf distinct.of_append, unlike,
    putAll_contentsOf distinct]

/-- Filling adds the accounts one behind the other. -/
theorem savedAll_contentsOf
    (distinct : DistinctKeys (before ++ accounts))
    (normal : ∀ account ∈ accounts, account.IsNormal) :
    (contentsOf before).savedAll accounts = contentsOf (before ++ accounts) := by
  induction accounts generalizing before with
  | nil => rw [List.append_nil]; rfl
  | cons account rest inductionHypothesis =>
      have appended : before ++ account :: rest = before ++ [account] ++ rest := by simp
      obtain ⟨accountNormal, restNormal⟩ := List.forall_mem_cons.mp normal
      rw [appended] at distinct ⊢
      rw [← inductionHypothesis distinct restNormal,
        ← saved_contentsOf distinct.of_append accountNormal]
      rfl

end Accounts

/-- Accounts that are found under their identifiers are told by these. -/
theorem eq_of_ids
    {left right : List Account}
    {find : String → Option Account}
    (ids : left.map Account.id = right.map Account.id)
    (leftFound : ∀ account ∈ left, find account.id = some account)
    (rightFound : ∀ account ∈ right, find account.id = some account) :
    left = right := by
  have told : ∀ accounts : List Account, (∀ account ∈ accounts, find account.id = some account) →
      (accounts.map Account.id).filterMap find = accounts := by
    intro accounts found
    rw [List.filterMap_map]
    exact (List.filterMap_congr found).trans List.filterMap_some
  rw [← told left leftFound, ids, told right rightFound]

/-- The accounts that a database is filled with are loaded as they were. -/
theorem Represents.loadAll_contentsOf
    {db : Database}
    {accounts : List Account}
    {installation : Option String}
    (represents : Represents db (contentsOf accounts) installation)
    (distinct : DistinctKeys accounts)
    (normal : ∀ account ∈ accounts, account.IsNormal)
    (rulesFiled : ∀ account ∈ accounts, RulesFiled account)
    (ordered : (accounts.map Account.id).Pairwise (fun left right => left ≤ right)) :
    loadAll db = .ok accounts := by
  obtain ⟨loaded, run, ids, found⟩ := represents.loadAll_ok
  have keys : (contentsOf accounts .account).map Record.key = accounts.map Account.id := by
    rw [keys_contentsOf, List.map_eq_flatMap]
    rfl
  have kept : (accounts.map Account.id).mergeSort (fun left right => left ≤ right) =
      accounts.map Account.id :=
    List.mergeSort_of_pairwise (ordered.imp decide_eq_true)
  rw [keys, kept] at ids
  rw [run, eq_of_ids ids found (fun account member =>
    account?_contentsOf distinct member (normal account member) (rulesFiled account member))]

end TenantStore.TableEngine
