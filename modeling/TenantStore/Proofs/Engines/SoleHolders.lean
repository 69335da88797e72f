import TenantStore.Proofs.Engines.Answers
import TenantStore.Proofs.FileEngine.LastSavers
import TenantStore.Proofs.TableEngine.Coherence

namespace TenantStore.Engines

/-!
# Keys with one holder

Several accounts may hold a setup key or a private domain for a while. When one
of them is left, a database finds it by the key, whatever was saved before. The
file engine finds it just if it was the last to be saved with the key:
`sole_holder_found`.
-/

open TableEngine
open FileEngine (Memory)
open FileEngine.Memory (Restocks lastSaver)
open Relational (Database)

/-- An account is the only stored one that holds something. -/
structure SoleHolder (stored holds : Account → Prop) (holder : Account) : Prop where
  isStored : stored holder
  isHolder : holds holder
  sole : ∀ other, stored other → holds other → other = holder

/-! ## In memory -/

theorem get_memory_iff {memory : Memory} {account : Account} :
    (memory.perform (.get account.id)).outcome = .ok (.account account) ↔
      memory.accounts.get? account.id = some account := by
  show (memory.account? account.id).map Answer.account = _ ↔ _
  rw [Memory.account?]
  cases memory.accounts.get? account.id <;> simp [Except.map]

/-- The only holder of a key is found if it was saved last with it, and else nothing is. -/
theorem find_memory_eq
    {lookup : Lookup}
    (ignores : lookup.ignoresCase = true)
    {calls : List Call}
    (restocks : ∀ call ∈ calls, Restocks call)
    {key : String}
    {holder : Account}
    (sole : SoleHolder
      (fun account => ((Memory.empty.run calls).perform (.get account.id)).outcome =
        .ok (.account account))
      (lookup.Names · key) holder) :
    ((Memory.empty.run calls).perform (.find lookup key)).outcome =
      if lastSaver lookup key calls = some holder.id then .ok (.account holder)
      else .error (.notFound lookup.subject key) := by
  have stored := get_memory_iff.mp sole.isStored
  have ascii : Text.isAscii key = true :=
    sole.isHolder.isAscii ignores (Memory.hasAsciiKeys_run_empty restocks stored)
  have found_iff {account : Account} := @Memory.find_run_iff lookup key calls restocks
    (fun _ => ascii) account
  split
  · rename_i isLast
    exact found_iff.mpr ⟨isLast, stored, sole.isHolder⟩
  · rename_i notLast
    rcases Memory.follow_found_cases (Memory.empty.run calls) lookup key with
      ⟨other, found, _⟩ | missing
    · obtain ⟨isLast, otherStored, names⟩ :=
        found_iff.mp (Memory.outcome_find_iff.mpr found)
      rw [sole.sole other (get_memory_iff.mpr otherStored) names] at isLast
      exact absurd isLast notLast
    · show ((Memory.empty.run calls).follow lookup key).found.map Answer.account = _
      rw [missing]
      rfl

/-! ## In a database -/

/-- A key leads to something of an account, as a database compares texts. -/
def Collates (lookup : Lookup) (account : Account) (key : String) : Prop :=
  ∃ record ∈ recordsOf account (lookupKind lookup), fits lookup key record = true

instance (lookup : Lookup) (account : Account) (key : String) :
    Decidable (Collates lookup account key) :=
  inferInstanceAs (Decidable (∃ record ∈ recordsOf account (lookupKind lookup), _))

/-- For ASCII texts without NULs a database compares as the accounts do. -/
theorem collates_iff_names
    {lookup : Lookup}
    (ignores : lookup.ignoresCase = true)
    {account : Account}
    {key : String}
    (ascii : account.HasAsciiKeys)
    (plain : Plain [account])
    (keyAscii : Text.isAscii key = true)
    (keyPlain : Text.HasNoNul key) :
    Collates lookup account key ↔ lookup.Names account key :=
  Asked.exists_fits_iff ascii (plain account List.mem_cons_self)
    (fun heeds => absurd (ignores.symm.trans heeds) (by decide)) (fun _ => keyAscii)
    (fun _ => keyPlain)

/-- Whether a record fits a key shows in what its row keeps. -/
theorem fits_congr
    {lookup : Lookup}
    {key : String}
    {left right : Record (lookupKind lookup)}
    (same : left.kept = right.kept) :
    fits lookup key left = fits lookup key right := by
  cases lookup with
  | setupKey => exact congrArg (fun stored => Text.equalNoCase (SetupKey.key stored) key) same
  | peerKey => exact congrArg (fun stored => decide (Peer.key stored = key)) same
  | peerId => exact congrArg (fun stored => decide (Peer.id stored = key)) same
  | user =>
      have ids := congrArg (fun stored => decide (User.id stored = key)) same
      exact ids
  | privateDomain =>
      have domains := congrArg (fun stored => Text.equalNoCase (Account.domain stored) key
        && Account.ownsPrivateDomain stored) same
      exact domains

theorem bare_eq_kept {lookup : Lookup} (record : Record (lookupKind lookup)) :
    (lookupKind lookup).bare record.value = record.kept := by
  cases lookup <;> rfl

section Contents

variable {contents : Contents} {accountId : String} {account : Account}
  {lookup : Lookup} {key : String}

/-- A key leads to a loaded account just if it leads to a record that belongs to it. -/
theorem collates_iff_record
    (coherent : contents.Coherent)
    (found : contents.account? accountId = some account) :
    Collates lookup account key ↔
      ∃ record ∈ contents (lookupKind lookup), contents.Belongs accountId record ∧
        fits lookup key record = true := by
  have part := coherent.mem_bare_iff found (lookupKind lookup)
  constructor
  · rintro ⟨listed, member, fit⟩
    have entity : listed.value ∈ entitiesOf (lookupKind lookup) account := by
      rw [← values_recordsOf]
      exact List.mem_map_of_mem member
    obtain ⟨record, recordMember, belongs, same⟩ :=
      (part listed.kept).mp (List.mem_map.mpr ⟨_, entity, bare_eq_kept listed⟩)
    exact ⟨record, recordMember, belongs, (fits_congr same).trans fit⟩
  · rintro ⟨record, recordMember, belongs, fit⟩
    obtain ⟨value, member, same⟩ :=
      List.mem_map.mp ((part record.kept).mpr ⟨record, recordMember, belongs, rfl⟩)
    rw [← values_recordsOf] at member
    obtain ⟨listed, listedMember, rfl⟩ := List.mem_map.mp member
    exact ⟨listed, listedMember, (fits_congr ((bare_eq_kept listed).symm.trans same)).trans fit⟩

end Contents

/-- In a database the only holder of a key is found, however the database was used. -/
theorem find_tables_eq
    {db : Database}
    (used : Used db)
    {lookup : Lookup}
    {key : String}
    {holder : Account}
    (sole : SoleHolder
      (fun account => (perform db (.get account.id)).outcome = .ok (.account account))
      (Collates lookup · key) holder) :
    (perform db (.find lookup key)).outcome = .ok (.account holder) := by
  obtain ⟨contents, installation, coherent, represents⟩ := used.coherent
  have stored := (get_eq_ok_iff represents).mp sole.isStored
  obtain ⟨record, member, _, fit⟩ := (collates_iff_record coherent stored).mp sole.isHolder
  obtain ⟨first, firstFound⟩ :=
    Option.isSome_iff_exists.mp (List.find?_isSome.mpr ⟨record, member, fit⟩)
  have firstMember := List.mem_of_find?_eq_some firstFound
  have belongs := @Contents.belongs_accountOf contents lookup first
  obtain ⟨owner, ownerFound⟩ := coherent.account?_of_belongs firstMember belongs
  have collates := (collates_iff_record coherent ownerFound).mpr
    ⟨first, firstMember, belongs, List.find?_some firstFound⟩
  have ownerStored : contents.account? owner.id = some owner := by
    rw [Contents.account?_id ownerFound, ownerFound]
  rw [sole.sole owner ((get_eq_ok_iff represents).mpr ownerStored) collates] at ownerFound
  exact represents.find_eq_ok firstFound ownerFound

/-! ## In both engines -/

/--
An account that is left as the only holder of a setup key or a private domain is
found by it in a database that was used in any way. After a run of saves and
deletes the file engine finds it just if it was the last account that was saved
with the key, and otherwise finds nothing. Holding a key means the same for both,
if there is no NUL in a key.
-/
theorem sole_holder_found
    {lookup : Lookup}
    (ignores : lookup.ignoresCase = true)
    (key : String) :
    (∀ db holder, Used db →
        SoleHolder
          (fun account => (perform db (.get account.id)).outcome = .ok (.account account))
          (Collates lookup · key) holder →
        (perform db (.find lookup key)).outcome = .ok (.account holder)) ∧
      (∀ calls holder, (∀ call ∈ calls, Restocks call) →
        SoleHolder
          (fun account => ((Memory.empty.run calls).perform (.get account.id)).outcome =
            .ok (.account account))
          (lookup.Names · key) holder →
        ((Memory.empty.run calls).perform (.find lookup key)).outcome =
          if lastSaver lookup key calls = some holder.id then .ok (.account holder)
          else .error (.notFound lookup.subject key)) ∧
      ∀ account : Account, account.HasAsciiKeys → Plain [account] → Text.isAscii key = true →
        Text.HasNoNul key → (Collates lookup account key ↔ lookup.Names account key) :=
  ⟨fun _ _ used sole => find_tables_eq used sole,
    fun _ _ restocks sole => find_memory_eq ignores restocks sole,
    fun _ ascii plain keyAscii keyPlain =>
      collates_iff_names ignores ascii plain keyAscii keyPlain⟩

/-- An account that a private domain leads to. -/
def tenant (id : String) : Account where
  id := id
  domain := "x.test"
  domainCategory := .privateDomain
  isDomainPrimary := true

/-- A second account gets the domain of a first one, and is deleted again. -/
def lent : List Call :=
  [.save (tenant "a"), .save (tenant "b"), .delete (tenant "b")]

/-- The first account is saved once more after that. -/
def returned : List Call :=
  lent ++ [.save (tenant "a")]

/-- The first account is the only holder in the end; the file engine has lost it on the way. -/
theorem sole_holder_found_lent :
    SoleHolder
        (fun account => ((Memory.empty.run lent).perform (.get account.id)).outcome =
          .ok (.account account))
        (Lookup.privateDomain.Names · "X.test") (tenant "a") ∧
      (perform (performAll (upkeep .empty ⟨0⟩).db lent)
        (.find .privateDomain "X.test")).outcome = .ok (.account (tenant "a")) ∧
      ((Memory.empty.run lent).perform (.find .privateDomain "X.test")).outcome =
        .error (.notFound .privateDomain "X.test") ∧
      ((Memory.empty.run returned).perform (.find .privateDomain "X.test")).outcome =
        .ok (.account (tenant "a")) := by
  have inMemory (calls : List Call)
      (stored : (Memory.empty.run calls).accounts.get? "a" = some (tenant "a"))
      (others : ∀ account ∈ (Memory.empty.run calls).accounts.values,
        Lookup.privateDomain.Names account "X.test" → account = tenant "a") :
      SoleHolder
        (fun account => ((Memory.empty.run calls).perform (.get account.id)).outcome =
          .ok (.account account))
        (Lookup.privateDomain.Names · "X.test") (tenant "a") :=
    ⟨get_memory_iff.mpr stored, by decide +kernel, fun other otherStored names =>
      others other (Dict.mem_values_iff.mpr ⟨_, get_memory_iff.mp otherStored⟩) names⟩
  have used : Used (performAll (upkeep .empty ⟨0⟩).db lent) := ⟨⟨0⟩, lent, rfl⟩
  have inTables : SoleHolder
      (fun account => (perform (performAll (upkeep .empty ⟨0⟩).db lent)
        (.get account.id)).outcome = .ok (.account account))
      (Collates .privateDomain · "X.test") (tenant "a") := by
    obtain ⟨accounts, listed, loaded, _⟩ := used.coherentAnswers.loaded
    rw [(upkeep_empty ⟨0⟩).2] at listed loaded ⊢
    have all : (perform (performAll (newDatabase ⟨0⟩) lent) .all).outcome =
        .ok (.accounts [tenant "a"]) := by
      decide +kernel
    obtain rfl : accounts = [tenant "a"] := by
      rw [all] at listed
      cases listed
      rfl
    refine ⟨(loaded _).mp List.mem_cons_self, by decide +kernel, ?_⟩
    exact fun other stored _ => List.mem_singleton.mp ((loaded other).mpr stored)
  have memoryHolder := inMemory lent (by decide +kernel) (by decide +kernel)
  have returnedHolder := inMemory returned (by decide +kernel) (by decide +kernel)
  obtain ⟨tables, memory, _⟩ :=
    @sole_holder_found .privateDomain (by decide) "X.test"
  refine ⟨memoryHolder, tables _ _ used inTables, ?_, ?_⟩
  · rw [memory lent _ (by decide +kernel) memoryHolder]
    decide +kernel
  · rw [memory returned _ (by decide +kernel) returnedHolder]
    decide +kernel

end TenantStore.Engines
