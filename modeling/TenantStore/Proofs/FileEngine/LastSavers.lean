import TenantStore.Proofs.FileEngine.Searches
import TenantStore.Proofs.Lookups

namespace TenantStore.FileEngine

/-!
# The last account that was saved with a key

An index keeps one account for each key. Of several accounts that hold a key it
knows the one that was saved last. When this one gives the key up, the entry is
removed, and the others are not entered again: `Traces.run`. So an account that
is the only one to hold a key is found by it just if no other was saved with the
key after it: `find_run_iff`.
-/

namespace Memory

/-! ## Runs that save and delete -/

/-- Saving an account with ASCII keys, or deleting one. -/
def Restocks : Call → Prop
  | .save account => account.normalized.HasAsciiKeys
  | .delete _ => True
  | _ => False

instance : DecidablePred Restocks
  | .save account => inferInstanceAs (Decidable account.normalized.HasAsciiKeys)
  | .delete _ => .isTrue trivial
  | .get _ | .all | .find _ _ | .idByPeerKey _ | .tokenByHash _ | .userByToken _
  | .savePeerStatus _ _ _ | .savePeerLocation _ _ _ | .saveLastLogin _ _ _
  | .saveInstallation _ | .installation | .dropHashIndex _ | .dropTokenIndex _
  | .close => .isFalse id

/-- Whether saving an account lets a key lead to it. -/
def SavesWith (lookup : Lookup) (key : String) (account : Account) : Prop :=
  account.id ≠ "" ∧ lookup.normalize key ∈ lookup.keysOf account.normalized

instance (lookup : Lookup) (key : String) (account : Account) :
    Decidable (SavesWith lookup key account) :=
  inferInstanceAs (Decidable (_ ∧ _))

/-- The account that a call saves with a key, or else the last one before. -/
def saver (lookup : Lookup) (key : String) (last : Option String) : Call → Option String
  | .save account => if SavesWith lookup key account then some account.id else last
  | _ => last

/-- The account that was saved last with a key. -/
def lastSaver (lookup : Lookup) (key : String) (calls : List Call) : Option String :=
  calls.foldl (saver lookup key) none

/-! ## What the index knows of a key -/

/-- The entry of a key is the account that was saved last with it, if it holds it still. -/
def Traces
    (lookup : Lookup)
    (key : String)
    (memory : Memory)
    (last : Option String) :
    Prop :=
  ∀ id, (memory.indices.get lookup).get? (lookup.normalize key) = some id ↔
    last = some id ∧ ∃ stored, memory.accounts.get? id = some stored ∧
      lookup.normalize key ∈ lookup.keysOf stored

variable {lookup : Lookup} {key : String} {memory : Memory} {last : Option String}

theorem traces_empty : Traces lookup key .empty none := by
  intro id
  rw [Memory.empty]
  have entries : (({} : Indices).get lookup) = ∅ := Indices.get_empty lookup
  constructor
  · intro found
    rw [entries] at found
    cases found
  · rintro ⟨none, _⟩
    cases none

/-- What is left of the entry when the account of an identifier is dropped. -/
theorem Traces.drop_iff
    (traces : Traces lookup key memory last)
    (filed : memory.Filed)
    {dropped id : String} :
    ((memory.drop dropped).indices.get lookup).get? (lookup.normalize key) = some id ↔
      last = some id ∧ id ≠ dropped ∧ ∃ stored, memory.accounts.get? id = some stored ∧
        lookup.normalize key ∈ lookup.keysOf stored := by
  rw [index_drop_iff filed, traces]
  constructor
  · rintro ⟨⟨isLast, stored, found, listed⟩, kept⟩
    refine ⟨isLast, ?_, stored, found, listed⟩
    rintro rfl
    exact kept stored found ⟨Lookup.mem_keysReleased listed, rfl⟩
  · rintro ⟨isLast, other, holder⟩
    exact ⟨⟨isLast, holder⟩, fun _ _ both => other both.2⟩

theorem Traces.save
    (traces : Traces lookup key memory last)
    (filed : memory.Filed)
    {account : Account}
    (named : account.id ≠ "") :
    Traces lookup key (memory.save account) (saver lookup key last (.save account)) := by
  intro id
  rw [index_save, accounts_save, saver]
  by_cases carries : lookup.normalize key ∈ lookup.keysOf account.normalized
  · rw [if_pos carries, if_pos ⟨named, carries⟩]
    constructor
    · intro here
      obtain rfl := Option.some.inj here
      exact ⟨rfl, account.normalized, if_pos rfl, carries⟩
    · exact And.left
  · rw [if_neg carries, if_neg (fun saves => carries saves.2), traces.drop_iff filed]
    refine and_congr_right' ⟨?_, ?_⟩
    · rintro ⟨other, stored, found, listed⟩
      exact ⟨stored, by rw [if_neg other.symm, found], listed⟩
    · rintro ⟨stored, found, listed⟩
      split at found
      · cases found
        exact absurd listed carries
      · rename_i other
        exact ⟨Ne.symm other, stored, found, listed⟩

theorem Traces.delete
    (traces : Traces lookup key memory last)
    (filed : memory.Filed)
    (account : Account) :
    Traces lookup key (memory.delete account) last := by
  intro id
  rw [index_delete_iff filed, traces, accounts_delete, and_assoc]
  refine and_congr_right' ⟨?_, ?_⟩
  · rintro ⟨⟨stored, found, listed⟩, other⟩
    exact ⟨stored, by rw [if_neg (Ne.symm other), found], listed⟩
  · rintro ⟨stored, found, listed⟩
    split at found
    · cases found
    · rename_i other
      exact ⟨⟨stored, found, listed⟩, Ne.symm other⟩

/-- A save or a delete keeps the entry of a key up to what was saved last. -/
theorem Traces.perform
    (traces : Traces lookup key memory last)
    (filed : memory.Filed)
    {call : Call}
    (restocks : Restocks call) :
    Traces lookup key (memory.perform call).memory (saver lookup key last call) := by
  cases call with
  | save account =>
      simp only [Memory.perform]
      split
      · rename_i unnamed
        rw [saver, if_neg (fun saves => saves.1 (String.isEmpty_iff.mp unnamed))]
        exact traces
      · rename_i named
        exact traces.save filed (mt String.isEmpty_iff.mpr named)
  | delete account =>
      simp only [Memory.perform]
      split
      · exact traces
      · exact traces.delete filed account
  | _ => exact restocks.elim

/-- After a run of saves and deletes a key leads to what was saved last with it. -/
theorem Traces.run
    (traces : Traces lookup key memory last)
    (filed : memory.Filed)
    {calls : List Call}
    (restocks : ∀ call ∈ calls, Restocks call) :
    Traces lookup key (memory.run calls) (calls.foldl (saver lookup key) last) := by
  induction calls generalizing memory last with
  | nil => exact traces
  | cons call rest inductionHypothesis =>
      rw [List.forall_mem_cons] at restocks
      exact inductionHypothesis (traces.perform filed restocks.1) (filed.perform call)
        restocks.2

/-! ## What is found by a key -/

/-- An account that is stored after a save or a delete was so before, or has ASCII keys. -/
theorem Restocks.stored
    {call : Call}
    (restocks : Restocks call)
    {slot : String}
    {account : Account}
    (found : (memory.perform call).memory.accounts.get? slot = some account) :
    memory.accounts.get? slot = some account ∨ account.HasAsciiKeys := by
  cases call with
  | save saved =>
      simp only [Memory.perform] at found
      split at found
      · exact .inl found
      · rw [written, accounts_save] at found
        split at found
        · cases found
          exact .inr restocks
        · exact .inl found
  | delete deleted =>
      simp only [Memory.perform] at found
      split at found
      · exact .inl found
      · rw [written, accounts_delete] at found
        split at found
        · cases found
        · exact .inl found
  | _ => exact restocks.elim

theorem hasAsciiKeys_run
    {calls : List Call}
    (restocks : ∀ call ∈ calls, Restocks call)
    (ascii : ∀ slot account, memory.accounts.get? slot = some account → account.HasAsciiKeys) :
    ∀ slot account, (memory.run calls).accounts.get? slot = some account →
      account.HasAsciiKeys := by
  induction calls generalizing memory with
  | nil => exact ascii
  | cons call rest inductionHypothesis =>
      rw [List.forall_mem_cons] at restocks
      refine inductionHypothesis restocks.2 (fun slot account found => ?_)
      rcases restocks.1.stored found with before | arrived
      · exact ascii slot account before
      · exact arrived

theorem hasAsciiKeys_run_empty
    {calls : List Call}
    (restocks : ∀ call ∈ calls, Restocks call)
    {slot : String}
    {account : Account}
    (found : (Memory.empty.run calls).accounts.get? slot = some account) :
    account.HasAsciiKeys := by
  have none : ∀ slot account, Memory.empty.accounts.get? slot = some account →
      account.HasAsciiKeys := fun _ _ found => nomatch found
  exact hasAsciiKeys_run restocks none slot account found

/--
After a run of saves and deletes a key finds the account that was saved last with
it, if this one is stored and holds the key still.
-/
theorem find_run_iff
    {calls : List Call}
    (restocks : ∀ call ∈ calls, Restocks call)
    (ascii : lookup.ignoresCase = true → Text.isAscii key = true)
    {account : Account} :
    ((Memory.empty.run calls).perform (.find lookup key)).outcome = .ok (.account account) ↔
      lastSaver lookup key calls = some account.id ∧
        (Memory.empty.run calls).accounts.get? account.id = some account ∧
          lookup.Names account key := by
  have filed : (Memory.empty.run calls).Filed := filed_empty.run calls
  have traces : Traces lookup key (Memory.empty.run calls) (lastSaver lookup key calls) :=
    traces_empty.run filed_empty restocks
  have names_iff {slot : String} {stored : Account}
      (found : (Memory.empty.run calls).accounts.get? slot = some stored) :
      lookup.Names stored key ↔ lookup.normalize key ∈ lookup.keysOf stored :=
    Lookup.names_iff_mem_keysOf
      (fun ignores => ⟨hasAsciiKeys_run_empty restocks found, ascii ignores⟩)
  rw [outcome_find_iff, follow_found_iff]
  constructor
  · rintro ⟨id, entry, found, _⟩
    obtain ⟨isLast, stored, storedFound, listed⟩ := (traces id).mp entry
    rw [found, Option.some.injEq] at storedFound
    obtain rfl := filed.id found
    exact ⟨isLast, found, (names_iff found).mpr (storedFound ▸ listed)⟩
  · rintro ⟨isLast, found, names⟩
    exact ⟨account.id, (traces account.id).mpr
      ⟨isLast, account, found, (names_iff found).mp names⟩, found,
      names.holds (filed.normal found)⟩

end Memory

end TenantStore.FileEngine
