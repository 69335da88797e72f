import TenantStore.Proofs.Engines.Answers
import TenantStore.Proofs.TableEngine.NewDatabase

namespace TenantStore.Engines

/-!
# Engines that agree

From an empty store on, both engines answer every call alike: `engines_agree`.
Each call keeps the database a mirror of the memory, and a mirror is asked like
the memory. `engines_differ` shows what the conditions on calls are for.
-/

open TableEngine
open FileEngine (Memory)
open Relational (Database)

/-! ## One call -/

/-- Calls that both engines understand alike. -/
def Alike (memory : Memory) (call : Call) : Prop :=
  memory.Careful call ∧ AsksPlain call

instance (memory : Memory) (call : Call) : Decidable (Alike memory call) :=
  inferInstanceAs (Decidable (_ ∧ _))

section Step

variable {order : List Account} {memory : Memory} {db : Database}

/-- Every call is matched. -/
theorem Asked.matches_call
    (asked : Asked order memory db)
    {call : Call}
    (measured : Measured call)
    (alike : Alike memory call)
    (tidyAfter : Tidy (memory.perform call).memory.accounts.values) :
    Matches memory db call := by
  obtain ⟨mirrors, exactness, filed, tidy, plain⟩ := asked
  have asked : Asked order memory db := ⟨mirrors, exactness, filed, tidy, plain⟩
  cases call with
  | save account => exact matches_save mirrors filed tidy account tidyAfter
  | delete account => exact matches_delete mirrors filed tidy account
  | get id => exact asked.matches_get id
  | all => exact asked.matches_all
  | find lookup key => exact asked.matches_find measured alike.2
  | idByPeerKey key => exact asked.matches_idByPeerKey key
  | tokenByHash hash => exact asked.matches_tokenByHash hash
  | userByToken token => exact asked.matches_userByToken token
  | savePeerStatus account peer status =>
      exact matches_savePeerStatus mirrors filed tidy account peer measured
  | savePeerLocation account peer location =>
      exact matches_savePeerLocation mirrors filed tidy account peer location
  | saveLastLogin account user time =>
      exact matches_saveLastLogin mirrors filed tidy account user measured
  | saveInstallation id => exact matches_saveInstallation mirrors id
  | installation => exact matches_installation mirrors
  | dropHashIndex hash => exact measured.elim
  | dropTokenIndex token => exact measured.elim
  | close => exact ⟨rfl, order, mirrors⟩

/-! ## Runs -/

/-- From a mirror on, every call of a run is answered alike. -/
theorem Asked.outcomes_agree
    (asked : Asked order memory db)
    {calls : List Call}
    (run : Runs (fun memory call => Measured call ∧ Alike memory call)
      (fun memory => Tidy memory.accounts.values ∧ Plain memory.accounts.values)
      memory calls) :
    List.Forall₂ Agree (fileOutcomes memory calls) (tableOutcomes db calls) := by
  induction calls generalizing order memory db with
  | nil => exact .nil
  | cons call rest inductionHypothesis =>
      obtain ⟨⟨measured, alike⟩, ⟨tidyAfter, plainAfter⟩, restRuns⟩ := run
      obtain ⟨agree, orderAfter, mirrorsAfter⟩ :=
        asked.matches_call measured alike tidyAfter
      have askedAfter : Asked orderAfter (memory.perform call).memory
          (TableEngine.perform db call).db :=
        { mirrors := mirrorsAfter
          exactness := asked.exactness.perform asked.filed asked.tidy.distinct alike.1
            tidyAfter.distinct
          filed := asked.filed.perform call
          tidy := tidyAfter
          plain := plainAfter }
      exact .cons agree (inductionHypothesis askedAfter restRuns)

end Step

theorem tidy_nil : Tidy [] where
  identifiers _ _ := List.nodup_nil
  publicKeys := List.nodup_nil
  hashes := List.nodup_nil
  setupKeys := .nil
  domains := .nil
  peers _ member := by cases member
  addresses _ member := by cases member
  numbers _ member := by cases member
  rules _ member := by cases member
  ascii _ member := by cases member

theorem lists_nil : Lists [] ∅ where
  mem_iff := by
    intro account
    constructor
    · exact fun member => by cases member
    · exact fun found => by cases found
  ids := List.nodup_nil

/-- A new database mirrors a memory without accounts. -/
theorem asked_empty (now : Timestamp) : Asked [] .empty (newDatabase now) where
  mirrors :=
    { lists := lists_nil
      represents := ⟨none, newDatabase_represents now, rfl⟩ }
  exactness := FileEngine.Memory.exact_empty
  filed := FileEngine.Memory.filed_empty
  tidy := tidy_nil
  plain _ member := by cases member

/--
From empty stores on, both engines give equal answers or problems of one kind
to every call of a run, as long as the stored accounts stay tidy, keys are
ASCII without NULs, times fit a cell, and a deletion names no token of another
account.
-/
theorem engines_agree
    (now : Timestamp)
    {calls : List Call}
    (run : Runs (fun memory call => Measured call ∧ Alike memory call)
      (fun memory => Tidy memory.accounts.values ∧ Plain memory.accounts.values)
      .empty calls) :
    (upkeep .empty now).failure = none ∧
      List.Forall₂ Agree (fileOutcomes .empty calls)
        (tableOutcomes (upkeep .empty now).db calls) := by
  obtain ⟨succeeds, db_eq⟩ := upkeep_empty now
  refine ⟨succeeds, ?_⟩
  rw [db_eq]
  exact (asked_empty now).outcomes_agree run

/-! ### A household that comes and goes -/

/-- A household is saved, looked up, changed and deleted. -/
def visit : List Call := [
  .save (Memory.household "a"),
  .find .setupKey "KEY-1",
  .userByToken "t",
  .saveLastLogin "a" "u" ⟨5⟩,
  .all,
  .delete (Memory.household "a"),
  .userByToken "t"]

/-- The engines agree on the visit of a household. -/
theorem engines_agree_visit :
    Runs (fun memory call => Measured call ∧ Alike memory call)
        (fun memory => Tidy memory.accounts.values ∧ Plain memory.accounts.values)
        .empty visit ∧
      List.Forall₂ Agree (fileOutcomes .empty visit)
        (tableOutcomes (upkeep .empty ⟨0⟩).db visit) := by
  have run : Runs (fun memory call => Measured call ∧ Alike memory call)
      (fun memory => Tidy memory.accounts.values ∧ Plain memory.accounts.values)
      .empty visit := by
    decide +kernel
  exact ⟨run, (engines_agree ⟨0⟩ run).2⟩

/-! ## Calls that engines understand differently -/

/-- A household is saved, and one with its token is deleted that was never saved. -/
def strangers : List Call := [
  .save (Memory.household "b"),
  .delete (Memory.household "a"),
  .userByToken "t"]

/-- A setup key is saved and another one asked for that differs behind a NUL. -/
def nulKeys : List Call := [
  .save {
    id := "a"
    setupKeys := .ofList [("K\x00a", { id := "s", key := "K\x00a" })] },
  .find .setupKey "K\x00b"]

/--
Without one of the conditions on calls the engines differ. Deleting an account
that was never saved makes the file engine forget the tokens it names, and a
database compares setup keys up to the first NUL only.
-/
theorem engines_differ :
    (Runs (fun _ call => Measured call ∧ AsksPlain call)
        (fun memory => Tidy memory.accounts.values ∧ Plain memory.accounts.values)
        .empty strangers ∧
      ¬List.Forall₂ Agree (fileOutcomes .empty strangers)
        (tableOutcomes (upkeep .empty ⟨0⟩).db strangers)) ∧
    Runs (fun memory call => Measured call ∧ memory.Careful call)
        (fun memory => Tidy memory.accounts.values) .empty nulKeys ∧
      ¬List.Forall₂ Agree (fileOutcomes .empty nulKeys)
        (tableOutcomes (upkeep .empty ⟨0⟩).db nulKeys) := by
  have db_eq := (upkeep_empty ⟨0⟩).2
  rw [db_eq]
  refine ⟨⟨by decide +kernel, ?_⟩, by decide +kernel, ?_⟩
  · decide +kernel
  · decide +kernel

end TenantStore.Engines
