import TenantStore.Text.Decimal

namespace TenantStore.FileEngine

/-!
# Migration reports

How many records each step of a migration changed.
-/

/-- The number of records that each step changed, in the order of the steps. -/
structure Report where
  changes : List (String × Nat) := []
  deriving Repr, DecidableEq

namespace Report

/-- How many records all steps changed together. -/
def total (report : Report) : Nat :=
  (report.changes.map (·.2)).foldr (· + ·) 0

/-- How many records a step changed; none if there is no such step. -/
def changed (report : Report) (step : String) : Nat :=
  (report.changes.lookup step).getD 0

/-- The steps that changed something, with their numbers. -/
def text (report : Report) : String :=
  match report.changes.filter (fun change => change.2 > 0) with
  | [] => "nothing to migrate"
  | changes =>
      ", ".intercalate
        (changes.map (fun change => change.1 ++ "=" ++ Text.showNat change.2))

end Report

end TenantStore.FileEngine
