import TenantStore.Proofs.TableEngine.Representation

namespace TenantStore.TableEngine

/-!
# The installation

The identifier of the installation stands in the only row of its table. It can
be replaced and read back whatever accounts the database holds.
-/

open Relational (Cell Row Table Index Database)

namespace Represents

variable {db : Database} {contents : Contents} {installation : Option String}

theorem installationSets_eq (represents : Represents db contents installation) :
    db.uniqueSets "installations" (installationTable installation) = [["id"]] := by
  have noIndex : (db.indices.values.filter (fun index : Index =>
      index.isUnique && index.table = "installations")) = [] := by
    have split_eq : ∀ index : Index,
        (index.isUnique && decide (index.table = "installations")) =
          (decide (index.table = "installations") && index.isUnique) :=
      fun index => Bool.and_comm _ _
    simp only [split_eq]
    rw [← List.filter_filter, represents.indices, Kind.uniqueIndices_eq]
    rfl
  rw [Database.uniqueSets, noIndex]
  rfl

/-- Another installation takes the place of the old one. -/
theorem setInstallation
    (represents : Represents db contents installation)
    (id : String) :
    Represents (db.setTable "installations" (installationTable (some id))) contents
      (some id) where
  tables := by
    intro kind
    obtain ⟨table, found, holds⟩ := represents.tables kind
    have unlike : "installations" ≠ kind.tableName := by
      cases kind <;> decide
    exact ⟨table, by simp [Database.setTable, unlike, found], holds⟩
  installations := by simp [Database.setTable]
  indices := represents.indices
  references := by
    intro name table found reference member
    simp only [Database.setTable, Dict.get?_insert] at found
    split at found
    · cases found
      cases member
    · exact represents.references name table found reference member
  addresses := represents.addresses

/-- Saving an installation succeeds and replaces the old one. -/
theorem saveInstallation
    (represents : Represents db contents installation)
    (id : String) :
    ∃ after, saveInstallation db id = .ok after ∧
      Represents after contents (some id) := by
  have found := represents.installations
  have identity : db.hasIdentity "installations" = true := by
    rw [Database.hasIdentity, found]
    simp only [represents.installationSets_eq]
    rfl
  have replaceable : db.replaceable "installations" = .ok () := by
    rw [Database.replaceable, represents.referencesHold, identity]
    rfl
  refine ⟨_, ?_, represents.setInstallation id⟩
  rw [TableEngine.saveInstallation, replaceable]
  simp only [bind, Except.bind, Database.upsert, Database.table?, found]
  cases installation with
  | none =>
      simp only [Database.place, represents.installationSets_eq]
      rfl
  | some old =>
      simp only [Database.place, represents.installationSets_eq]
      rfl

/-- The identifier that is read is the one that was saved, or empty. -/
theorem installation_eq (represents : Represents db contents installation) :
    TableEngine.installation db = .ok (installation.getD "") := by
  rw [TableEngine.installation, Database.rowsWith, represents.installations]
  cases installation <;> rfl

end Represents

end TenantStore.TableEngine
