import TenantStore.Proofs.Dictionaries
import TenantStore.Proofs.TableEngine.Contents

namespace TenantStore.TableEngine

/-!
# Databases that hold contents

`Represents` says that the tables of a database hold given contents, and that
nothing else in the database gets in the way of changing them: references lead
to tables with identifiers, and no index but that of peers demands more.
-/

open Relational (Cell Row Table Index Database)

/-! ## The schema -/

namespace Kind

/-- The sets of columns that no two rows of a kind agree on. -/
def uniqueSets : Kind → List (List String)
  | .peer => [["id"], ["account_id", "ip"]]
  | _ => [["id"]]

/-- One index is unique: that of the addresses in an account. -/
theorem uniqueIndices_eq :
    (Dict.ofList Schema.indices).values.filter Index.isUnique =
      [{ table := "peers", columns := ["account_id", "ip"], isUnique := true }] := by
  decide +kernel

/-- What no two rows of a kind may share, by columns and by indices. -/
theorem unique_eq (kind : Kind) :
    kind.schema.uniqueColumns
        ++ ((Dict.ofList Schema.indices).values.filter (fun index =>
          index.isUnique && index.table = kind.tableName)).map Index.columns =
      kind.uniqueSets := by
  have split_eq : ∀ index : Index,
      (index.isUnique && decide (index.table = kind.tableName)) =
        (decide (index.table = kind.tableName) && index.isUnique) :=
    fun index => Bool.and_comm _ _
  simp only [split_eq]
  rw [← List.filter_filter, uniqueIndices_eq]
  cases kind <;> rfl

/-- No two rows of a kind share an identifier. -/
theorem id_mem_uniqueColumns (kind : Kind) : ["id"] ∈ kind.schema.uniqueColumns := by
  cases kind <;> decide

/-- What an entity refers to is an account, a user or a policy. -/
theorem references_lead
    (kind : Kind)
    (reference : Relational.Reference)
    (member : reference ∈ kind.schema.references) :
    ∃ other : Kind, reference.table = other.tableName := by
  have tables : ∀ kind : Kind, ∀ reference ∈ kind.schema.references,
      reference.table = Kind.account.tableName ∨
        reference.table = Kind.user.tableName ∨
          reference.table = Kind.policy.tableName := by
    intro kind
    cases kind <;> decide
  rcases tables kind reference member with same | same | same
  · exact ⟨_, same⟩
  · exact ⟨_, same⟩
  · exact ⟨_, same⟩

/-- The rows of entities do not show their numbers. -/
theorem numberColumn?_eq (kind : Kind) : kind.schema.numberColumn? = none := by
  cases kind <;> rfl

/-- An identifier is stored as it is. -/
theorem stored_id (kind : Kind) (id : String) :
    kind.schema.stored "id" (.text id) = .text id := by
  cases kind <;> rfl

/-- An owner is stored as it is. -/
theorem stored_owner (kind : Kind) (owner : String) :
    kind.schema.stored kind.ownerColumn (.text owner) = .text owner := by
  cases kind <;> rfl

end Kind

/-! ## Representation -/

/-- The table with the identifier of the installation. -/
def installationTable (installation : Option String) : Table :=
  { Schema.installations with
    rows :=
      match installation with
      | none => []
      | some id =>
          [{ number := 1
             cells := [("id", .integer 1), ("installation_id", .text id)] }] }

/-- A database holds some contents and perhaps an installation. -/
structure Represents
    (db : Database)
    (contents : Contents)
    (installation : Option String) : Prop where
  tables : ∀ kind, ∃ table,
    db.tables.get? kind.tableName = some table ∧ Holds table (contents kind)
  installations :
    db.tables.get? "installations" = some (installationTable installation)
  indices : db.indices = Dict.ofList Schema.indices
  references : ∀ name table, db.tables.get? name = some table →
    ∀ reference ∈ table.references, ∃ kind : Kind, reference.table = kind.tableName
  addresses : (contents .peer).Pairwise (fun left right => ¬left.SharesAddress right)

namespace Represents

variable {db : Database} {contents : Contents} {installation : Option String}

/-- A table that holds a kind has the constraints of that kind. -/
theorem uniqueSets_eq
    (represents : Represents db contents installation)
    {kind : Kind}
    {table : Table}
    (holds : Holds table (contents kind)) :
    db.uniqueSets kind.tableName table = kind.uniqueSets := by
  rw [Database.uniqueSets, represents.indices, ← Kind.unique_eq, Table.uniqueColumns,
    Table.uniqueColumns, holds.columns]

/-- The rows of every kind can be told apart by their identifiers. -/
theorem hasIdentity
    (represents : Represents db contents installation)
    (kind : Kind) :
    db.hasIdentity kind.tableName = true := by
  obtain ⟨table, found, holds⟩ := represents.tables kind
  rw [Database.hasIdentity, found]
  simp only
  rw [Database.uniqueSets, List.contains_iff_mem]
  refine List.mem_append_left _ ?_
  rw [Table.uniqueColumns, holds.columns]
  exact kind.id_mem_uniqueColumns

/-- Every reference leads to identifiers. -/
theorem referencesHold
    (represents : Represents db contents installation)
    (name : String) :
    db.referencesHold name = true := by
  have leads : ∀ other table, db.tables.get? other = some table →
      ∀ reference ∈ table.references, db.hasIdentity reference.table = true := by
    intro other table found reference member
    obtain ⟨kind, same⟩ := represents.references other table found reference member
    rw [same]
    exact represents.hasIdentity kind
  rw [Database.referencesHold, Bool.and_eq_true]
  constructor
  · cases found : db.tables.get? name with
    | none => rfl
    | some table => exact List.all_eq_true.mpr (leads name table found)
  · rw [List.all_eq_true]
    intro table member
    obtain ⟨other, found⟩ := Dict.mem_values_iff.mp member
    rw [List.all_eq_true]
    intro reference referenceMember
    by_cases here : reference.table = name
    · rw [← here, leads other table found reference referenceMember, Bool.or_true]
    · simp [here]

/-- Every table can be changed. -/
theorem changeable
    (represents : Represents db contents installation)
    (name : String) :
    db.changeable name = .ok () := by
  rw [Database.changeable, represents.referencesHold, if_pos rfl]

/-- Rows of every kind can be replaced. -/
theorem replaceable
    (represents : Represents db contents installation)
    (kind : Kind) :
    db.replaceable kind.tableName = .ok () := by
  rw [Database.replaceable, represents.referencesHold, represents.hasIdentity]
  rfl

/-- Another table of the same kind of records takes the place of the old one. -/
theorem setTable
    (represents : Represents db contents installation)
    {kind : Kind}
    {table : Table}
    {records : List (Record kind)}
    (holds : Holds table records)
    (addresses : (Function.update contents kind records .peer).Pairwise
      (fun left right => ¬left.SharesAddress right)) :
    Represents (db.setTable kind.tableName table)
      (Function.update contents kind records) installation where
  tables := by
    intro other
    by_cases same : other = kind
    · subst same
      refine ⟨table, ?_, ?_⟩
      · simp [Database.setTable]
      · rwa [Function.update_self]
    · obtain ⟨kept, found, keptHolds⟩ := represents.tables other
      have unlike : kind.tableName ≠ other.tableName :=
        fun names => same (Kind.tableName_injective names).symm
      refine ⟨kept, ?_, ?_⟩
      · simp [Database.setTable, unlike, found]
      · rwa [Function.update_of_ne same]
  installations := by
    have unlike : kind.tableName ≠ "installations" := by
      cases kind <;> decide
    simpa [Database.setTable, unlike] using represents.installations
  indices := represents.indices
  references := by
    intro name other found
    simp only [Database.setTable, Dict.get?_insert] at found
    split at found
    · cases found
      rw [holds.references]
      exact kind.references_lead
    · exact represents.references name other found
  addresses := addresses

end Represents

end TenantStore.TableEngine
