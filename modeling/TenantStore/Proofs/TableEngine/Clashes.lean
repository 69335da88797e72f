import TenantStore.Proofs.TableEngine.Statements

namespace TenantStore.TableEngine

/-!
# Rows that clash

A peer whose address another peer of the account has cannot be placed, and
nothing else stands in the way of a row whose cells can be written.
-/

open Relational (Cell Row Table Database)

namespace Represents

variable {db : Database} {contents : Contents} {installation : Option String}

/-- A peer whose address another peer of the account has cannot be placed. -/
theorem place_taken
    (represents : Represents db contents installation)
    {table : Table}
    (holds : Holds table (contents .peer))
    {record : Record .peer}
    {row : Row}
    (stands : record.StandsIn row)
    (identity : ∀ other ∈ table.rows,
      other.cell "id" = .text record.key ↔ other.number = row.number)
    (taken : ¬contents.Free record) :
    db.place Kind.peer.tableName table row = .error .addressTaken := by
  have ids : table.rows.any (fun other =>
      other.number != row.number && Table.agreeOn ["id"] row other) = false := by
    rw [List.any_eq_false]
    intro other member clash
    rw [Bool.and_eq_true, bne_iff_ne] at clash
    obtain ⟨otherRecord, _, otherStands⟩ := exists_record_of_mem holds.rows member
    rw [agreeOn_id stands otherStands, decide_eq_true_eq] at clash
    refine clash.1 ((identity other member).mp ?_)
    rw [otherStands.key_cell, clash.2]
  have addresses : table.rows.any (fun other =>
      other.number != row.number && Table.agreeOn ["account_id", "ip"] row other) =
        true := by
    simp only [Contents.Free, not_forall, not_not] at taken
    obtain ⟨other, member, keysApart, shares⟩ := taken
    obtain ⟨otherRow, rowMember, otherStands⟩ := exists_row_of_mem holds.rows member
    rw [List.any_eq_true]
    refine ⟨otherRow, rowMember, ?_⟩
    rw [Bool.and_eq_true, bne_iff_ne]
    refine ⟨?_, (agreeOn_address stands otherStands).mpr shares⟩
    intro same
    have sameId := (identity otherRow rowMember).mpr same
    rw [otherStands.key_cell, Cell.text.injEq] at sameId
    exact keysApart sameId
  have clashing : Database.clashing? (db.uniqueSets Kind.peer.tableName table)
      table.rows row = some ["account_id", "ip"] := by
    rw [represents.uniqueSets_eq holds, Database.clashing?]
    simp only [Kind.uniqueSets, List.find?_cons, ids, addresses]
  rw [Database.place, stands.lacksRequired holds.columns, if_neg Bool.false_ne_true,
    clashing]
  rfl

/-- A record that gives the address of another one cannot be put. -/
theorem upsert_taken
    (represents : Represents db contents installation)
    {kind : Kind}
    {record : Record kind}
    {given : Cells}
    (cells_eq : kind.cells record.owner record.value = .ok given)
    (taken : ¬contents.Free record) :
    db.upsert kind.tableName given = .error .addressTaken := by
  obtain ⟨table, row, holds, stands, identity, _, run⟩ := represents.upsert_eq_place cells_eq
  rw [run]
  cases kind with
  | peer => exact represents.place_taken holds stands identity taken
  | _ => exact absurd (fun _ _ _ shares => shares) taken

end Represents

end TenantStore.TableEngine
