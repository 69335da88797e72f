import Mathlib.Data.List.Nodup
import TenantStore.Relational.Database

namespace TenantStore.Relational

/-!
# Rows in order

The rows of a table stand in strictly ascending order of their numbers, so a
new row comes last, and a row that takes the number of another one takes its
place.
-/

/-- Order of two rows by their numbers. -/
def Row.Precedes (left right : Row) : Prop :=
  left.number < right.number

namespace Table

/-- The rows stand in strictly ascending order of their numbers. -/
def Ascending (table : Table) : Prop :=
  table.rows.Pairwise Row.Precedes

theorem Ascending.number_inj
    {table : Table}
    (ascending : table.Ascending)
    {left right : Row}
    (leftMember : left ∈ table.rows)
    (rightMember : right ∈ table.rows)
    (same : left.number = right.number) :
    left = right := by
  have distinct : (table.rows.map Row.number).Nodup := by
    rw [List.nodup_iff_pairwise_ne, List.pairwise_map]
    exact ascending.imp (fun less => Int.ne_of_lt less)
  exact List.inj_on_of_nodup_map distinct leftMember rightMember same

/-- A row is found by its number. -/
theorem Ascending.find?_number
    {table : Table}
    (ascending : table.Ascending)
    {row : Row}
    (member : row ∈ table.rows) :
    table.rows.find? (fun other => other.number = row.number) = some row := by
  cases search : table.rows.find? (fun other => other.number = row.number) with
  | none =>
      exact absurd (decide_eq_true rfl) (List.find?_eq_none.mp search row member)
  | some other =>
      have sameNumber : other.number = row.number := by
        simpa using List.find?_some search
      rw [ascending.number_inj (List.mem_of_find?_eq_some search) member sameNumber]

/-- The next row has a greater number than every row. -/
theorem Ascending.lt_nextNumber
    {table : Table}
    (ascending : table.Ascending)
    {row : Row}
    (member : row ∈ table.rows) :
    row.number < table.nextNumber := by
  obtain ⟨before, last, rows_eq⟩ :=
    List.eq_nil_or_concat table.rows |>.resolve_left (List.ne_nil_of_mem member)
  rw [List.concat_eq_append] at rows_eq
  rw [Ascending, rows_eq] at ascending
  rw [rows_eq] at member
  rw [nextNumber, rows_eq, List.getLast?_concat]
  rcases List.mem_append.mp member with earlier | isLast
  · have less := (List.pairwise_append.mp ascending).2.2 row earlier last
      List.mem_cons_self
    exact Int.lt_trans less (Int.lt_succ last.number)
  · rw [List.mem_singleton.mp isLast]
    exact Int.lt_succ last.number

/-! ## Rows put into place -/

theorem placeRow_append
    {row : Row}
    {rows : List Row}
    (greatest : ∀ other ∈ rows, other.number < row.number) :
    placeRow row rows = rows ++ [row] := by
  induction rows with
  | nil => rfl
  | cons head tail inductionHypothesis =>
      have less := greatest head List.mem_cons_self
      rw [placeRow, if_neg (by omega), if_neg (by omega), inductionHypothesis
        (fun other member => greatest other (List.mem_cons_of_mem _ member))]
      rfl

/-- A row takes the place of the row of its number. -/
theorem placeRow_map
    {row : Row}
    {rows : List Row}
    (ascending : rows.Pairwise Row.Precedes)
    (present : ∃ other ∈ rows, other.number = row.number) :
    placeRow row rows =
      rows.map (fun other => if other.number = row.number then row else other) := by
  induction rows with
  | nil =>
      obtain ⟨other, member, _⟩ := present
      cases member
  | cons head tail inductionHypothesis =>
      obtain ⟨headFirst, tailAscending⟩ := List.pairwise_cons.mp ascending
      by_cases here : head.number = row.number
      · have kept : tail.map (fun other =>
            if other.number = row.number then row else other) = tail := by
          conv_rhs => rw [← List.map_id tail]
          apply List.map_congr_left
          intro other member
          have less : head.number < other.number := headFirst other member
          exact if_neg (by omega)
        rw [placeRow, if_neg (by omega), if_pos here.symm, List.map_cons, if_pos here,
          kept]
      · obtain ⟨other, member, same⟩ := present
        have later : other ∈ tail := by
          rcases List.mem_cons.mp member with rfl | later
          · exact absurd same here
          · exact later
        have less : head.number < other.number := headFirst other later
        rw [placeRow, if_neg (by omega), if_neg (by omega),
          inductionHypothesis tailAscending ⟨other, later, same⟩, List.map_cons,
          if_neg here]

theorem mem_placeRow {row other : Row} {rows : List Row}
    (member : other ∈ placeRow row rows) :
    other = row ∨ other ∈ rows := by
  induction rows with
  | nil => exact .inl (List.mem_singleton.mp member)
  | cons head rest inductionHypothesis =>
      rw [placeRow] at member
      split at member
      · exact List.mem_cons.mp member
      · split at member
        · rcases List.mem_cons.mp member with here | later
          · exact .inl here
          · exact .inr (List.mem_cons_of_mem _ later)
        · rcases List.mem_cons.mp member with here | later
          · exact .inr (here ▸ List.mem_cons_self)
          · exact (inductionHypothesis later).imp_right (List.mem_cons_of_mem _)

theorem mem_placeRow_self (row : Row) (rows : List Row) :
    row ∈ placeRow row rows := by
  induction rows with
  | nil => exact List.mem_singleton.mpr rfl
  | cons head rest inductionHypothesis =>
      rw [placeRow]
      split
      · exact List.mem_cons_self
      · split
        · exact List.mem_cons_self
        · exact List.mem_cons_of_mem _ inductionHypothesis

theorem mem_placeRow_of_mem {row other : Row} {rows : List Row}
    (member : other ∈ rows)
    (apart : other.number ≠ row.number) :
    other ∈ placeRow row rows := by
  induction rows with
  | nil => cases member
  | cons head rest inductionHypothesis =>
      rw [placeRow]
      split
      · exact List.mem_cons_of_mem _ member
      · split
        · rename_i same
          rcases List.mem_cons.mp member with rfl | later
          · exact absurd same.symm apart
          · exact List.mem_cons_of_mem _ later
        · rcases List.mem_cons.mp member with rfl | later
          · exact List.mem_cons_self
          · exact List.mem_cons_of_mem _ (inductionHypothesis later)

/-- Putting a row into its place keeps the rows in order. -/
theorem ascending_placeRow
    {row : Row}
    {rows : List Row}
    (ascending : rows.Pairwise Row.Precedes) :
    (placeRow row rows).Pairwise Row.Precedes := by
  induction rows with
  | nil => exact List.pairwise_singleton _ row
  | cons head rest inductionHypothesis =>
      obtain ⟨headFirst, restAscending⟩ := List.pairwise_cons.mp ascending
      rw [placeRow]
      split
      · rename_i before
        refine List.pairwise_cons.mpr ⟨?_, ascending⟩
        intro other member
        rcases List.mem_cons.mp member with rfl | later
        · exact before
        · exact Int.lt_trans before (headFirst other later)
      · split
        · rename_i same
          refine List.pairwise_cons.mpr ⟨?_, restAscending⟩
          intro other member
          rw [Row.Precedes, same]
          exact headFirst other member
        · rename_i notBefore notSame
          refine List.pairwise_cons.mpr ⟨?_, inductionHypothesis restAscending⟩
          intro other member
          rcases mem_placeRow member with rfl | later
          · rw [Row.Precedes]
            omega
          · exact headFirst other later

/-! ## New rows -/

theorem lookup_map_name
    {columns : List Column}
    (distinct : (columns.map Column.name).Nodup)
    {column : Column}
    (member : column ∈ columns)
    (fill : Column → Cell) :
    (columns.map (fun column => (column.name, fill column))).lookup column.name =
      some (fill column) := by
  induction columns with
  | nil => cases member
  | cons head tail inductionHypothesis =>
      obtain ⟨headElsewhere, tailDistinct⟩ := List.nodup_cons.mp distinct
      rw [List.map_cons, List.lookup_cons]
      rcases List.mem_cons.mp member with rfl | later
      · rw [beq_self_eq_true]
      · have unlike : column.name ≠ head.name := by
          intro same
          exact headElsewhere (same ▸ List.mem_map_of_mem later)
        rw [beq_eq_false_iff_ne.mpr unlike]
        exact inductionHypothesis tailDistinct later

/-- A new row has in each column what is given for it, or else the default. -/
theorem cell_newCells
    {table : Table}
    (distinct : (table.columns.map Column.name).Nodup)
    {column : Column}
    (member : column ∈ table.columns)
    (number : Int)
    (given : List (String × Cell)) :
    ({ number := number, cells := table.newCells given } : Row).cell column.name =
      column.affinity.store ((given.lookup column.name).getD column.default) := by
  rw [Row.cell, newCells, lookup_map_name distinct member, Option.getD_some]

/-- A row in which every column is given anew is a new row. -/
theorem newCells_overwrite
    {table : Table}
    (distinct : (table.columns.map Column.name).Nodup)
    {given : List (String × Cell)}
    (all : table.columns.all (fun column =>
      given.any (fun entry => entry.1 = column.name)) = true)
    (number : Int)
    (old : List (String × Cell)) :
    (table.newCells old).map (fun entry =>
        if given.any (fun value => value.1 = entry.1) then
          (entry.1, ({ number := number, cells := table.newCells given } : Row).cell
            entry.1)
        else
          entry) =
      table.newCells given := by
  have overwritten : ∀ column ∈ table.columns, ∀ cell : Cell,
      (if given.any (fun value => value.1 = column.name) then
          (column.name, ({ number := number, cells := table.newCells given } :
            Row).cell column.name)
        else
          (column.name, cell)) =
        (column.name,
          column.affinity.store ((given.lookup column.name).getD column.default)) := by
    intro column member cell
    rw [if_pos (List.all_eq_true.mp all column member), cell_newCells distinct member]
  generalize ({ number := number, cells := table.newCells given } : Row) = row at *
  rw [newCells, newCells, List.map_map]
  exact List.map_congr_left (fun column member => overwritten column member _)

end Table

end TenantStore.Relational
