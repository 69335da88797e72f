import TenantStore.Proofs.TableEngine.Statements

namespace TenantStore.TableEngine

/-!
# Partial updates on contents

A partial update puts some cells into the row of one entity of one account.
The row then stands for the changed entity, so the update puts the changed
record into the contents; if there is no such entity, it says what is missing.
-/

open Relational (Cell Row Table Database)

/-! ## Cells of a changed entity -/

/-- A row with values put into some of its columns. -/
def setCells (table : Table) (values : Cells) (row : Row) : Row :=
  values.foldl (fun row value => row.set value.1 (table.stored value.1 value.2)) row

/-- A change of entities that some cells write down. -/
structure Writes (kind : Kind) (change : kind.Value → kind.Value) (values : Cells) :
    Prop where
  known : Database.knowsColumns kind.schema values = true
  key : ∀ value, kind.key (change value) = kind.key value
  address : ∀ {left right : Record kind},
    (Record.mk left.owner (change left.value)).SharesAddress right →
      left.SharesAddress right
  stands : ∀ {record : Record kind} {row : Row}, record.StandsIn row →
    (Record.mk record.owner (change record.value)).StandsIn
      (setCells kind.schema values row)

/-- The cells of a status write down a peer with this status. -/
theorem writes_status {status : PeerStatus} {values : Cells}
    (written : statusCells status = .ok values) :
    Writes .peer (fun peer => { (peer : Peer) with status := status }) values := by
  have new := statusCells_eq_ok written
  obtain ⟨_, rfl⟩ := new
  refine ⟨rfl, fun _ => rfl, fun shares => shares, ?_⟩
  intro record row stands
  obtain ⟨given, cells_eq, row_eq⟩ := stands.exists_cells
  simp only [Kind.cells, peerCells, Except.bind_eq_ok_iff, timeCell_eq_ok_iff]
    at cells_eq
  obtain ⟨_, old, _, ⟨lastLogin, rfl⟩, same⟩ := cells_eq
  obtain ⟨_, rfl⟩ := statusCells_eq_ok old
  cases same
  have login := timeCell_eq_ok_iff.mpr ⟨lastLogin, rfl⟩
  refine ⟨?given, ?cells, ?row⟩
  case cells =>
    show (statusCells status >>= _) = _
    rw [written]
    show (timeCell _ >>= _) = _
    rw [login]
    rfl
  case row =>
    rw [row_eq]
    rfl

/-- The cells of a location write down a peer with this location. -/
theorem writes_location (location : Location) :
    Writes .peer (fun peer => { (peer : Peer) with location := location })
      (locationCells location) := by
  refine ⟨rfl, fun _ => rfl, fun shares => shares, ?_⟩
  intro record row stands
  obtain ⟨given, cells_eq, row_eq⟩ := stands.exists_cells
  simp only [Kind.cells, peerCells, Except.bind_eq_ok_iff, timeCell_eq_ok_iff]
    at cells_eq
  obtain ⟨_, status, _, ⟨lastLogin, rfl⟩, same⟩ := cells_eq
  have login := timeCell_eq_ok_iff.mpr ⟨lastLogin, rfl⟩
  obtain ⟨_, rfl⟩ := statusCells_eq_ok status
  cases same
  refine ⟨?given, ?cells, ?row⟩
  case cells =>
    show (statusCells _ >>= _) = _
    rw [status]
    show (timeCell _ >>= _) = _
    rw [login]
    rfl
  case row =>
    rw [row_eq]
    rfl

/-- A time writes down a user who logged in then. -/
theorem writes_lastLogin {time : Timestamp} {cell : Cell}
    (written : timeCell time = .ok cell) :
    Writes .user (fun user => { (user : User) with lastLogin := time })
      [("last_login", cell)] := by
  obtain ⟨_, rfl⟩ := timeCell_eq_ok_iff.mp written
  refine ⟨rfl, fun _ => rfl, fun shares => shares, ?_⟩
  intro record row stands
  obtain ⟨given, cells_eq, row_eq⟩ := stands.exists_cells
  simp only [Kind.cells, userCells, Except.bind_eq_ok_iff, timeCell_eq_ok_iff]
    at cells_eq
  obtain ⟨_, ⟨lastLogin, rfl⟩, same⟩ := cells_eq
  cases same
  refine ⟨?given, ?cells, ?row⟩
  case cells =>
    show (timeCell time >>= _) = _
    rw [written]
    rfl
  case row =>
    rw [row_eq]
    rfl

theorem setCells_number (table : Table) (values : Cells) (row : Row) :
    (setCells table values row).number = row.number := by
  induction values generalizing row with
  | nil => rfl
  | cons value rest inductionHypothesis =>
      exact inductionHypothesis (row.set value.1 (table.stored value.1 value.2))

theorem Holds.setCells_eq
    {kind : Kind}
    {table : Table}
    {records : List (Record kind)}
    (holds : Holds table records)
    (values : Cells)
    (row : Row) :
    setCells table values row = setCells kind.schema values row := by
  simp only [setCells, holds.stored_eq]

/-! ## Updating one entity -/

namespace Represents

variable {db : Database} {contents : Contents} {installation : Option String}

/-- A record shares no address with another one. -/
theorem free_of_mem
    (represents : Represents db contents installation)
    {kind : Kind}
    {record : Record kind}
    (member : record ∈ contents kind) :
    contents.Free record := by
  intro other otherMember keysApart
  cases kind with
  | peer =>
      have apart : ∀ ⦃left⦄, left ∈ contents .peer → ∀ ⦃right⦄, right ∈ contents .peer →
          left.key ≠ right.key → ¬left.SharesAddress right :=
        List.Pairwise.forall_of_forall_of_flip
          (fun _ _ same => absurd rfl same)
          (represents.addresses.imp
            (fun {left right} apart (_ : left.key ≠ right.key) => apart))
          (represents.addresses.imp
            (fun {left right} apart (_ : right.key ≠ left.key) shares =>
              apart (SharesAddress_symm shares)))
      exact apart member otherMember (fun same => keysApart same.symm)
  | _ => exact id

/-- Updating the row of a record puts the changed record. -/
theorem updateRow
    (represents : Represents db contents installation)
    {kind : Kind}
    {change : kind.Value → kind.Value}
    {values : Cells}
    (writes : Writes kind change values)
    {table : Table}
    (found : db.tables.get? kind.tableName = some table)
    {row : Row}
    (rowMember : row ∈ table.rows)
    {record : Record kind}
    (member : record ∈ contents kind)
    (stands : record.StandsIn row) :
    ∃ after, db.updateRow kind.tableName values row.number = .ok after ∧
      Represents after
        (contents.put (Record.mk record.owner (change record.value))) installation := by
  obtain ⟨other, otherFound, holds⟩ := represents.tables kind
  rw [found, Option.some.injEq] at otherFound
  subst otherFound
  have changed : (Record.mk record.owner (change record.value)).StandsIn
      (setCells table values row) := by
    rw [holds.setCells_eq]
    exact writes.stands stands
  have sameKey : (Record.mk record.owner (change record.value)).key = record.key :=
    writes.key record.value
  have free : contents.Free (Record.mk record.owner (change record.value)) := by
    intro other otherMember keysApart shares
    exact represents.free_of_mem member other otherMember
      (fun same => keysApart (same.trans sameKey.symm)) (writes.address shares)
  have row_id : row.cell "id" =
      .text (Record.mk record.owner (change record.value)).key := by
    rw [sameKey, stands.key_cell]
  have identity : ∀ other ∈ table.rows,
      other.cell "id" = .text (Record.mk record.owner (change record.value)).key →
        other.number = (setCells table values row).number := by
    intro other otherMember same
    rw [setCells_number, holds.row_eq otherMember rowMember (same.trans row_id.symm)]
  have put_eq : putRecord (Record.mk record.owner (change record.value))
      (contents kind) = (contents kind).map (fun other =>
        if other.key = (Record.mk record.owner (change record.value)).key then
          Record.mk record.owner (change record.value) else other) := by
    rw [putRecord, if_pos]
    exact List.any_eq_true.mpr ⟨record, member, decide_eq_true sameKey.symm⟩
  have addresses := represents.addresses_put free
  rw [Contents.put, put_eq] at addresses ⊢
  refine ⟨_, ?_, represents.setTable (holds.replace changed rowMember row_id
    (setCells_number table values row).symm) addresses⟩
  rw [Database.updateRow, Database.table?, found]
  simp only [Except.bind, bind, holds.ascending.find?_number rowMember]
  exact represents.place_eq holds changed free identity

/-- At most one record has some owner and some identifier. -/
theorem filter_owner_key
    (represents : Represents db contents installation)
    (kind : Kind)
    (owner id : String) :
    (contents kind).filter (fun record => record.owner = owner && record.key = id) = [] ∨
      ∃ record ∈ contents kind, record.owner = owner ∧ record.key = id ∧
        (contents kind).filter (fun record =>
          record.owner = owner && record.key = id) = [record] := by
  have fits : ∀ record ∈ (contents kind).filter (fun record =>
      record.owner = owner && record.key = id),
        record ∈ contents kind ∧ record.owner = owner ∧ record.key = id := by
    intro record member
    simpa using member
  have distinct := (represents.distinct_keys kind).filter (fun record =>
    record.owner = owner && record.key = id)
  cases selected : (contents kind).filter (fun record =>
      record.owner = owner && record.key = id) with
  | nil => exact .inl rfl
  | cons record rest =>
      rw [selected] at fits distinct
      obtain ⟨member, sameOwner, sameKey⟩ := fits record List.mem_cons_self
      have alone : rest = [] := by
        rw [List.eq_nil_iff_forall_not_mem]
        intro other otherMember
        exact (List.pairwise_cons.mp distinct).1 other otherMember
          (sameKey.trans (fits other (List.mem_cons_of_mem _ otherMember)).2.2.symm)
      exact .inr ⟨record, member, sameOwner, sameKey, by rw [alone]⟩

/-- An update changes the one entity that it names, or says what is missing. -/
theorem updateEntity
    (represents : Represents db contents installation)
    {kind : Kind}
    (column : kind.ownerColumn = "account_id")
    (owned : kind ≠ .account)
    {change : kind.Value → kind.Value}
    {values : Cells}
    (writes : Writes kind change values)
    (subject : Subject)
    (accountId id : String) :
    (∃ record ∈ contents kind, record.owner = accountId ∧ record.key = id ∧
      ∃ after,
        updateEntity db kind.tableName subject accountId id values = .ok after ∧
          Represents after
            (contents.put (Record.mk record.owner (change record.value)))
            installation) ∨
      (∀ record ∈ contents kind, ¬(record.owner = accountId ∧ record.key = id)) ∧
        updateEntity db kind.tableName subject accountId id values =
          .error (missing db accountId subject id) := by
  obtain ⟨table, found, holds⟩ := represents.tables kind
  have known : Database.knowsColumns table values = true :=
    (holds.knowsColumns_eq values).trans writes.known
  have agree : ∀ row (record : Record kind), record.StandsIn row →
      (table.holds "account_id" (.text accountId) row
          && table.holds "id" (.text id) row) =
        (decide (record.owner = accountId) && decide (record.key = id)) := by
    intro row record stands
    rw [← column, holds.holds_owner owned accountId row record stands,
      holds.holds_id id row record stands]
  have stand := forall₂_filter holds.rows agree
  rcases represents.filter_owner_key kind accountId id with
    none | ⟨record, member, sameOwner, sameKey, alone⟩
  · rw [none] at stand
    refine .inr ⟨?_, ?_⟩
    · intro record member both
      have selected : record ∈ (contents kind).filter (fun record =>
          record.owner = accountId && record.key = id) :=
        List.mem_filter.mpr ⟨member, by simp [both.1, both.2]⟩
      rw [none] at selected
      cases selected
    · have noRow := List.forall₂_nil_right_iff.mp stand
      simp only [TableEngine.updateEntity, Database.updateWhere, Database.table?, found,
        bind, Except.bind, known, noRow, Bool.not_true, if_neg Bool.false_ne_true]
      rfl
  · rw [alone] at stand
    obtain ⟨row, others, stands, rest, rows_eq⟩ :=
      List.forall₂_cons_right_iff.mp stand
    rw [List.forall₂_nil_right_iff.mp rest] at rows_eq
    have rowMember : row ∈ table.rows :=
      List.mem_of_mem_filter (rows_eq ▸ List.mem_cons_self)
    obtain ⟨after, updated, afterRepresents⟩ :=
      represents.updateRow writes found rowMember member stands
    refine .inl ⟨record, member, sameOwner, sameKey, after, ?_, afterRepresents⟩
    simp only [TableEngine.updateEntity, Database.updateWhere, Database.table?, found,
      bind, Except.bind, known, rows_eq, updated, Bool.not_true,
      if_neg Bool.false_ne_true, List.map_cons, List.map_nil, List.foldlM_cons,
      List.foldlM_nil]
    rfl

end Represents

end TenantStore.TableEngine
