import TenantStore.Proofs.TableEngine.Representation

namespace TenantStore.TableEngine

/-!
# Statements on contents

What each statement does to the contents that a database represents: rows are
put in place of those of equal identifiers or behind all others, deleted, and
changed one at a time.
-/

open Relational (Cell Row Table Database)

/-! ## Placing rows -/

/-- Records with one in place of that of its identifier, or behind all others. -/
def putRecord {kind : Kind} (record : Record kind) (records : List (Record kind)) :
    List (Record kind) :=
  if records.any (fun other => other.key = record.key) then
    records.map (fun other => if other.key = record.key then record else other)
  else
    records ++ [record]

section Keys

variable {kind : Kind} {record : Record kind} {records : List (Record kind)}

theorem putRecord_of_mem (known : record.key ∈ records.map Record.key) :
    putRecord record records =
      records.map (fun other => if other.key = record.key then record else other) := by
  obtain ⟨other, member, same⟩ := List.mem_map.mp known
  rw [putRecord, if_pos (List.any_eq_true.mpr ⟨other, member, decide_eq_true same⟩)]

theorem putRecord_of_not_mem (unknown : record.key ∉ records.map Record.key) :
    putRecord record records = records ++ [record] := by
  rw [putRecord, if_neg]
  intro present
  obtain ⟨other, member, same⟩ := List.any_eq_true.mp present
  exact unknown (List.mem_map.mpr ⟨other, member, of_decide_eq_true same⟩)

/-- A record in place of that of its identifier leaves the identifiers as they are. -/
theorem keys_replaced (record : Record kind) (records : List (Record kind)) :
    (records.map (fun other => if other.key = record.key then record else other)).map
        Record.key =
      records.map Record.key := by
  rw [List.map_map]
  apply List.map_congr_left
  intro other _
  simp only [Function.comp]
  split
  · rename_i same
    exact same.symm
  · rfl

/-- A record that is put takes the place of its identifier, or adds it at the end. -/
theorem keys_putRecord (record : Record kind) (records : List (Record kind)) :
    (putRecord record records).map Record.key =
      if record.key ∈ records.map Record.key then
        records.map Record.key
      else
        records.map Record.key ++ [record.key] := by
  split
  · rename_i known
    rw [putRecord_of_mem known, keys_replaced]
  · rename_i unknown
    rw [putRecord_of_not_mem unknown, List.map_append, List.map_singleton]

end Keys

/-- Contents with a record put among those of its kind. -/
def Contents.put {kind : Kind} (contents : Contents) (record : Record kind) : Contents :=
  Function.update contents kind (putRecord record (contents kind))

/-- No other record gives the address of a record in its account. -/
def Contents.Free {kind : Kind} (contents : Contents) (record : Record kind) : Prop :=
  ∀ other ∈ contents kind, other.key ≠ record.key → ¬record.SharesAddress other

theorem Record.StandsIn.lacksRequired
    {kind : Kind}
    {record : Record kind}
    {row : Row}
    (stands : record.StandsIn row)
    {table : Table}
    (columns : table.columns = kind.schema.columns) :
    table.lacksRequired row = false := by
  obtain ⟨given, written, row_eq⟩ := stands.exists_written
  rw [row_eq, Table.lacksRequired, columns]
  exact written.fills.required row.number

/-- Rows agree on identifiers if those of their records are the same. -/
theorem agreeOn_id
    {kind : Kind}
    {left right : Record kind}
    {leftRow rightRow : Row}
    (leftStands : left.StandsIn leftRow)
    (rightStands : right.StandsIn rightRow) :
    Table.agreeOn ["id"] leftRow rightRow = decide (left.key = right.key) := by
  simp [Table.agreeOn, leftStands.key_cell, rightStands.key_cell]

/-- The cells by which the row of a peer is found and told apart. -/
theorem peer_cells {record : Record .peer} {row : Row} (stands : record.StandsIn row) :
    row.cell "key" = .text (Peer.key record.value) ∧
      row.cell "ip" = documentCell (Peer.ip record.value).toJson := by
  obtain ⟨given, cells_eq, row_eq⟩ := stands.exists_cells
  rw [row_eq]
  simp only [Kind.cells, peerCells, Except.bind_eq_ok_iff, timeCell_eq_ok_iff]
    at cells_eq
  obtain ⟨_, status, _, ⟨_, rfl⟩, same⟩ := cells_eq
  obtain ⟨_, rfl⟩ := statusCells_eq_ok status
  cases same
  exact ⟨rfl, rfl⟩

theorem documentCell_address_inj {left right : Address} :
    documentCell left.toJson = documentCell right.toJson ↔ left = right := by
  constructor
  · intro same
    have texts : left.toJson.compactText = right.toJson.compactText := by
      simpa [documentCell] using same
    have read := Json.ofText?_compactText left.isPlain_toJson
    rw [texts, Json.ofText?_compactText right.isPlain_toJson, Option.some.injEq] at read
    have addresses := Address.ofJson?_toJson left
    rw [← read, Address.ofJson?_toJson, Option.some.injEq] at addresses
    exact addresses.symm
  · intro same
    rw [same]

/-- Rows of peers agree on account and address if their records share an address. -/
theorem agreeOn_address
    {left right : Record .peer}
    {leftRow rightRow : Row}
    (leftStands : left.StandsIn leftRow)
    (rightStands : right.StandsIn rightRow) :
    Table.agreeOn ["account_id", "ip"] leftRow rightRow = true ↔
      left.SharesAddress right := by
  have leftOwner : leftRow.cell "account_id" = .text left.owner :=
    leftStands.owner_cell (by decide)
  have rightOwner : rightRow.cell "account_id" = .text right.owner :=
    rightStands.owner_cell (by decide)
  have notNull : ∀ json, (documentCell json).isNull = false := fun _ => rfl
  simp [Table.agreeOn, leftOwner, rightOwner, (peer_cells leftStands).2,
    (peer_cells rightStands).2, Cell.sameValue, notNull, documentCell_address_inj,
    Record.SharesAddress]

/-- What is listed on one side is related to something on the other. -/
theorem exists_related_of_mem
    {related : α → β → Prop}
    {lefts : List α}
    {rights : List β}
    (stand : List.Forall₂ related lefts rights)
    {left : α}
    (member : left ∈ lefts) :
    ∃ right ∈ rights, related left right := by
  induction stand with
  | nil => cases member
  | @cons head right others otherRights here rest inductionHypothesis =>
      rcases List.mem_cons.mp member with rfl | later
      · exact ⟨right, List.mem_cons_self, here⟩
      · obtain ⟨found, foundMember, foundRelated⟩ := inductionHypothesis later
        exact ⟨found, List.mem_cons_of_mem _ foundMember, foundRelated⟩

theorem exists_record_of_mem
    {kind : Kind}
    {rows : List Row}
    {records : List (Record kind)}
    (stand : List.Forall₂ (fun row record => Record.StandsIn record row) rows records)
    {row : Row}
    (member : row ∈ rows) :
    ∃ record ∈ records, record.StandsIn row :=
  exists_related_of_mem stand member

theorem exists_row_of_mem
    {kind : Kind}
    {rows : List Row}
    {records : List (Record kind)}
    (stand : List.Forall₂ (fun row record => Record.StandsIn record row) rows records)
    {record : Record kind}
    (member : record ∈ records) :
    ∃ row ∈ rows, record.StandsIn row :=
  exists_related_of_mem stand.flip member

namespace Represents

variable {db : Database} {contents : Contents} {installation : Option String}

/-- A row may be placed if it has the number of the row of its identifier. -/
theorem place_eq
    (represents : Represents db contents installation)
    {kind : Kind}
    {table : Table}
    (holds : Holds table (contents kind))
    {record : Record kind}
    {row : Row}
    (stands : record.StandsIn row)
    (free : contents.Free record)
    (identity : ∀ other ∈ table.rows,
      other.cell "id" = .text record.key → other.number = row.number) :
    db.place kind.tableName table row =
      .ok (db.setTable kind.tableName (table.place row)) := by
  have fits : Database.clashing? (db.uniqueSets kind.tableName table) table.rows row =
      none := by
    rw [represents.uniqueSets_eq holds, Database.clashing?, List.find?_eq_none]
    intro columns member clash
    obtain ⟨other, otherMember, both⟩ := List.any_eq_true.mp clash
    rw [Bool.and_eq_true, bne_iff_ne] at both
    obtain ⟨apart, agree⟩ := both
    obtain ⟨otherRecord, recordMember, otherStands⟩ :=
      exists_record_of_mem holds.rows otherMember
    have keysApart : otherRecord.key ≠ record.key := by
      intro same
      exact apart (identity other otherMember (by rw [otherStands.key_cell, same]))
    have idsAgree : columns = ["id"] → False := by
      rintro rfl
      rw [agreeOn_id stands otherStands, decide_eq_true_eq] at agree
      exact keysApart agree.symm
    cases kind with
    | peer =>
        rcases List.mem_cons.mp member with isId | isAddress
        · exact idsAgree isId
        · rw [List.mem_singleton.mp isAddress] at agree
          exact free otherRecord recordMember keysApart
            ((agreeOn_address stands otherStands).mp agree)
    | _ => exact idsAgree (List.mem_singleton.mp member)
  rw [Database.place, stands.lacksRequired holds.columns, if_neg Bool.false_ne_true,
    fits]

theorem SharesAddress_symm {left right : Record .peer}
    (shares : left.SharesAddress right) :
    right.SharesAddress left :=
  ⟨shares.1.symm, shares.2.symm⟩

theorem distinct_keys
    (represents : Represents db contents installation)
    (kind : Kind) :
    (contents kind).Pairwise (fun left right => left.key ≠ right.key) := by
  obtain ⟨table, _, holds⟩ := represents.tables kind
  exact List.pairwise_map.mp holds.distinct

/-- Addresses stay distinct when a record is put that shares none. -/
theorem addresses_put
    (represents : Represents db contents installation)
    {kind : Kind}
    {record : Record kind}
    (free : contents.Free record) :
    (contents.put record .peer).Pairwise
      (fun left right => ¬left.SharesAddress right) := by
  by_cases same : kind = .peer
  · subst same
    rw [Contents.put, Function.update_self, putRecord]
    split
    · rw [List.pairwise_map]
      refine ((represents.distinct_keys .peer).and represents.addresses).imp_of_mem ?_
      intro left right leftMember rightMember apart
      obtain ⟨keysApart, addressesApart⟩ := apart
      by_cases leftHere : left.key = record.key
      · have rightElse : right.key ≠ record.key :=
          fun rightHere => keysApart (leftHere.trans rightHere.symm)
        rw [if_pos leftHere, if_neg rightElse]
        exact free right rightMember rightElse
      · rw [if_neg leftHere]
        by_cases rightHere : right.key = record.key
        · rw [if_pos rightHere]
          exact fun shares => free left leftMember leftHere (SharesAddress_symm shares)
        · rw [if_neg rightHere]
          exact addressesApart
    · rename_i fresh
      rw [List.pairwise_append]
      refine ⟨represents.addresses, List.pairwise_singleton _ _, ?_⟩
      intro other member last isLast shares
      rw [List.mem_singleton.mp isLast] at shares
      have elsewhere : other.key ≠ record.key := by
        intro here
        exact fresh (List.any_eq_true.mpr ⟨other, member, decide_eq_true here⟩)
      exact free other member elsewhere (SharesAddress_symm shares)
  · rw [Contents.put, Function.update_of_ne (fun other => same other.symm)]
    exact represents.addresses

end Represents

namespace Holds

variable {kind : Kind} {table : Table} {records : List (Record kind)}

/-- Rows of equal identifiers are one row. -/
theorem row_eq
    (holds : Holds table records)
    {left right : Row}
    (leftMember : left ∈ table.rows)
    (rightMember : right ∈ table.rows)
    (same : left.cell "id" = right.cell "id") :
    left = right := by
  have distinct : (table.rows.map (fun row => row.cell "id")).Nodup := by
    rw [forall₂_ids holds.rows]
    exact holds.distinct.map (fun _ _ texts => Cell.text.inj texts)
  exact List.inj_on_of_nodup_map distinct leftMember rightMember same

/-- No table of a kind counts its rows in a column. -/
theorem newRow?_eq (holds : Holds table records) (given : Cells) :
    table.newRow? given = some (rowOf table.nextNumber kind.schema given) := by
  have numberless : table.numberColumn? = none := by
    rw [← kind.numberColumn?_eq, Table.numberColumn?, Table.numberColumn?,
      holds.columns]
  simp only [Table.newRow?, numberless, holds.newCells_eq]

/-- Rows have one identifier exactly if they have one number. -/
theorem identity_of_mem
    (holds : Holds table records)
    {row : Row}
    (rowMember : row ∈ table.rows) :
    ∀ other ∈ table.rows,
      other.cell "id" = row.cell "id" ↔ other.number = row.number := by
  intro other member
  constructor
  · intro same
    rw [holds.row_eq member rowMember same]
  · intro same
    rw [holds.ascending.number_inj member rowMember same]

/-- An identifier that no record has belongs to the number that no row has. -/
theorem identity_of_fresh
    (holds : Holds table records)
    {key : String}
    (fresh : ∀ record ∈ records, record.key ≠ key) :
    ∀ other ∈ table.rows,
      other.cell "id" = .text key ↔ other.number = table.nextNumber := by
  intro other member
  constructor
  · intro same
    obtain ⟨record, recordMember, stands⟩ := exists_record_of_mem holds.rows member
    rw [stands.key_cell, Cell.text.injEq] at same
    exact absurd same (fresh record recordMember)
  · intro same
    have less : other.number < table.nextNumber := holds.ascending.lt_nextNumber member
    exact absurd same (Int.ne_of_lt less)

/-- A row behind all others adds its record. -/
theorem append
    (holds : Holds table records)
    {record : Record kind}
    {row : Row}
    (stands : record.StandsIn row)
    (number_eq : row.number = table.nextNumber)
    (fresh : ∀ other ∈ records, other.key ≠ record.key) :
    Holds (table.place row) (records ++ [record]) := by
  have greatest : ∀ other ∈ table.rows, other.number < row.number := by
    intro other member
    rw [number_eq]
    exact holds.ascending.lt_nextNumber member
  have rows_eq : (table.place row).rows = table.rows ++ [row] :=
    Table.placeRow_append greatest
  refine ⟨holds.columns, holds.references, ?_, ?_, ?_⟩
  · rw [Table.Ascending, rows_eq, List.pairwise_append]
    refine ⟨holds.ascending, List.pairwise_singleton _ _, ?_⟩
    intro other member last isLast
    rw [List.mem_singleton.mp isLast]
    exact greatest other member
  · rw [List.map_append, List.nodup_append]
    refine ⟨holds.distinct, List.nodup_singleton _, ?_⟩
    intro key member other isLast
    obtain ⟨found, foundMember, rfl⟩ := List.mem_map.mp member
    rw [List.mem_singleton.mp isLast]
    exact fresh found foundMember
  · rw [rows_eq]
    exact List.rel_append holds.rows (.cons stands .nil)

/-- A row in place of the row of its identifier replaces its record. -/
theorem replace
    (holds : Holds table records)
    {record : Record kind}
    {row old : Row}
    (stands : record.StandsIn row)
    (oldMember : old ∈ table.rows)
    (old_id : old.cell "id" = .text record.key)
    (number_eq : old.number = row.number) :
    Holds (table.place row)
      (records.map (fun other => if other.key = record.key then record else other)) := by
  have rows_eq : (table.place row).rows = table.rows.map (fun other =>
      if other.number = row.number then row else other) :=
    Table.placeRow_map holds.ascending ⟨old, oldMember, number_eq⟩
  refine ⟨holds.columns, holds.references, ?_, ?_, ?_⟩
  · rw [Table.Ascending, rows_eq, List.pairwise_map]
    refine holds.ascending.imp ?_
    intro left right less
    have number_kept : ∀ other : Row,
        (if other.number = row.number then row else other).number = other.number := by
      intro other
      split
      · rename_i same
        exact same.symm
      · rfl
    rw [Row.Precedes, number_kept, number_kept]
    exact less
  · rw [keys_replaced]
    exact holds.distinct
  · rw [rows_eq, List.forall₂_map_left_iff, List.forall₂_map_right_iff]
    refine ((List.forall₂_and_left _ _).mpr ⟨fun _ member => member, holds.rows⟩).imp ?_
    intro other otherRecord both
    obtain ⟨member, otherStands⟩ := both
    -- The row has the number exactly if the record has the identifier.
    have here_iff : other.number = row.number ↔ otherRecord.key = record.key := by
      constructor
      · intro same
        have isOld := holds.ascending.number_inj member oldMember
          (same.trans number_eq.symm)
        rw [← Cell.text.injEq, ← otherStands.key_cell, isOld, old_id]
      · intro same
        have isOld := holds.row_eq member oldMember
          (by rw [otherStands.key_cell, old_id, same])
        rw [isOld, number_eq]
    by_cases here : otherRecord.key = record.key
    · rw [if_pos (here_iff.mpr here), if_pos here]
      exact stands
    · rw [if_neg (fun same => here (here_iff.mp same)), if_neg here]
      exact otherStands

end Holds

/-- A placed row puts its record. -/
theorem Holds.put
    {kind : Kind}
    {table : Table}
    {records : List (Record kind)}
    (holds : Holds table records)
    {record : Record kind}
    {row : Row}
    (stands : record.StandsIn row)
    (identity : ∀ other ∈ table.rows,
      other.cell "id" = .text record.key ↔ other.number = row.number)
    (placed : row.number = table.nextNumber ∨ ∃ old ∈ table.rows, old.number = row.number) :
    Holds (table.place row) (putRecord record records) := by
  rcases placed with last | ⟨old, oldMember, number_eq⟩
  · have fresh : ∀ other ∈ records, other.key ≠ record.key := by
      intro other member same
      obtain ⟨otherRow, rowMember, otherStands⟩ := exists_row_of_mem holds.rows member
      have number_eq := (identity otherRow rowMember).mp (by rw [otherStands.key_cell, same])
      have less : otherRow.number < table.nextNumber :=
        holds.ascending.lt_nextNumber rowMember
      exact Int.ne_of_lt less (number_eq.trans last)
    have unknown : record.key ∉ records.map Record.key := by
      intro known
      obtain ⟨other, member, same⟩ := List.mem_map.mp known
      exact fresh other member same
    rw [putRecord_of_not_mem unknown]
    exact holds.append stands last fresh
  · have old_id := (identity old oldMember).mpr number_eq
    obtain ⟨oldRecord, recordMember, oldStands⟩ := exists_record_of_mem holds.rows oldMember
    rw [oldStands.key_cell, Cell.text.injEq] at old_id
    rw [putRecord_of_mem (old_id ▸ List.mem_map_of_mem recordMember)]
    exact holds.replace stands oldMember (oldStands.key_cell.trans (by rw [old_id])) number_eq

namespace Represents

variable {db : Database} {contents : Contents} {installation : Option String}

/-- Adding a row comes down to placing one that has the number of its identifier,
or the next number if no row has the identifier. -/
theorem upsert_eq_place
    (represents : Represents db contents installation)
    {kind : Kind}
    {record : Record kind}
    {given : Cells}
    (cells_eq : kind.cells record.owner record.value = .ok given) :
    ∃ table row, Holds table (contents kind) ∧ record.StandsIn row ∧
      (∀ other ∈ table.rows,
        other.cell "id" = .text record.key ↔ other.number = row.number) ∧
      (row.number = table.nextNumber ∨ ∃ old ∈ table.rows, old.number = row.number) ∧
      db.upsert kind.tableName given = db.place kind.tableName table row := by
  obtain ⟨table, found, holds⟩ := represents.tables kind
  have written := Kind.written_of_cells cells_eq
  have known : Database.knowsColumns table given = true :=
    (holds.knowsColumns_eq given).trans written.fills.known
  have stands : record.StandsIn (rowOf table.nextNumber kind.schema given) :=
    ⟨given, cells_eq, rfl⟩
  have same_id : ∀ row (other : Record kind), other.StandsIn row →
      (row.cell "id").sameValue
          ((rowOf table.nextNumber kind.schema given).cell "id") =
        decide (other.key = record.key) := by
    intro row other otherStands
    rw [otherStands.key_cell, stands.key_cell, Cell.sameValue_text]
  rw [Database.upsert, Database.table?, found]
  simp only [Except.bind, bind, known, holds.newRow?_eq,
    stands.lacksRequired holds.columns, Bool.not_true, if_neg Bool.false_ne_true]
  rcases forall₂_find? holds.rows same_id with
    ⟨none, noRecord⟩ | ⟨replaced, replacedRecord, some, someRecord, replacedStands⟩
  · have fresh : ∀ other ∈ contents kind, other.key ≠ record.key :=
      fun other member same =>
        List.find?_eq_none.mp noRecord other member (decide_eq_true same)
    rw [none]
    exact ⟨table, _, holds, stands, holds.identity_of_fresh fresh, .inl rfl, rfl⟩
  · have sameKey : replacedRecord.key = record.key := by
      simpa using List.find?_some someRecord
    have rowMember := List.mem_of_find?_eq_some some
    have replaced_id : replaced.cell "id" = .text record.key := by
      rw [replacedStands.key_cell, sameKey]
    have identity := holds.identity_of_mem rowMember
    rw [replaced_id] at identity
    rw [some]
    refine ⟨table, _, holds, ?_, ?_, .inr ⟨replaced, rowMember, ?_⟩, rfl⟩
    · obtain ⟨old, _, row_eq⟩ := replacedStands
      refine ⟨given, cells_eq, ?_⟩
      rw [row_eq]
      exact Table.newCells_overwrite kind.columns_distinct written.fills.all
        table.nextNumber old
    · exact identity
    · rfl

/-- Adding a row in place of that of its identifier puts its record. -/
theorem upsert
    (represents : Represents db contents installation)
    {kind : Kind}
    {record : Record kind}
    {given : Cells}
    (cells_eq : kind.cells record.owner record.value = .ok given)
    (free : contents.Free record) :
    ∃ after, db.upsert kind.tableName given = .ok after ∧
      Represents after (contents.put record) installation := by
  obtain ⟨table, row, holds, stands, identity, placed, upsert_eq⟩ :=
    represents.upsert_eq_place cells_eq
  have place_eq := represents.place_eq holds stands free
    (fun other member => (identity other member).mp)
  exact ⟨_, upsert_eq.trans place_eq,
    represents.setTable (holds.put stands identity placed) (represents.addresses_put free)⟩

end Represents

/-! ## Selecting rows -/

namespace Holds

variable {kind : Kind} {table : Table} {records : List (Record kind)}

theorem holds_id
    (holds : Holds table records)
    (id : String)
    (row : Row)
    (record : Record kind)
    (stands : record.StandsIn row) :
    table.holds "id" (.text id) row = decide (record.key = id) := by
  rw [Table.holds, holds.stored_eq, Kind.stored_id, stands.key_cell,
    Cell.sameValue_text]
  exact decide_eq_decide.mpr eq_comm

theorem holds_owner
    (holds : Holds table records)
    (owned : kind ≠ .account)
    (owner : String)
    (row : Row)
    (record : Record kind)
    (stands : record.StandsIn row) :
    table.holds kind.ownerColumn (.text owner) row = decide (record.owner = owner) := by
  rw [Table.holds, holds.stored_eq, Kind.stored_owner, stands.owner_cell owned,
    Cell.sameValue_text]
  exact decide_eq_decide.mpr eq_comm

end Holds

/-- The records of a kind that have some owner. -/
def Contents.owned (contents : Contents) (kind : Kind) (owner : String) :
    List (Record kind) :=
  (contents kind).filter (fun record => record.owner = owner)

/-- The identifiers of the records of a kind that have some owner. -/
def Contents.ownedKeys (contents : Contents) (kind : Kind) (owner : String) :
    List String :=
  (contents.owned kind owner).map Record.key

namespace Represents

variable {db : Database} {contents : Contents} {installation : Option String}

/-- The rows of an owner stand for the records of the owner. -/
theorem ownedRows_stand
    (represents : Represents db contents installation)
    {kind : Kind}
    (owned : kind ≠ .account)
    (owner : String) :
    List.Forall₂ (fun row record => Record.StandsIn record row)
      (ownedRows db kind.tableName kind.ownerColumn owner)
      (contents.owned kind owner) := by
  obtain ⟨table, found, holds⟩ := represents.tables kind
  rw [ownedRows, Database.rowsWith, found]
  exact forall₂_filter holds.rows (holds.holds_owner owned owner)

theorem ownedRows_ids
    (represents : Represents db contents installation)
    {kind : Kind}
    (owned : kind ≠ .account)
    (owner : String) :
    (ownedRows db kind.tableName kind.ownerColumn owner).map (·.cell "id") =
      (contents.ownedKeys kind owner).map Cell.text :=
  forall₂_ids (represents.ownedRows_stand owned owner)

/-- The row of an identifier stands for the record of it. -/
theorem rowsWith_id_stand
    (represents : Represents db contents installation)
    (kind : Kind)
    (id : String) :
    List.Forall₂ (fun row record => Record.StandsIn record row)
      (db.rowsWith kind.tableName "id" (.text id))
      ((contents kind).filter (fun record => record.key = id)) := by
  obtain ⟨table, found, holds⟩ := represents.tables kind
  rw [Database.rowsWith, found]
  exact forall₂_filter holds.rows (holds.holds_id id)

end Represents

/-! ## Deleting rows -/

/-- Contents without the records of a kind that fail a test. -/
def Contents.retain
    (contents : Contents)
    (kind : Kind)
    (keep : Record kind → Bool) :
    Contents :=
  Function.update contents kind ((contents kind).filter keep)

namespace Represents

variable {db : Database} {contents : Contents} {installation : Option String}

/-- Deleting rows retains the records of the others. -/
theorem deleteWhere
    (represents : Represents db contents installation)
    (kind : Kind)
    {test : Table → Row → Bool}
    {keep : Record kind → Bool}
    (agree : ∀ table, Holds table (contents kind) → ∀ row record,
      Record.StandsIn record row → test table row = !keep record) :
    ∃ after, db.deleteWhere kind.tableName test = .ok after ∧
      Represents after (contents.retain kind keep) installation := by
  obtain ⟨table, found, holds⟩ := represents.tables kind
  have kept : Holds (table.deleteWhere (test table)) ((contents kind).filter keep) := by
    refine ⟨holds.columns, holds.references, ?_, ?_, ?_⟩
    · exact List.Pairwise.filter _ holds.ascending
    · exact (List.filter_sublist.map Record.key).nodup holds.distinct
    · refine forall₂_filter holds.rows ?_
      intro row record stands
      rw [agree table holds row record stands, Bool.not_not]
  have addresses : (contents.retain kind keep .peer).Pairwise
      (fun left right => ¬left.SharesAddress right) := by
    by_cases same : kind = .peer
    · subst same
      rw [Contents.retain, Function.update_self]
      exact represents.addresses.filter _
    · rw [Contents.retain, Function.update_of_ne (fun other => same other.symm)]
      exact represents.addresses
  refine ⟨_, ?_, represents.setTable kept addresses⟩
  rw [Database.deleteWhere, Database.table?, found]
  simp only [Except.bind, bind, represents.changeable]

/-- Deleting the rows of an owner retains the records of other owners. -/
theorem deleteOwned
    (represents : Represents db contents installation)
    {kind : Kind}
    (column : kind.ownerColumn = "account_id")
    (owned : kind ≠ .account)
    (accountId : String) :
    ∃ after, deleteOwned accountId db kind.tableName = .ok after ∧
      Represents after
        (contents.retain kind (fun record => record.owner ≠ accountId))
        installation := by
  apply represents.deleteWhere kind
  intro table holds row record stands
  rw [← column, holds.holds_owner owned accountId row record stands]
  simp

/-- Deleting the rows below those of an account retains all other records. -/
theorem deleteBelow
    (represents : Represents db contents installation)
    {kind ownerKind : Kind}
    (column : ownerKind.ownerColumn = "account_id")
    (owned : kind ≠ .account)
    (ownerOwned : ownerKind ≠ .account)
    (accountId : String) :
    ∃ after,
      deleteBelow db kind.tableName kind.ownerColumn ownerKind.tableName accountId =
        .ok after ∧
      Represents after
        (contents.retain kind (fun record =>
          record.owner ∉ contents.ownedKeys ownerKind accountId))
        installation := by
  apply represents.deleteWhere kind
  intro table holds row record stands
  rw [← column, represents.ownedRows_ids ownerOwned accountId, stands.owner_cell owned]
  rw [Cell.any_sameValue_text]
  simp

end Represents

end TenantStore.TableEngine
