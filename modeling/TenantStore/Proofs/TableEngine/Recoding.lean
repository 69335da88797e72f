import TenantStore.Proofs.TableEngine.BinaryCells
import TenantStore.Proofs.TableEngine.Reopening

namespace TenantStore.TableEngine

/-!
# One migration

A migration takes effect as a whole or not at all. If every binary cell of its
column is known to the decoder, the migration replaces each of them by the
document of its value, records its version and touches nothing else
(`Migration.step_eq`); if one is not, the migration fails (`Migration.step_fails`).
-/

open Relational (Cell Row Column Table Index Database)

namespace Migration

/-! ## Decoders -/

/-- How the binary cells encode values that a migration replaces. -/
def encoding (migration : Migration) : Encoding :=
  match migration.version with
  | 1 | 2 => .text
  | 3 => .texts
  | _ => .address

/-- Bytes are decoded to the document of what they encode. -/
theorem decoding_eq_ok_iff
    {encoding : Encoding}
    {table column : String}
    {number : Int}
    {bytes : List UInt8}
    {json : Json} :
    decoding table column (fun bytes => (encoding.decode? bytes).map encoding.document) number
        bytes = .ok json ↔
      ∃ value, encoding.Encodes value bytes ∧ json = encoding.document value := by
  have same : ∀ value, encoding.Encodes value bytes ∧ json = encoding.document value ↔
      encoding.decode? bytes = some value ∧ encoding.document value = json := by
    intro value
    rw [Encoding.decode?_eq_some_iff, eq_comm (a := json)]
  simp only [same, ← Option.map_eq_some_iff]
  rw [decoding]
  cases (encoding.decode? bytes).map encoding.document <;> simp

/-- Bytes are decoded to an address, or to null if there are none. -/
theorem decodeAddress_eq_ok_iff {number : Int} {bytes : List UInt8} {json : Json} :
    decodeAddress number bytes = .ok json ↔
      ∃ value, Binary.AddressBytes value bytes ∧ json = .ofOption Address.toJson value := by
  rw [decodeAddress]
  cases decoded : Binary.address? bytes with
  | none =>
      simp only [reduceCtorEq, false_iff]
      rintro ⟨value, encoded, _⟩
      rw [Binary.address?_eq_some_iff.mpr encoded] at decoded
      cases decoded
  | some address =>
      have known := Binary.address?_eq_some_iff.mp decoded
      rw [Except.ok.injEq]
      constructor
      · rintro rfl
        exact ⟨address, known, rfl⟩
      · rintro ⟨value, encoded, rfl⟩
        rw [Binary.address?_eq_some_iff.mpr encoded, Option.some.injEq] at decoded
        rw [decoded]

/-- The decoder of a migration gives the document of the value that the bytes encode. -/
theorem decode_eq_ok_iff
    {migration : Migration}
    (known : migration ∈ migrations)
    {number : Int}
    {bytes : List UInt8}
    {json : Json} :
    migration.decode number bytes = .ok json ↔
      ∃ value, migration.encoding.Encodes value bytes ∧
        json = migration.encoding.document value := by
  simp only [migrations, List.mem_cons, List.not_mem_nil, or_false] at known
  rcases known with rfl | rfl | rfl | rfl | rfl
  · exact @decoding_eq_ok_iff .text "accounts" "network_net" _ _ _
  · exact @decoding_eq_ok_iff .text "routes" "network" _ _ _
  · exact @decoding_eq_ok_iff .texts "routes" "peer_groups" _ _ _
  · exact @decodeAddress_eq_ok_iff number bytes json
  · exact @decodeAddress_eq_ok_iff number bytes json

/-- Every binary cell of the column encodes a value. -/
def Legible (migration : Migration) (db : Database) : Prop :=
  ∀ table, db.tables.get? migration.table = some table →
    ∀ row ∈ table.rows, ∀ bytes, row.cell migration.column = .blob bytes →
      ∃ value, migration.encoding.Encodes value bytes

instance (migration : Migration) (db : Database) : Decidable (migration.Legible db) :=
  decidable_of_iff
    (∀ table ∈ db.tables.get? migration.table, ∀ row ∈ table.rows,
      migration.encoding.knows (row.cell migration.column) = true)
    ⟨fun all table found row member =>
        Encoding.knows_iff.mp (all table found row member),
      fun legible table found row member =>
        Encoding.knows_iff.mpr (legible table found row member)⟩

/-! ## Recoded rows -/

/-- A row with the document of its binary cell, if that encodes a value. -/
def recodeRow (migration : Migration) (row : Row) : Row :=
  match row.cell migration.column with
  | .blob bytes =>
      match migration.decode row.number bytes with
      | .ok json => row.set migration.column (documentCell json)
      | .error _ => row
  | _ => row

/-- A table with recoded rows. -/
def recodeTable (migration : Migration) (table : Table) : Table :=
  { table with rows := table.rows.map migration.recodeRow }

/-- A database without the index that a migration drops. -/
def dropped (migration : Migration) (db : Database) : Database :=
  match migration.dropsIndex with
  | some index => db.dropIndex index
  | none => db

section Rows

variable {migration : Migration} {row : Row}

/-- A recoded row differs in one cell at most. -/
theorem recodeRow_cases (migration : Migration) (row : Row) :
    migration.recodeRow row = row ∨
      ∃ json, migration.recodeRow row = row.set migration.column (documentCell json) := by
  unfold recodeRow
  split
  · split
    · exact .inr ⟨_, rfl⟩
    · exact .inl rfl
  · exact .inl rfl

@[simp] theorem number_recodeRow : (migration.recodeRow row).number = row.number := by
  rcases recodeRow_cases migration row with same | ⟨json, same⟩ <;> rw [same]
  exact Row.number_set

@[simp] theorem names_recodeRow :
    (migration.recodeRow row).cells.map Prod.fst = row.cells.map Prod.fst := by
  rcases recodeRow_cases migration row with same | ⟨json, same⟩ <;> rw [same]
  exact Row.names_set

/-- Only the column of the migration changes. -/
theorem cell_recodeRow_of_ne {column : String} (unlike : column ≠ migration.column) :
    (migration.recodeRow row).cell column = row.cell column := by
  rcases recodeRow_cases migration row with same | ⟨json, same⟩ <;> rw [same]
  exact Row.cell_set_of_ne unlike

/-- A cell without bytes is left as it is. -/
theorem recodeRow_of_not_blob (other : ∀ bytes, row.cell migration.column ≠ .blob bytes) :
    migration.recodeRow row = row := by
  unfold recodeRow
  split
  · rename_i bytes blob
    exact absurd blob (other bytes)
  · rfl

/-- Bytes that can be decoded are replaced by a document. -/
theorem recodeRow_of_decode
    {bytes : List UInt8}
    {json : Json}
    (blob : row.cell migration.column = .blob bytes)
    (decoded : migration.decode row.number bytes = .ok json) :
    migration.recodeRow row = row.set migration.column (documentCell json) := by
  rw [recodeRow, blob]
  simp only [decoded]

/-- The cell holds the document afterwards. -/
theorem cell_recodeRow
    {bytes : List UInt8}
    {json : Json}
    (blob : row.cell migration.column = .blob bytes)
    (decoded : migration.decode row.number bytes = .ok json) :
    (migration.recodeRow row).cell migration.column = documentCell json := by
  rw [recodeRow_of_decode blob decoded]
  exact Row.cell_set_self (by rw [blob]; exact Cell.noConfusion)

end Rows

/-! ## Recoding a column -/

section Columns

variable {migration : Migration} {db : Database} {table : Table}

/-- A cell of a row, as `pending` lists it, that the decoder knows. -/
def Decodes (migration : Migration) (table : Table) (cell : Int × List UInt8) : Prop :=
  ∃ row ∈ table.rows, row.number = cell.1 ∧ row.cell migration.column = .blob cell.2 ∧
    ∃ json, migration.decode cell.1 cell.2 = .ok json

/-- A table whose rows of some numbers are recoded. -/
def recodeNumbers (migration : Migration) (table : Table) (numbers : List Int) : Table :=
  { table with
    rows := table.rows.map (fun row =>
      if row.number ∈ numbers then migration.recodeRow row else row) }

/-- Rows can be recoded one by one. -/
theorem recodeNumbers_recodeNumbers {number : Int} {numbers : List Int}
    (elsewhere : number ∉ numbers) :
    migration.recodeNumbers (migration.recodeNumbers table [number]) numbers =
      migration.recodeNumbers table (number :: numbers) := by
  simp only [recodeNumbers, List.map_map, List.mem_cons]
  congr 1
  apply List.map_congr_left
  intro row _
  by_cases here : row.number = number
  · simp [here, elsewhere]
  · simp [here]

/-- Replacing one cell recodes its row. -/
theorem recodeCell_eq
    (known : migration ∈ migrations)
    (sound : db.Sound)
    (found : db.tables.get? migration.table = some table)
    (free : ∀ columns ∈ db.uniqueSets migration.table table, migration.column ∉ columns)
    {cell : Int × List UInt8}
    (decodes : migration.Decodes table cell) :
    migration.recodeCell db cell =
      .ok (db.setTable migration.table (migration.recodeNumbers table [cell.1])) := by
  obtain ⟨row, member, number, blob, json, decoded⟩ := decodes
  rw [← number] at decoded
  obtain ⟨value, _, isDocument⟩ := (decode_eq_ok_iff known).mp decoded
  have stored : table.stored migration.column (documentCell json) = documentCell json := by
    rw [Table.stored]
    split
    · rw [isDocument, Encoding.store_documentCell]
    · rfl
  have updated := sound.updateRow_eq found member stored rfl free
  have sameRows : table.rows.map (fun other =>
      if other.number = row.number then row.set migration.column (documentCell json)
        else other) =
      table.rows.map (fun other =>
        if other.number ∈ [row.number] then migration.recodeRow other else other) := by
    apply List.map_congr_left
    intro other otherMember
    simp only [List.mem_singleton]
    split
    · rename_i same
      rw [(sound _ table found).ascending.number_inj otherMember member same,
        recodeRow_of_decode blob decoded]
    · rfl
  rw [recodeCell, ← number, decoded, recodeNumbers, ← sameRows]
  exact updated

/-- Replacing some cells one after the other recodes their rows. -/
theorem foldlM_recodeCell_eq
    (known : migration ∈ migrations)
    (sound : db.Sound)
    (found : db.tables.get? migration.table = some table)
    (free : ∀ columns ∈ db.uniqueSets migration.table table, migration.column ∉ columns)
    {cells : List (Int × List UInt8)}
    (distinct : (cells.map Prod.fst).Nodup)
    (decode : ∀ cell ∈ cells, migration.Decodes table cell) :
    cells.foldlM migration.recodeCell db =
      .ok (db.setTable migration.table
        (migration.recodeNumbers table (cells.map Prod.fst))) := by
  induction cells generalizing db table with
  | nil =>
      have unchanged : migration.recodeNumbers table [] = table := by
        simp [recodeNumbers]
      rw [List.map_nil, unchanged, Database.setTable, Dict.insert_eq_self found]
      rfl
  | cons cell rest inductionHypothesis =>
      obtain ⟨cellElsewhere, restDistinct⟩ := List.nodup_cons.mp distinct
      have first := recodeCell_eq known sound found free (decode cell List.mem_cons_self)
      rw [List.foldlM_cons, first]
      show rest.foldlM migration.recodeCell _ = _
      -- The later cells stand in rows of other numbers, which the first cell leaves alone.
      have restDecode : ∀ other ∈ rest,
          migration.Decodes (migration.recodeNumbers table [cell.1]) other := by
        intro other member
        obtain ⟨row, rowMember, number, blob, decoded⟩ :=
          decode other (List.mem_cons_of_mem _ member)
        have unlike : row.number ∉ [cell.1] := by
          rw [List.mem_singleton, number]
          intro same
          exact cellElsewhere (same ▸ List.mem_map_of_mem member)
        exact ⟨row, List.mem_map.mpr ⟨row, rowMember, if_neg unlike⟩, number, blob, decoded⟩
      have soundAfter : (db.setTable migration.table
          (migration.recodeNumbers table [cell.1])).Sound := by
        obtain ⟨json, _, updated⟩ := Except.bind_eq_ok_iff.mp first
        exact sound.updateRow updated
      rw [@inductionHypothesis _ (migration.recodeNumbers table [cell.1]) soundAfter
        (by simp [Database.setTable]) free restDistinct restDecode,
        recodeNumbers_recodeNumbers cellElsewhere, Database.setTable, Database.setTable,
        Dict.insert_insert]
      rfl

/-! ## Pending cells -/

/-- The binary cells of the column are pending. -/
theorem mem_pending_iff
    (sound : db.Sound)
    (found : db.tables.get? migration.table = some table)
    {cell : Int × List UInt8} :
    cell ∈ migration.pending db ↔
      ∃ row ∈ table.rows, row.number = cell.1 ∧
        row.cell migration.column = .blob cell.2 := by
  have blob_iff : ∀ row : Row, blob? migration.column row = some cell ↔
      row.number = cell.1 ∧ row.cell migration.column = .blob cell.2 := by
    intro row
    rw [blob?]
    split
    · rename_i bytes blob
      rw [blob, Option.some.injEq, Prod.ext_iff, Cell.blob.injEq]
    · rename_i other
      simp only [reduceCtorEq, false_iff, not_and]
      exact fun _ blob => other cell.2 blob
  rw [pending, found]
  simp only
  split
  · simp only [List.mem_filterMap, blob_iff]
  · rename_i missing
    simp only [List.not_mem_nil, false_iff]
    rintro ⟨row, member, _, blob⟩
    have present : row.cell migration.column ≠ .null := by
      rw [blob]
      exact Cell.noConfusion
    have named := Row.mem_names_of_cell_ne_null present
    rw [(sound _ table found).named row member] at named
    obtain ⟨column, columnMember, name⟩ := List.mem_map.mp named
    apply missing
    rw [Table.hasColumn, Table.column?, List.find?_isSome]
    exact ⟨column, columnMember, decide_eq_true name⟩

/-- No row is recoded twice. -/
theorem pending_nodup (sound : db.Sound) :
    ((migration.pending db).map Prod.fst).Nodup := by
  rw [pending]
  split
  · rename_i table found
    split
    · rw [List.nodup_iff_pairwise_ne, List.pairwise_map]
      refine (sound _ table found).ascending.filterMap _ ?_
      intro earlier later less first isFirst second isSecond
      have number : ∀ {row : Row} {cell : Int × List UInt8},
          blob? migration.column row = some cell → cell.1 = row.number := by
        intro row cell blob
        rw [blob?] at blob
        split at blob
        · cases blob
          rfl
        · cases blob
      rw [number isFirst, number isSecond]
      exact Int.ne_of_lt less
    · exact List.nodup_nil
  · exact List.nodup_nil

/-- Dropping an index leaves as many cells to be recoded. -/
theorem pending_dropped (migration : Migration) (db : Database) :
    migration.pending (migration.dropped db) = migration.pending db := by
  rw [dropped]
  split <;> rfl

/-- What is pending is known to the decoder if the column is legible. -/
theorem Legible.decodes
    (known : migration ∈ migrations)
    (sound : db.Sound)
    (found : db.tables.get? migration.table = some table)
    (legible : migration.Legible db) :
    ∀ cell ∈ migration.pending db, migration.Decodes table cell := by
  intro cell pending
  obtain ⟨row, member, number, blob⟩ := (mem_pending_iff sound found).mp pending
  obtain ⟨value, encoded⟩ := legible table found row member cell.2 blob
  exact ⟨row, member, number, blob, _, (decode_eq_ok_iff known).mpr ⟨value, encoded, rfl⟩⟩

/-- To recode what is pending is to recode the table. -/
theorem recodeNumbers_pending
    (sound : db.Sound)
    (found : db.tables.get? migration.table = some table) :
    migration.recodeNumbers table ((migration.pending db).map Prod.fst) =
      migration.recodeTable table := by
  rw [recodeNumbers, recodeTable]
  congr 1
  apply List.map_congr_left
  intro row member
  split
  · rfl
  · rename_i notPending
    refine (recodeRow_of_not_blob (fun bytes blob => notPending ?_)).symm
    exact List.mem_map.mpr ⟨(row.number, bytes),
      (mem_pending_iff sound found).mpr ⟨row, member, rfl, blob⟩, rfl⟩

end Columns

/-! ## Recoding everything -/

/-- No two rows have to differ in the column, once the index is dropped that it stands in. -/
def Unconstrained (migration : Migration) (db : Database) : Prop :=
  ∀ table, db.tables.get? migration.table = some table →
    ∀ columns ∈ (migration.dropped db).uniqueSets migration.table table,
      migration.column ∉ columns

instance (migration : Migration) (db : Database) : Decidable (migration.Unconstrained db) :=
  inferInstanceAs (Decidable (∀ table ∈ db.tables.get? migration.table,
    ∀ columns ∈ (migration.dropped db).uniqueSets migration.table table,
      migration.column ∉ columns))

/-- The rows of one table are recoded, and an index is dropped. -/
structure Recodes (migration : Migration) (before after : Database) : Prop where
  table : after.tables.get? migration.table =
    (before.tables.get? migration.table).map migration.recodeTable
  others : ∀ name, name ≠ migration.table →
    after.tables.get? name = before.tables.get? name
  indices : after.indices = (migration.dropped before).indices

/-- Dropping an index leaves the tables. -/
theorem dropped_tables (migration : Migration) (db : Database) :
    (migration.dropped db).tables = db.tables := by
  rw [dropped]
  split <;> rfl

/-- An index that is left was there before. -/
theorem dropped_indices
    {migration : Migration}
    {db : Database}
    {key : String}
    {index : Index}
    (found : (migration.dropped db).indices.get? key = some index) :
    db.indices.get? key = some index := by
  rw [dropped] at found
  split at found
  · exact Dict.get?_of_get?_erase found
  · exact found

/-- A database stays sound without an index. -/
theorem dropped_sound {db : Database} (sound : db.Sound) (migration : Migration) :
    (migration.dropped db).Sound := by
  rw [dropped]
  split
  · exact sound.dropIndex _
  · exact sound

section Everything

variable {migration : Migration} {db : Database}
  (known : migration ∈ migrations)
  (sound : db.Sound)
  (unconstrained : migration.Unconstrained db)

/-- All cells are recoded one after another, and counted. -/
theorem recodeAll_bind (migration : Migration) (db : Database) :
    migration.recodeAll db =
      (migration.pending db).foldlM migration.recodeCell (migration.dropped db) >>=
        fun recoded => .ok (recoded, (migration.pending db).length) := by
  rw [← pending_dropped]
  rfl

include known sound unconstrained

/-- A legible column is recoded. -/
theorem recodeAll_eq (legible : migration.Legible db) :
    ∃ after, migration.recodeAll db = .ok (after, (migration.pending db).length) ∧
      migration.Recodes db after := by
  have tables := dropped_tables migration db
  have droppedSound := dropped_sound sound migration
  rw [recodeAll_bind]
  cases found : db.tables.get? migration.table with
  | none =>
      have nothing : migration.pending db = [] := by
        rw [pending, found]
      rw [nothing]
      refine ⟨migration.dropped db, rfl, ?_, fun name _ => by rw [tables], rfl⟩
      rw [tables, found]
      rfl
  | some table =>
      have folded := foldlM_recodeCell_eq known droppedSound (tables ▸ found)
        (unconstrained table found) (pending_nodup sound)
        (legible.decodes known sound found)
      rw [folded, recodeNumbers_pending sound found]
      refine ⟨_, rfl, ?_, ?_, rfl⟩
      · simp [Database.setTable, found]
      · intro name unlike
        simp [Database.setTable, Ne.symm unlike, tables]

/-- The first cell that the decoder does not know fails the migration. -/
theorem recodeAll_fails (illegible : ¬ migration.Legible db) :
    ∃ cell ∈ migration.pending db, ∃ problem,
      migration.decode cell.1 cell.2 = .error problem ∧
        migration.recodeAll db = .error problem := by
  have someTable : ∃ table, db.tables.get? migration.table = some table := by
    by_contra none
    exact illegible (fun table found => absurd ⟨table, found⟩ none)
  obtain ⟨table, found⟩ := someTable
  cases search : (migration.pending db).find? (fun cell =>
      !(migration.decode cell.1 cell.2).isOk) with
  | none =>
      refine absurd ?_ illegible
      intro other otherFound row member bytes blob
      rw [found, Option.some.injEq] at otherFound
      subst otherFound
      have ok := List.find?_eq_none.mp search (row.number, bytes)
        ((mem_pending_iff sound found).mpr ⟨row, member, rfl, blob⟩)
      cases decoded : migration.decode row.number bytes with
      | ok json =>
          obtain ⟨value, encoded, _⟩ := (decode_eq_ok_iff known).mp decoded
          exact ⟨value, encoded⟩
      | error problem => simp [decoded, Except.isOk, Except.toBool] at ok
  | some cell =>
      -- What stands before the first unknown cell is recoded, and then the decoder fails.
      obtain ⟨failing, before, after, pending_eq, beforeOk⟩ :=
        List.find?_eq_some_iff_append.mp search
      have member : cell ∈ migration.pending db := List.mem_of_find?_eq_some search
      have distinct : (before.map Prod.fst).Nodup := by
        have all := @pending_nodup migration db sound
        rw [pending_eq, List.map_append] at all
        exact (List.nodup_append.mp all).1
      have decodes : ∀ other ∈ before, migration.Decodes table other := by
        intro other otherMember
        obtain ⟨row, rowMember, number, blob⟩ := (mem_pending_iff sound found).mp
          (pending_eq ▸ List.mem_append_left _ otherMember)
        cases decoded : migration.decode other.1 other.2 with
        | ok json => exact ⟨row, rowMember, number, blob, json, decoded⟩
        | error problem =>
            have ok := beforeOk other otherMember
            simp [decoded, Except.isOk, Except.toBool] at ok
      have folded := foldlM_recodeCell_eq known (dropped_sound sound migration)
        ((dropped_tables migration db).symm ▸ found) (unconstrained table found) distinct
        decodes
      cases decoded : migration.decode cell.1 cell.2 with
      | ok json => simp [decoded, Except.isOk, Except.toBool] at failing
      | error problem =>
          refine ⟨cell, member, problem, decoded, ?_⟩
          rw [recodeAll_bind, pending_eq, List.foldlM_append, folded]
          show List.foldlM migration.recodeCell _ (cell :: after) >>= _ = _
          rw [List.foldlM_cons, recodeCell, decoded]
          rfl

end Everything

end Migration

namespace Migration

/-! ## The step of a migration -/

/-- The rows of one table are recoded, an index is dropped and the version is recorded. -/
structure Applies (migration : Migration) (now : Timestamp) (before after : Database) :
    Prop where
  table : after.tables.get? migration.table =
    (before.tables.get? migration.table).map migration.recodeTable
  others : ∀ name, name ≠ migration.table → name ≠ Schema.versionsName →
    after.tables.get? name = before.tables.get? name
  versions : ∀ table, before.tables.get? Schema.versionsName = some table →
    after.tables.get? Schema.versionsName =
      some { table with rows := table.rows ++ [versionRow now migration] }
  indices : after.indices = (migration.dropped before).indices

section Step

variable {migration : Migration} {db : Database} {now : Timestamp}

/-- A migration of a legible column is applied and recorded. -/
theorem step_eq
    (known : migration ∈ migrations)
    (sound : db.Sound)
    (unconstrained : migration.Unconstrained db)
    (inOrder : VersionsInOrder db)
    {table : Table}
    (found : db.tables.get? Schema.versionsName = some table)
    (later : ∀ row ∈ table.rows, row.number < migration.version)
    (legible : migration.Legible db) :
    ∃ after, migration.step now db = .ok (after,
        [.appliedMigration migration.version migration.description
          (migration.pending db).length]) ∧
      migration.Applies now db after := by
  obtain ⟨recoded, recodes, effect⟩ := recodeAll_eq known sound unconstrained legible
  have elsewhere : Schema.versionsName ≠ migration.table :=
    Ne.symm (migration_elsewhere migration known)
  have recodedFound : recoded.tables.get? Schema.versionsName = some table := by
    rw [effect.others _ elsewhere, found]
  have recodedInOrder : VersionsInOrder recoded := by
    refine inOrder.of_same (effect.others _ elsewhere) (fun key index has => ?_)
    rw [effect.indices] at has
    exact dropped_indices has
  have inserted := recodedInOrder.insert_version recodedFound now later
  refine ⟨recoded.setTable Schema.versionsName
    { table with rows := table.rows ++ [versionRow now migration] }, ?_, ?_, ?_, ?_,
    effect.indices⟩
  · rw [step, recodes]
    simp only [bind, Except.bind, inserted]
  · simp [Database.setTable, elsewhere, effect.table]
  · intro name unlike notVersions
    simp [Database.setTable, Ne.symm notVersions, effect.others name unlike]
  · intro other otherFound
    rw [found, Option.some.injEq] at otherFound
    simp [Database.setTable, otherFound]

/-- A migration of a column that is not legible fails, on a cell that is not known. -/
theorem step_fails
    (known : migration ∈ migrations)
    (sound : db.Sound)
    (unconstrained : migration.Unconstrained db)
    (illegible : ¬ migration.Legible db) :
    ∃ cell ∈ migration.pending db, ∃ problem,
      migration.decode cell.1 cell.2 = .error problem ∧
        migration.step now db = .error problem := by
  obtain ⟨cell, member, problem, decoded, fails⟩ :=
    recodeAll_fails known sound unconstrained illegible
  refine ⟨cell, member, problem, decoded, ?_⟩
  rw [step, fails]
  rfl

/-- A migration leaves the database sound. -/
theorem step_sound
    {after : Database}
    {notices : List Notice}
    (taken : migration.step now db = .ok (after, notices))
    (sound : db.Sound) :
    after.Sound := by
  obtain ⟨⟨recoded, count⟩, recodes, rest⟩ := Except.bind_eq_ok_iff.mp taken
  obtain ⟨recorded, inserted, same⟩ := Except.bind_eq_ok_iff.mp rest
  cases same
  rw [recodeAll_bind] at recodes
  obtain ⟨last, folded, same⟩ := Except.bind_eq_ok_iff.mp recodes
  cases same
  refine Database.Sound.insert (Database.Sound.foldlM ?_ folded
    (dropped_sound sound migration)) inserted
  intro db cell after recoded soundBefore
  obtain ⟨json, _, updated⟩ := Except.bind_eq_ok_iff.mp recoded
  exact soundBefore.updateRow updated

end Step

end Migration

end TenantStore.TableEngine
