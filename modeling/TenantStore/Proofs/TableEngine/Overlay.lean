import Mathlib.Data.List.Infix
import TenantStore.Proofs.TableEngine.AccountContents

namespace TenantStore.TableEngine

/-!
# Records put over others

Records that are put into contents take the places of old records of equal
identifiers, and the rest of them follow behind: `foldl_putRecord_eq`. What an
owner has afterwards are the new records in their own order if all old records
of the owner were replaced, and if those that took a place come first:
`keys_ownedIn_overlay_iff`.
-/

section Records

variable {kind : Kind} {old new : List (Record kind)}

/-- The record that takes the place of an old one, which may be the old one itself. -/
def renewed (new : List (Record kind)) (old : Record kind) : Record kind :=
  (new.find? (fun record => record.key = old.key)).getD old

/-- The records whose identifiers are new. -/
def unseen (old new : List (Record kind)) : List (Record kind) :=
  new.filter (fun record => record.key ∉ old.map Record.key)

@[simp] theorem renewed_key (new : List (Record kind)) (record : Record kind) :
    (renewed new record).key = record.key := by
  rw [renewed]
  cases found : new.find? (fun other => other.key = record.key) with
  | none => rfl
  | some other => simpa using List.find?_some found

theorem renewed_mem {record : Record kind} (known : record.key ∈ new.map Record.key) :
    renewed new record ∈ new := by
  obtain ⟨other, member, same⟩ := List.mem_map.mp known
  rw [renewed]
  cases found : new.find? (fun other => other.key = record.key) with
  | none => exact absurd (decide_eq_true same) (List.find?_eq_none.mp found other member)
  | some first => exact List.mem_of_find?_eq_some found

theorem renewed_self {record : Record kind} (unknown : record.key ∉ new.map Record.key) :
    renewed new record = record := by
  have none : new.find? (fun other => other.key = record.key) = none := by
    rw [List.find?_eq_none]
    intro other member same
    exact unknown (List.mem_map.mpr ⟨other, member, of_decide_eq_true same⟩)
  rw [renewed, none]
  rfl

/-- The first new record of its identifier takes the place of an old one. -/
theorem renewed_cons (record : Record kind) (rest : List (Record kind)) (old : Record kind) :
    renewed (record :: rest) old =
      if old.key = record.key then record else renewed rest old := by
  rw [renewed, renewed, List.find?_cons]
  by_cases same : old.key = record.key
  · simp [same]
  · have unlike : record.key ≠ old.key := fun equal => same equal.symm
    simp [same, unlike]

/-- Putting records one by one renews old ones and adds those that are unseen. -/
theorem foldl_putRecord_eq (distinct : (new.map Record.key).Nodup) :
    new.foldl (fun records record => putRecord record records) old =
      old.map (renewed new) ++ unseen old new := by
  induction new generalizing old with
  | nil =>
      have kept : old.map (renewed []) = old :=
        Eq.trans (List.map_congr_left (fun _ _ => renewed_self List.not_mem_nil))
          (List.map_id old)
      rw [List.foldl_nil, kept, unseen, List.filter_nil, List.append_nil]
  | cons record rest inductionHypothesis =>
      obtain ⟨recordApart, restDistinct⟩ := List.nodup_cons.mp distinct
      have last : renewed rest record = record := renewed_self recordApart
      rw [List.foldl_cons, inductionHypothesis restDistinct]
      by_cases known : record.key ∈ old.map Record.key
      · have unseen_eq : unseen old (record :: rest) = unseen (putRecord record old) rest := by
          rw [unseen, unseen, keys_putRecord, if_pos known,
            List.filter_cons_of_neg (by simpa using known)]
        rw [unseen_eq, putRecord_of_mem known, List.map_map]
        congr 1
        apply List.map_congr_left
        intro other _
        rw [Function.comp, renewed_cons]
        split
        · exact last
        · rfl
      · have kept : ∀ other ∈ old, renewed (record :: rest) other = renewed rest other := by
          intro other member
          rw [renewed_cons, if_neg]
          exact fun same => known (List.mem_map.mpr ⟨other, member, same⟩)
        have unseen_eq : unseen old (record :: rest) =
            record :: unseen (old ++ [record]) rest := by
          rw [unseen, List.filter_cons_of_pos (by simpa using known), unseen]
          congr 1
          apply List.filter_congr
          intro other member
          have apart : other.key ≠ record.key :=
            fun same => recordApart (List.mem_map.mpr ⟨other, member, same⟩)
          simp [apart]
        rw [putRecord_of_not_mem known, unseen_eq, List.map_append, List.map_congr_left kept,
          List.map_singleton, last, List.append_assoc]
        rfl

/-- After records were put, those are there and the old ones of other identifiers. -/
theorem mem_overlay_iff (distinct : (new.map Record.key).Nodup) {record : Record kind} :
    record ∈ old.map (renewed new) ++ unseen old new ↔
      record ∈ new ∨ record ∈ old ∧ record.key ∉ new.map Record.key := by
  rw [List.mem_append, List.mem_map, unseen, List.mem_filter]
  constructor
  · rintro (⟨other, member, rfl⟩ | ⟨member, _⟩)
    · by_cases known : other.key ∈ new.map Record.key
      · exact .inl (renewed_mem known)
      · rw [renewed_self known]
        exact .inr ⟨member, known⟩
    · exact .inl member
  · rintro (member | ⟨member, unknown⟩)
    · by_cases known : record.key ∈ old.map Record.key
      · obtain ⟨other, otherMember, same⟩ := List.mem_map.mp known
        have here : other.key ∈ new.map Record.key :=
          same ▸ List.mem_map_of_mem member
        refine .inl ⟨other, otherMember, ?_⟩
        exact List.inj_on_of_nodup_map distinct (renewed_mem here) member
          ((renewed_key new other).trans same)
      · exact .inr ⟨member, by simpa using known⟩
    · exact .inl ⟨record, member, renewed_self unknown⟩

end Records

/-! ## Order -/

/-- Known items in old order and then unknown ones are all items in their own order. -/
theorem filter_append_filter_eq_iff
    {old new : List String}
    (distinct : new.Nodup) :
    old.filter (· ∈ new) ++ new.filter (· ∉ old) = new ↔
      old.filter (· ∈ new) <+: new := by
  constructor
  · intro same
    exact ⟨_, same⟩
  · rintro ⟨rest, same⟩
    have apart : ∀ item ∈ rest, item ∉ old := by
      intro item member known
      have both : item ∈ new := same ▸ List.mem_append_right _ member
      rw [← same] at distinct
      exact (List.nodup_append.mp distinct).2.2 item
        (List.mem_filter.mpr ⟨known, decide_eq_true both⟩) item member rfl
    have first : (old.filter (· ∈ new)).filter (· ∉ old) = [] := by
      rw [List.filter_eq_nil_iff]
      intro item member
      simpa using List.mem_of_mem_filter member
    have last : rest.filter (· ∉ old) = rest :=
      List.filter_eq_self.mpr (fun item member => decide_eq_true (apart item member))
    have others : new.filter (· ∉ old) = rest := by
      calc new.filter (· ∉ old)
          = (old.filter (· ∈ new) ++ rest).filter (· ∉ old) := by rw [same]
        _ = rest := by rw [List.filter_append, first, last, List.nil_append]
    rw [others, same]

/-- Items with distinct names are the same if their names are. -/
theorem eq_of_map_eq
    {name : α → String}
    {all left right : List α}
    (distinct : (all.map name).Nodup)
    (leftKnown : ∀ item ∈ left, item ∈ all)
    (rightKnown : ∀ item ∈ right, item ∈ all)
    (same : left.map name = right.map name) :
    left = right := by
  induction left generalizing right with
  | nil => exact (List.map_eq_nil_iff.mp same.symm).symm
  | cons item rest inductionHypothesis =>
      obtain ⟨other, others, rfl, sameName, sameNames⟩ := List.map_eq_cons_iff.mp same.symm
      have sameItem := List.inj_on_of_nodup_map distinct
        (rightKnown other List.mem_cons_self) (leftKnown item List.mem_cons_self) sameName
      have sameRest := inductionHypothesis
        (fun later member => leftKnown later (List.mem_cons_of_mem _ member))
        (fun later member => rightKnown later (List.mem_cons_of_mem _ member))
        sameNames.symm
      rw [sameItem, sameRest]

/-! ## Records of one owner -/

section Owned

variable {kind : Kind} {old new : List (Record kind)}

/-- The records of an owner. -/
def ownedIn (records : List (Record kind)) (owner : String) : List (Record kind) :=
  records.filter (fun record => record.owner = owner)

/-- Old records of an owner are all replaced. -/
def AllReplaced (old new : List (Record kind)) (owner : String) : Prop :=
  ∀ record ∈ old, record.owner = owner → record.key ∈ new.map Record.key

/-- What an owner has of records that were put, by their identifiers. -/
theorem keys_ownedIn_overlay
    (distinct : (new.map Record.key).Nodup)
    {owner : String}
    (replaced : AllReplaced old new owner) :
    (ownedIn (old.map (renewed new) ++ unseen old new) owner).map Record.key =
      (old.map Record.key).filter (· ∈ (ownedIn new owner).map Record.key)
        ++ ((ownedIn new owner).map Record.key).filter (· ∉ old.map Record.key) := by
  have here_iff : ∀ record ∈ old,
      decide ((renewed new record).owner = owner) =
        decide (record.key ∈ (ownedIn new owner).map Record.key) := by
    intro record member
    rw [decide_eq_decide]
    constructor
    · intro same
      have known : record.key ∈ new.map Record.key := by
        by_contra unknown
        rw [renewed_self unknown] at same
        exact unknown (replaced record member same)
      exact List.mem_map.mpr ⟨renewed new record,
        List.mem_filter.mpr ⟨renewed_mem known, decide_eq_true same⟩, renewed_key new record⟩
    · intro known
      obtain ⟨other, otherMember, same⟩ := List.mem_map.mp known
      obtain ⟨otherNew, otherOwned⟩ := List.mem_filter.mp otherMember
      have here : renewed new record ∈ new :=
        renewed_mem (List.mem_map.mpr ⟨other, otherNew, same⟩)
      have isOther := List.inj_on_of_nodup_map distinct here otherNew
        ((renewed_key new record).trans same.symm)
      rw [isOther]
      exact of_decide_eq_true otherOwned
  have firsts : ((old.map (renewed new)).filter (fun record => record.owner = owner)).map
      Record.key =
        (old.map Record.key).filter (· ∈ (ownedIn new owner).map Record.key) := by
    rw [List.filter_map, List.map_map, List.filter_map]
    have keys : ∀ record ∈ old.filter ((fun record : Record kind =>
        decide (record.owner = owner)) ∘ renewed new),
          (Record.key ∘ renewed new) record = record.key :=
      fun record _ => renewed_key new record
    rw [List.map_congr_left keys]
    congr 1
    exact List.filter_congr here_iff
  have lasts : ((unseen old new).filter (fun record => record.owner = owner)).map
      Record.key =
        ((ownedIn new owner).map Record.key).filter (· ∉ old.map Record.key) := by
    rw [unseen, List.filter_filter, ownedIn, List.filter_map, List.filter_filter]
    congr 1
    apply List.filter_congr
    intro record _
    exact Bool.and_comm _ _
  rw [ownedIn, List.filter_append, List.map_append, firsts, lasts]

/-- An owner has the identifiers of the new records, in order, under two conditions. -/
theorem keys_ownedIn_overlay_iff
    (distinct : (new.map Record.key).Nodup)
    {owner : String} :
    (ownedIn (old.map (renewed new) ++ unseen old new) owner).map Record.key =
        (ownedIn new owner).map Record.key ↔
      AllReplaced old new owner ∧
        (old.map Record.key).filter (· ∈ (ownedIn new owner).map Record.key) <+:
          (ownedIn new owner).map Record.key := by
  have keysDistinct : ((ownedIn new owner).map Record.key).Nodup :=
    (List.filter_sublist.map Record.key).nodup distinct
  constructor
  · intro same
    have replaced : AllReplaced old new owner := by
      intro record member owned
      by_contra unknown
      have kept : record ∈ ownedIn (old.map (renewed new) ++ unseen old new) owner :=
        List.mem_filter.mpr ⟨(mem_overlay_iff distinct).mpr (.inr ⟨member, unknown⟩),
          decide_eq_true owned⟩
      have known : record.key ∈ (ownedIn new owner).map Record.key :=
        same ▸ List.mem_map_of_mem kept
      exact unknown ((List.filter_sublist.map Record.key).subset known)
    rw [keys_ownedIn_overlay distinct replaced] at same
    exact ⟨replaced, (filter_append_filter_eq_iff keysDistinct).mp same⟩
  · rintro ⟨replaced, inOrder⟩
    rw [keys_ownedIn_overlay distinct replaced]
    exact (filter_append_filter_eq_iff keysDistinct).mpr inOrder

/-- If they are the identifiers of the new records, they are those of nothing else. -/
theorem ownedIn_overlay_eq
    (distinct : (new.map Record.key).Nodup)
    {owner : String}
    (same : (ownedIn (old.map (renewed new) ++ unseen old new) owner).map Record.key =
      (ownedIn new owner).map Record.key) :
    ownedIn (old.map (renewed new) ++ unseen old new) owner = ownedIn new owner := by
  have replaced := ((keys_ownedIn_overlay_iff distinct).mp same).1
  have members : ∀ record ∈ ownedIn (old.map (renewed new) ++ unseen old new) owner,
      record ∈ new := by
    intro record member
    obtain ⟨overlaid, owned⟩ := List.mem_filter.mp member
    rcases (mem_overlay_iff distinct).mp overlaid with here | ⟨before, unknown⟩
    · exact here
    · exact absurd (replaced record before (of_decide_eq_true owned)) unknown
  exact eq_of_map_eq distinct members (fun _ => List.mem_of_mem_filter) same

end Owned

end TenantStore.TableEngine
