import TenantStore.Proofs.Json.Records

namespace TenantStore.Json

/-!
# Records with some of their fields

A document may lack fields that were added to its type later. What is left out
of a record is read as its default, and what is left in as what it is
(`exists_fields_pick`), whichever fields these are.
-/

/-- The fields that a choice keeps, with what it keeps of each. -/
def pickFields (choose : String → Json → Option Json) (fields : List (String × Json)) :
    List (String × Json) :=
  fields.filterMap (fun field => (choose field.1 field.2).map (fun kept => (field.1, kept)))

/-- A document of which a choice keeps some members; what is no object is kept as it is. -/
def pick (choose : String → Json → Option Json) : Json → Json
  | .object members =>
      .object (members.filterMap (fun member =>
        member.1.bind (fun name => (choose name member.2).map (fun kept => (some name, kept)))))
  | json => json

/-- A document, unless it is a record without fields. -/
def unlessEmpty : Json → Option Json
  | .object [] => none
  | json => some json

variable {choose : String → Json → Option Json}

/-- The first field is kept or not, and the others likewise. -/
theorem pickFields_cons (field : String × Json) (others : List (String × Json)) :
    pickFields choose (field :: others) =
      match choose field.1 field.2 with
      | some kept => (field.1, kept) :: pickFields choose others
      | none => pickFields choose others := by
  rw [pickFields, List.filterMap_cons]
  cases choose field.1 field.2 <;> rfl

/-- Some members of a record are the record of some fields. -/
theorem pick_record (fields : List (String × Json)) :
    (record fields).pick choose = record (pickFields choose fields) := by
  rw [record, record, pick, pickFields, List.filterMap_map, List.map_filterMap]
  congr 2
  funext field
  simp [Function.comp_def]

/-- What is kept has the names that were there, in their order. -/
theorem names_pickFields (fields : List (String × Json)) :
    ((pickFields choose fields).map Prod.fst).Sublist (fields.map Prod.fst) := by
  induction fields with
  | nil => exact .slnil
  | cons field others inductionHypothesis =>
      rw [pickFields_cons]
      cases choose field.1 field.2 with
      | none => exact inductionHypothesis.cons field.1
      | some kept => exact inductionHypothesis.cons_cons field.1

/-- A field is there if it was and the choice keeps it. -/
theorem lookup_pickFields
    {fields : List (String × Json)}
    (distinct : (fields.map Prod.fst).Pairwise (· ≠ ·))
    (name : String) :
    (pickFields choose fields).lookup name = (fields.lookup name).bind (choose name) := by
  induction fields with
  | nil => rfl
  | cons field others inductionHypothesis =>
      obtain ⟨elsewhere, othersDistinct⟩ := List.pairwise_cons.mp distinct
      have rest := inductionHypothesis othersDistinct
      obtain ⟨other, json⟩ := field
      rw [pickFields_cons]
      by_cases here : name = other
      · subst here
        have gone : others.lookup name = none := by
          rw [List.lookup_eq_none_iff]
          intro entry member
          rw [bne_iff_ne]
          exact elsewhere entry.1 (List.mem_map_of_mem member)
        rw [List.lookup_cons_self, Option.bind_some]
        cases choose name json with
        | none => exact rest.trans (by rw [gone]; rfl)
        | some kept => exact List.lookup_cons_self
      · rw [lookup_of_ne here, ← rest]
        cases choose other json with
        | none => rfl
        | some kept => exact lookup_of_ne here kept _

/-- A record with some of its fields is read field by field: what is kept of a field counts, and
the default stands for what is left out. -/
theorem exists_fields_pick
    {names : List String}
    {json : Json}
    {fields : List (String × Json)}
    (written : json = record fields)
    (known : fields.map Prod.fst = names)
    (distinct : names.Pairwise (· ≠ ·)) :
    ∃ picked : Fields, (json.pick choose).fields? names = some picked ∧
      ∀ {α : Type} (name : String) (read : Json → Option α) (default : α),
        picked.get name read default =
          ((fields.lookup name).bind (choose name)).elim (some default) read := by
  have within : ((pickFields choose fields).map Prod.fst).Sublist names :=
    known ▸ names_pickFields fields
  have all : (pickFields choose fields).filter (fun entry => names.contains entry.1) =
      pickFields choose fields := by
    rw [List.filter_eq_self]
    intro entry member
    rw [List.contains_iff_mem]
    exact within.subset (List.mem_map_of_mem member)
  have keysApart : keysDistinct (pickFields choose fields) = true :=
    keysDistinct_iff.mpr (distinct.sublist within)
  refine ⟨⟨pickFields choose fields⟩, ?_, ?_⟩
  · rw [written, pick_record]
    simp only [record, fields?, namedMembers?_map, Option.bind_eq_bind, Option.bind_some, all,
      keysApart, if_true]
  · intro α name read default
    rw [Fields.get, lookup_pickFields (known ▸ distinct)]
    cases (fields.lookup name).bind (choose name) <;> rfl

/-- A field that is kept under a condition has its default otherwise. -/
theorem elim_ite
    {condition : Prop}
    [Decidable condition]
    (json : Json)
    (default : Option α)
    (read : Json → Option α) :
    (if condition then some json else none).elim default read =
      if condition then read json else default := by
  split <;> rfl

/-- Nothing left of a record is as good as an empty one, if that is read as the default. -/
theorem elim_unlessEmpty
    {read : Json → Option α}
    {default : α}
    (empty : read (.object []) = some default)
    (part : Json) :
    part.unlessEmpty.elim (some default) read = read part := by
  unfold unlessEmpty
  split
  · exact empty.symm
  · rfl

end TenantStore.Json
