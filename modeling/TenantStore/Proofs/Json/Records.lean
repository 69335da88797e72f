import TenantStore.Json.Fields

namespace TenantStore.Json

/-!
# Types read back from documents

A record that was written with the fields of its declaration gives each field
what was written for it, and plain values are read back as they were written.
-/

/-! ## Fields -/

/-- Every member of a record has a name. -/
theorem namedMembers?_map (members : List (String × Json)) :
    namedMembers? (members.map (fun entry => (some entry.1, entry.2))) =
      some members := by
  induction members with
  | nil => rfl
  | cons head tail inductionHypothesis =>
      simp [namedMembers?, inductionHypothesis]

/-- The test for keys that stand twice, as a property of the keys. -/
theorem keysDistinct_iff {members : List (String × Json)} :
    keysDistinct members = true ↔ (members.map Prod.fst).Pairwise (· ≠ ·) := by
  induction members with
  | nil => simp [keysDistinct]
  | cons head tail inductionHypothesis =>
      obtain ⟨name, json⟩ := head
      simp only [keysDistinct, Bool.and_eq_true, inductionHypothesis, List.map_cons,
        List.pairwise_cons, List.all_eq_true, List.mem_map, bne_iff_ne,
        forall_exists_index, and_imp, forall_apply_eq_imp_iff₂]
      exact and_congr_left' (forall₂_congr fun _ _ => ne_comm)

/-- A record gives the fields that it was written with. -/
theorem fields?_record
    {names : List String}
    {members : List (String × Json)}
    (known : members.map Prod.fst = names)
    (distinct : names.Pairwise (· ≠ ·)) :
    (record members).fields? names = some ⟨members⟩ := by
  have all : members.filter (fun entry => names.contains entry.1) = members := by
    rw [List.filter_eq_self]
    intro entry member
    rw [List.contains_iff_mem, ← known]
    exact List.mem_map_of_mem member
  have keysApart : keysDistinct members = true :=
    keysDistinct_iff.mpr (known ▸ distinct)
  simp only [record, fields?, namedMembers?_map, Option.bind_eq_bind,
    Option.bind_some, all, keysApart, if_true]

/-- A field of another name is passed over. -/
theorem lookup_of_ne
    {name other : String}
    (apart : name ≠ other)
    (json : Json)
    (rest : List (String × Json)) :
    List.lookup name ((other, json) :: rest) = List.lookup name rest := by
  rw [List.lookup_cons, beq_false_of_ne apart]

/-- A reading goes on with what its first part found. As a rewriting rule (`↓`) it settles the
first part of a long reading before it looks at what follows, so a record of many fields is
read in as many steps. -/
theorem bind_eq_match (found : Option α) (next : α → Option β) :
    found >>= next = match found with
      | none => none
      | some value => next value := by
  cases found <;> rfl

/-! ## Plain values -/

@[simp] theorem text?_text (value : String) : text? (.text value) = some value :=
  rfl

@[simp] theorem bool?_bool (value : Bool) : bool? (.bool value) = some value :=
  rfl

/-- Items are read one by one. -/
theorem readAll?_map
    {read : Json → Option α}
    {write : α → Json}
    (reads : ∀ value, read (write value) = some value)
    (values : List α) :
    readAll? read (values.map write) = some values := by
  induction values with
  | nil => rfl
  | cons head tail inductionHypothesis =>
      simp [readAll?, reads, inductionHypothesis]

/-- A list is read back if its items are. -/
@[simp] theorem list?_array
    {read : Json → Option α}
    {write : α → Json}
    (reads : ∀ value, read (write value) = some value)
    (values : List α) :
    list? read (.array (values.map write)) = some values :=
  readAll?_map reads values

@[simp] theorem list?_nil (read : Json → Option α) : list? read (.array []) = some [] :=
  rfl

/-- A list of texts is read back. -/
@[simp] theorem texts?_texts (values : List String) :
    texts? (.texts values) = some values :=
  list?_array text?_text values

/-- A number below the bound is read. -/
theorem natBelow?_nat {bound value : Nat} (small : value < bound) :
    (Json.nat value).natBelow? bound = some value := by
  show (if value < bound then some value else none) = _
  rw [if_pos small]

/-- A number of 16 bits is in its range, so it is read back. -/
@[simp] theorem uint16?_nat (value : UInt16) :
    uint16? (.nat value.toNat) = some value := by
  simp [uint16?, natBelow?_nat value.toNat_lt_size]

/-- An absent value is read back, and a present one if it is not written as null. -/
@[simp] theorem option?_ofOption
    {read : Json → Option α}
    {write : α → Json}
    (reads : ∀ value, read (write value) = some value)
    (present : ∀ value, write value ≠ .null)
    (value : Option α) :
    option? read (.ofOption write value) = some value := by
  cases value with
  | none => rfl
  | some value =>
      rw [ofOption, option?]
      · rw [reads, Option.map_some]
      · exact present value

end TenantStore.Json
