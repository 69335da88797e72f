import TenantStore.Proofs.Json.Layouts

namespace TenantStore.Json

/-!
# Compact documents read back

A document whose literals spell texts and whose numbers are integers is read
back from its compact text. Every document that the library writes is of this
kind.
-/

/-! ## Plain documents -/

mutual

/-- Every literal spells a text, and every number is an integer. -/
def IsPlain : Json → Prop
  | .null => True
  | .bool _ => True
  | .number (.integer _) => True
  | .number (.decimal _) => False
  | .string text => text.isSome = true
  | .array items => ArePlain items
  | .object members => HavePlain members

/-- Every item is plain. -/
def ArePlain : List Json → Prop
  | [] => True
  | item :: rest => IsPlain item ∧ ArePlain rest

/-- Every key spells a text, and every value is plain. -/
def HavePlain : List (Option String × Json) → Prop
  | [] => True
  | (key, value) :: rest => key.isSome = true ∧ IsPlain value ∧ HavePlain rest

end

@[simp] theorem isPlain_text (value : String) : IsPlain (.text value) := by
  simp [text, IsPlain]

@[simp] theorem isPlain_bool (value : Bool) : IsPlain (.bool value) := by
  simp [IsPlain]

@[simp] theorem isPlain_null : IsPlain .null := by
  simp [IsPlain]

@[simp] theorem isPlain_int (value : Int) : IsPlain (.int value) := by
  simp [int, IsPlain]

@[simp] theorem isPlain_nat (value : Nat) : IsPlain (.nat value) := by
  simp [nat, IsPlain]

/-- Items are plain if each of them is. -/
theorem arePlain_iff {items : List Json} :
    ArePlain items ↔ ∀ item ∈ items, IsPlain item := by
  induction items with
  | nil => simp [ArePlain]
  | cons head tail inductionHypothesis => simp [ArePlain, inductionHypothesis]

@[simp] theorem isPlain_array {items : List Json} :
    IsPlain (.array items) ↔ ∀ item ∈ items, IsPlain item := by
  rw [IsPlain, arePlain_iff]

/-- A record of plain fields is plain. -/
@[simp] theorem isPlain_record {members : List (String × Json)} :
    IsPlain (.record members) ↔ ∀ entry ∈ members, IsPlain entry.2 := by
  rw [record, IsPlain]
  induction members with
  | nil => simp [HavePlain]
  | cons head tail inductionHypothesis =>
      simp [HavePlain, inductionHypothesis]

/-- A list of texts is plain. -/
@[simp] theorem isPlain_texts (values : List String) : IsPlain (.texts values) := by
  simp [texts]

/-! ## Reading -/

mutual

/-- A plain document is read back from its compact characters. -/
theorem reads_compact : (json : Json) → json.IsPlain → Reads json (compact json)
  | .null, _ => reads_null
  | .bool true, _ => reads_true
  | .bool false, _ => reads_false
  | .number (.integer value), _ => reads_int value
  | .number (.decimal _), plain => plain.elim
  | .string (some text), _ => reads_text text
  | .string none, plain => by cases plain
  | .array items, plain => by
      rcases readsItems_compact items plain with rfl | readsAll
      · exact reads_array_nil
      · exact readsAll.array
  | .object members, plain => by
      rcases readsMembers_compact members plain with rfl | readsAll
      · exact reads_object_nil
      · exact readsAll.object

/-- Items are read back from between their commas. -/
theorem readsItems_compact :
    (items : List Json) → ArePlain items →
      items = [] ∨
        ReadsItems items (joinWith [','] (compactItems items) ++ [']'])
  | [], _ => .inl rfl
  | item :: rest, plain => by
      right
      have first := reads_compact item plain.1
      cases rest with
      | nil => exact readsItems_last first blank_nil blank_nil
      | cons next others =>
          rcases readsItems_compact (next :: others) plain.2 with none | readsRest
          · cases none
          · simpa [compactItems, joinWith] using
              readsItems_cons first blank_nil readsRest

/-- Members are read back from between their commas. -/
theorem readsMembers_compact :
    (members : List (Option String × Json)) → HavePlain members →
      members = [] ∨
        ReadsMembers members
          (joinWith [','] (compactMembers members) ++ ['\x7d'])
  | [], _ => .inl rfl
  | (none, _) :: _, plain => by cases plain.1
  | (some key, value) :: rest, plain => by
      right
      have first := reads_compact value plain.2.1
      cases rest with
      | nil => exact readsMembers_last first blank_nil blank_nil blank_nil key
      | cons next others =>
          rcases readsMembers_compact (next :: others) plain.2.2 with
            none | readsRest
          · cases none
          · simpa [compactMembers, joinWith, memberChars] using
              readsMembers_cons first blank_nil blank_nil readsRest key

end

/-- A plain document is read back from its compact text. -/
theorem ofText?_compactText {json : Json} (plain : json.IsPlain) :
    ofText? json.compactText = some json := by
  rw [ofText?, compactText, String.toList_ofList]
  exact (reads_compact json plain).parse

/-- A document is written with at least one character. -/
theorem compactText_ne_empty {json : Json} (plain : json.IsPlain) :
    json.compactText.isEmpty = false := by
  have positive := (reads_compact json plain).length_pos
  rw [compactText, String.isEmpty_eq_false_iff]
  intro empty
  rw [← String.toList_inj, String.toList_ofList] at empty
  rw [empty] at positive
  simp at positive

end TenantStore.Json
