import TenantStore.Proofs.Json.Compact

namespace TenantStore.Json

/-!
# Indented documents read back

What is read back from its compact text is read back from its indented text
too: the layouts differ in the blanks between the tokens alone.
-/

/-- The blanks that begin a line at some depth. -/
def lineStart (depth : Nat) : List Char :=
  '\n' :: indent depth

theorem blank_lineStart (depth : Nat) : Blank (lineStart depth) := by
  rintro char (_ | ⟨_, member⟩)
  · decide
  · rw [List.eq_of_mem_replicate member]
    decide

theorem blank_space : Blank [' '] := by
  intro char member
  rw [List.mem_singleton.mp member]
  decide

/-- A block with entries puts every one of them, and the bracket behind them, on a line. -/
theorem writeBlock_of_ne_nil
    {entries : List (List Char)}
    (some : entries ≠ [])
    (opening closing : Char)
    (depth : Nat) :
    writeBlock opening closing depth entries =
      opening :: (joinWith [','] (entries.map (fun entry => lineStart (depth + 1) ++ entry))
        ++ (lineStart depth ++ [closing])) := by
  rw [writeBlock, if_neg (by simpa using some)]
  simp [lineStart]

mutual

/-- A plain document is read back from its indented characters. -/
theorem reads_prettyAt :
    (depth : Nat) → (json : Json) → json.IsPlain → Reads json (prettyAt depth json)
  | _, .null, _ => reads_null
  | _, .bool true, _ => reads_true
  | _, .bool false, _ => reads_false
  | _, .number (.integer value), _ => reads_int value
  | _, .number (.decimal _), plain => plain.elim
  | _, .string (some text), _ => reads_text text
  | _, .string none, plain => by cases plain
  | depth, .array items, plain => by
      rcases readsItems_pretty depth items plain with rfl | ⟨nonempty, readsAll⟩
      · exact reads_array_nil
      · rw [prettyAt, writeBlock_of_ne_nil nonempty]
        exact readsAll.array
  | depth, .object members, plain => by
      rcases readsMembers_pretty depth members plain with rfl | ⟨nonempty, readsAll⟩
      · exact reads_object_nil
      · rw [prettyAt, writeBlock_of_ne_nil nonempty]
        exact readsAll.object

theorem readsItems_pretty :
    (depth : Nat) → (items : List Json) → ArePlain items →
      items = [] ∨
        prettyItems (depth + 1) items ≠ [] ∧
        ReadsItems items
          (joinWith [','] ((prettyItems (depth + 1) items).map
            (fun entry => lineStart (depth + 1) ++ entry)) ++ (lineStart depth ++ [']']))
  | _, [], _ => .inl rfl
  | depth, item :: rest, plain => by
      right
      refine ⟨nofun, ?_⟩
      have first := reads_prettyAt (depth + 1) item plain.1
      have line := blank_lineStart (depth + 1)
      cases rest with
      | nil => exact readsItems_last first line (blank_lineStart depth)
      | cons next others =>
          rcases readsItems_pretty depth (next :: others) plain.2 with none | ⟨_, readsRest⟩
          · cases none
          · simpa [prettyItems, joinWith] using readsItems_cons first line readsRest

theorem readsMembers_pretty :
    (depth : Nat) → (members : List (Option String × Json)) → HavePlain members →
      members = [] ∨
        prettyMembers (depth + 1) members ≠ [] ∧
        ReadsMembers members
          (joinWith [','] ((prettyMembers (depth + 1) members).map
            (fun entry => lineStart (depth + 1) ++ entry)) ++ (lineStart depth ++ ['\x7d']))
  | _, [], _ => .inl rfl
  | _, (none, _) :: _, plain => by cases plain.1
  | depth, (some key, value) :: rest, plain => by
      right
      refine ⟨nofun, ?_⟩
      have first := reads_prettyAt (depth + 1) value plain.2.1
      have line := blank_lineStart (depth + 1)
      cases rest with
      | nil => exact readsMembers_last first line blank_space (blank_lineStart depth) key
      | cons next others =>
          rcases readsMembers_pretty depth (next :: others) plain.2.2 with
            none | ⟨_, readsRest⟩
          · cases none
          · simpa [prettyMembers, joinWith, memberChars] using
              readsMembers_cons first line blank_space readsRest key

end

/-- A plain document is read back from its indented text. -/
theorem ofText?_prettyText {json : Json} (plain : json.IsPlain) :
    ofText? json.prettyText = some json := by
  rw [ofText?, prettyText, String.toList_ofList]
  exact (reads_prettyAt 0 json plain).parse

end TenantStore.Json
