import Mathlib.Data.List.Nodup
import TenantStore.Dict

namespace TenantStore.Dict

/-!
# Entries, values and searches of dictionaries

A value stands in a dictionary exactly when some key leads to it. From this
follow what `modify`, `any` and `find?` do, in terms of lookups alone.
-/

/-- A value is one that some key leads to. -/
theorem mem_values_iff {dict : Dict α} {value : α} :
    value ∈ dict.values ↔ ∃ key, dict.get? key = some value := by
  constructor
  · intro member
    obtain ⟨entry, entryMember, rfl⟩ := List.mem_map.mp member
    exact ⟨entry.1, get?_eq_some_iff.mpr entryMember⟩
  · rintro ⟨key, found⟩
    exact List.mem_map.mpr ⟨(key, value), get?_eq_some_iff.mp found, rfl⟩

/-- A key is one that leads to a value. -/
theorem mem_keys_iff {dict : Dict α} {key : String} :
    key ∈ dict.keys ↔ ∃ value, dict.get? key = some value := by
  constructor
  · intro member
    obtain ⟨entry, entryMember, rfl⟩ := List.mem_map.mp member
    exact ⟨entry.2, get?_eq_some_iff.mpr entryMember⟩
  · rintro ⟨value, found⟩
    exact List.mem_map.mpr ⟨(key, value), get?_eq_some_iff.mp found, rfl⟩

/-- An insertion adds its key and takes none away. -/
theorem mem_keys_insert {dict : Dict α} {key other : String} {value : α} :
    other ∈ (dict.insert key value).keys ↔ other ∈ dict.keys ∨ key = other := by
  simp only [mem_keys_iff, get?_insert]
  by_cases same : key = other
  · simp [same]
  · simp [same]

/-- A key is contained if it leads to a value. -/
theorem contains_iff {dict : Dict α} {key : String} :
    dict.contains key = true ↔ ∃ value, dict.get? key = some value := by
  rw [contains, Option.isSome_iff_exists]

/-- What is found after `erase` was there before. -/
theorem get?_of_get?_erase {dict : Dict α} {key other : String} {value : α}
    (found : (dict.erase key).get? other = some value) :
    dict.get? other = some value := by
  rw [get?_erase] at found
  split at found
  · cases found
  · exact found

/-- A lookup after `modify` finds the changed value under its key alone. -/
@[simp] theorem get?_modify
    (dict : Dict α)
    (key other : String)
    (change : α → α) :
    (dict.modify key change).get? other =
      if key = other then (dict.get? other).map change else dict.get? other := by
  rw [modify, get?_mapValues]
  by_cases same : key = other
  · simp [same]
  · have unlike : other ≠ key := fun equal => same equal.symm
    simp [same, unlike]

/-- A value that is there already changes nothing. -/
theorem insert_eq_self {dict : Dict α} {key : String} {value : α}
    (found : dict.get? key = some value) :
    dict.insert key value = dict := by
  apply ext_get?
  intro other
  rw [get?_insert]
  split
  · rename_i same
    rw [← same, found]
  · rfl

/-- Of two values under one key the later one counts. -/
theorem insert_insert (dict : Dict α) (key : String) (first second : α) :
    (dict.insert key first).insert key second = dict.insert key second := by
  apply ext_get?
  intro other
  by_cases same : key = other <;> simp [same]

/-- Some value satisfies a test exactly when some key leads to such a value. -/
theorem any_iff {dict : Dict α} {test : α → Bool} :
    dict.any test = true ↔
      ∃ key value, dict.get? key = some value ∧ test value = true := by
  rw [any, List.any_eq_true]
  constructor
  · rintro ⟨value, member, passes⟩
    obtain ⟨key, found⟩ := mem_values_iff.mp member
    exact ⟨key, value, found, passes⟩
  · rintro ⟨key, value, found, passes⟩
    exact ⟨value, mem_values_iff.mpr ⟨key, found⟩, passes⟩

/-- A search succeeds exactly when some key leads to a fitting value. -/
theorem find?_isSome_iff {dict : Dict α} {test : α → Bool} :
    (dict.find? test).isSome = true ↔
      ∃ key value, dict.get? key = some value ∧ test value = true := by
  rw [find?, List.find?_isSome, ← any_iff, any, List.any_eq_true]

/-- What a search finds is a value that satisfies the test. -/
theorem find?_some {dict : Dict α} {test : α → Bool} {value : α}
    (found : dict.find? test = some value) :
    (∃ key, dict.get? key = some value) ∧ test value = true :=
  ⟨mem_values_iff.mp (List.mem_of_find?_eq_some found), List.find?_some found⟩

/-- A change has no effect exactly when it keeps every value. -/
theorem mapValues_eq_self_iff {dict : Dict α} {change : String → α → α} :
    dict.mapValues change = dict ↔
      ∀ key value, dict.get? key = some value → change key value = value := by
  constructor
  · intro same key value found
    have changed : (dict.mapValues change).get? key = some value := by
      rw [same, found]
    simpa [found] using changed
  · intro keeps
    apply ext_get?
    intro key
    rw [get?_mapValues]
    cases found : dict.get? key with
    | none => rfl
    | some value => rw [Option.map_some, keeps key value found]

/-! ## Changing one value -/

/-- What does not depend on the change of a value is the same after `modify`. -/
theorem map_values_modify
    (dict : Dict α)
    (key : String)
    {change : α → α}
    {view : α → β}
    (same : ∀ value, view (change value) = view value) :
    (dict.modify key change).values.map view = dict.values.map view := by
  simp only [values, modify, mapValues, List.map_map]
  apply List.map_congr_left
  intro entry _
  simp only [Function.comp]
  split
  · exact same entry.2
  · rfl

/-- A change that a view does not see is not seen in the whole either. -/
theorem flatMap_values_modify
    (dict : Dict α)
    (key : String)
    {change : α → α}
    {view : α → List β}
    (same : ∀ value, view (change value) = view value) :
    (dict.modify key change).values.flatMap view = dict.values.flatMap view := by
  rw [List.flatMap_def, List.flatMap_def, map_values_modify dict key same]

/-- Where a rule keeps every value, it keeps them after `modify` as well. -/
theorem mapValues_modify_eq_self
    {dict : Dict α}
    (key : String)
    {change : α → α}
    {rule : String → α → α}
    (keeps : dict.mapValues rule = dict)
    (keepsChanged :
      ∀ slot value, rule slot value = value →
        rule slot (change value) = change value) :
    (dict.modify key change).mapValues rule = dict.modify key change := by
  rw [mapValues_eq_self_iff] at keeps ⊢
  intro slot value found
  rw [get?_modify] at found
  split at found
  · obtain ⟨old, oldFound, rfl⟩ := Option.map_eq_some_iff.mp found
    exact keepsChanged slot old (keeps slot old oldFound)
  · exact keeps slot value found

/-! ## Values that name their keys -/

/-- Every value stands under the key that it names. -/
def FiledBy (name : α → String) (dict : Dict α) : Prop :=
  ∀ slot value, dict.get? slot = some value → name value = slot

instance (name : α → String) (dict : Dict α) : Decidable (dict.FiledBy name) :=
  decidable_of_iff (∀ entry ∈ dict.entries, name entry.2 = entry.1)
    ⟨fun named _ _ found => named _ (get?_eq_some_iff.mp found),
      fun filed _ member => filed _ _ (get?_eq_some_iff.mpr member)⟩

/-- A value that names a key is the one that stands under it. -/
theorem FiledBy.get?_iff
    {name : α → String}
    {dict : Dict α}
    (filed : dict.FiledBy name)
    {slot : String}
    {value : α} :
    dict.get? slot = some value ↔ value ∈ dict.values ∧ name value = slot := by
  constructor
  · intro found
    exact ⟨mem_values_iff.mpr ⟨slot, found⟩, filed slot value found⟩
  · rintro ⟨member, rfl⟩
    obtain ⟨slot, found⟩ := mem_values_iff.mp member
    rw [filed slot value found, found]

/-- What is filed by name is contained under the names of its values. -/
theorem FiledBy.contains_iff
    {name : α → String}
    {dict : Dict α}
    (filed : dict.FiledBy name)
    {slot : String} :
    dict.contains slot = true ↔ ∃ value ∈ dict.values, name value = slot := by
  simp only [Dict.contains_iff, filed.get?_iff]

/-- The keys that values name are those of the dictionary. -/
theorem FiledBy.map_values_eq_keys
    {name : α → String}
    {dict : Dict α}
    (filed : dict.FiledBy name) :
    dict.values.map name = dict.keys := by
  rw [values, keys, List.map_map]
  apply List.map_congr_left
  intro entry member
  exact filed entry.1 entry.2 (get?_eq_some_iff.mpr member)

/-- No key stands twice. -/
theorem keys_nodup (dict : Dict α) : dict.keys.Nodup := by
  rw [keys, List.nodup_iff_pairwise_ne, List.pairwise_map]
  refine dict.ascending.imp ?_
  intro left right before same
  have less : left.1 < right.1 := before
  rw [same] at less
  exact String.lt_irrefl right.1 less

/-- There are as many keys as entries. -/
theorem length_keys (dict : Dict α) : dict.keys.length = dict.size :=
  List.length_map _

/-- Changing the value of a key changes the values that name it. -/
theorem FiledBy.values_modify
    {name : α → String}
    {dict : Dict α}
    (filed : dict.FiledBy name)
    (key : String)
    (change : α → α) :
    (dict.modify key change).values =
      dict.values.map (fun value => if name value = key then change value else value) := by
  simp only [values, modify, mapValues, List.map_map]
  apply List.map_congr_left
  intro entry member
  have named := filed entry.1 entry.2 (get?_eq_some_iff.mpr member)
  simp only [Function.comp, named]

/-- What is filed by name is known from its values. -/
theorem FiledBy.map_values_eq_entries
    {name : α → String}
    {dict : Dict α}
    (filed : dict.FiledBy name) :
    dict.values.map (fun value => (name value, value)) = dict.entries := by
  rw [values, List.map_map]
  refine Eq.trans (List.map_congr_left ?_) (List.map_id dict.entries)
  intro entry member
  exact Prod.ext (filed entry.1 entry.2 (get?_eq_some_iff.mpr member)) rfl

/-- A key that no entry has is not found. -/
theorem valueIn?_eq_none {key : String} {entries : List (String × α)}
    (absent : key ∉ entries.map Prod.fst) :
    valueIn? key entries = none := by
  induction entries with
  | nil => rfl
  | cons entry rest inductionHypothesis =>
      rw [List.map_cons, List.mem_cons, not_or] at absent
      rw [valueIn?, if_neg (fun same => absent.1 same.symm),
        inductionHypothesis absent.2]

/-- An entry is found by its key if no other one has it. -/
theorem valueIn?_of_mem
    {entries : List (String × α)}
    (distinct : (entries.map Prod.fst).Nodup)
    {entry : String × α}
    (member : entry ∈ entries) :
    valueIn? entry.1 entries = some entry.2 := by
  induction entries with
  | nil => cases member
  | cons head rest inductionHypothesis =>
      obtain ⟨headApart, restDistinct⟩ := List.nodup_cons.mp distinct
      rw [valueIn?]
      rcases List.mem_cons.mp member with rfl | later
      · rw [if_pos rfl]
      · have unlike : head.1 ≠ entry.1 :=
          fun same => headApart (same ▸ List.mem_map_of_mem later)
        rw [if_neg unlike, inductionHypothesis restDistinct later]

/-- A lookup after many insertions finds what was inserted or was there before. -/
theorem get?_foldl_insert
    {entries : List (String × α)}
    (distinct : (entries.map Prod.fst).Nodup)
    (dict : Dict α)
    (key : String) :
    (entries.foldl (fun dict entry => dict.insert entry.1 entry.2) dict).get? key =
      (valueIn? key entries).or (dict.get? key) := by
  induction entries generalizing dict with
  | nil => rfl
  | cons entry rest inductionHypothesis =>
      obtain ⟨headApart, restDistinct⟩ := List.nodup_cons.mp distinct
      rw [List.foldl_cons, inductionHypothesis restDistinct, get?_insert, valueIn?]
      by_cases same : entry.1 = key
      · have absent : valueIn? key rest = none :=
          valueIn?_eq_none (same ▸ headApart)
        simp [same, absent]
      · simp [same]

/-- A dictionary is made again from its values under the keys that they name. -/
theorem FiledBy.ofList_values
    {name : α → String}
    {dict : Dict α}
    (filed : dict.FiledBy name) :
    ofList (dict.values.map (fun value => (name value, value))) = dict := by
  apply ext_get?
  intro key
  have distinct : (dict.entries.map Prod.fst).Nodup := dict.keys_nodup
  rw [filed.map_values_eq_entries, ofList, get?_foldl_insert distinct, get?_empty,
    Option.or_none]
  rfl

/-- A lookup after many insertions finds an entry of the key, if there is any. -/
theorem get?_foldl_insert_cases
    (entries : List (String × α))
    (dict : Dict α)
    (key : String) :
    (∃ value, (key, value) ∈ entries ∧
      (entries.foldl (fun dict entry => dict.insert entry.1 entry.2) dict).get? key =
        some value) ∨
      (∀ value, (key, value) ∉ entries) ∧
        (entries.foldl (fun dict entry => dict.insert entry.1 entry.2) dict).get? key =
          dict.get? key := by
  induction entries generalizing dict with
  | nil => exact .inr ⟨fun _ => List.not_mem_nil, rfl⟩
  | cons entry rest inductionHypothesis =>
      rw [List.foldl_cons]
      rcases inductionHypothesis (dict.insert entry.1 entry.2) with
        ⟨value, member, found⟩ | ⟨absent, unchanged⟩
      · exact .inl ⟨value, List.mem_cons_of_mem _ member, found⟩
      · rw [get?_insert] at unchanged
        by_cases same : entry.1 = key
        · rw [if_pos same] at unchanged
          exact .inl ⟨entry.2, by simp [← same], unchanged⟩
        · rw [if_neg same] at unchanged
          refine .inr ⟨?_, unchanged⟩
          intro value member
          rcases List.mem_cons.mp member with here | later
          · exact same (congrArg Prod.fst here).symm
          · exact absent value later

/-- A dictionary is made from its values in any order, however often they come. -/
theorem FiledBy.ofList_eq
    {name : α → String}
    {dict : Dict α}
    (filed : dict.FiledBy name)
    {values : List α}
    (same : ∀ value, value ∈ values ↔ value ∈ dict.values) :
    ofList (values.map (fun value => (name value, value))) = dict := by
  apply ext_get?
  intro key
  rcases get?_foldl_insert_cases (values.map (fun value => (name value, value))) empty key
    with ⟨value, member, found⟩ | ⟨absent, unchanged⟩
  · obtain ⟨other, otherMember, entry_eq⟩ := List.mem_map.mp member
    cases entry_eq
    rw [ofList, found]
    exact (filed.get?_iff.mpr ⟨(same value).mp otherMember, rfl⟩).symm
  · rw [ofList, unchanged, get?_empty]
    cases found : dict.get? key with
    | none => rfl
    | some value =>
        obtain ⟨member, named⟩ := filed.get?_iff.mp found
        exact absurd (List.mem_map.mpr ⟨value, (same value).mpr member, by rw [named]⟩)
          (absent value)

/-! ## Changing every value -/

/-- What can be told of the values before and after a change stays the same. -/
theorem map_values_mapValues
    {dict : Dict α}
    {change : String → α → β}
    {before : α → γ}
    {after : β → γ}
    (same : ∀ key value, after (change key value) = before value) :
    (dict.mapValues change).values.map after = dict.values.map before := by
  simp only [values, mapValues, List.map_map]
  exact List.map_congr_left (fun entry _ => same entry.1 entry.2)

/-- The values of a change are the changed values, in the same order. -/
theorem values_mapValues (dict : Dict α) (change : α → β) :
    (dict.mapValues (fun _ => change)).values = dict.values.map change := by
  simp only [values, mapValues, List.map_map]
  rfl

/-- Two changes in turn are one. -/
theorem mapValues_mapValues
    (dict : Dict α)
    (first : String → α → β)
    (second : String → β → γ) :
    (dict.mapValues first).mapValues second =
      dict.mapValues (fun key value => second key (first key value)) := by
  apply ext_get?
  intro key
  simp [Function.comp_def]

/-- What leaves every value alone does so after a change that it commutes with. -/
theorem mapValues_mapValues_of_commute
    {dict : Dict α}
    {settle change : String → α → α}
    (settled : dict.mapValues settle = dict)
    (commute : ∀ key value, settle key (change key value) = change key (settle key value)) :
    (dict.mapValues change).mapValues settle = dict.mapValues change := by
  have same : (fun key value => settle key (change key value)) =
      fun key value => change key (settle key value) := by
    funext key value
    exact commute key value
  rw [mapValues_mapValues, same, ← mapValues_mapValues, settled]

/-- Changing one value is not seen by a change of all that takes no notice of it. -/
theorem mapValues_modify_of_same
    (dict : Dict α)
    (key : String)
    {change : α → α}
    {image : α → β}
    (same : ∀ value, image (change value) = image value) :
    (dict.modify key change).mapValues (fun _ => image) = dict.mapValues (fun _ => image) := by
  rw [modify, mapValues_mapValues]
  congr 1
  funext other value
  split
  · exact same value
  · rfl

/-- Nor is replacing one value by another that looks the same after the change. -/
theorem mapValues_insert_of_same
    {dict : Dict α}
    {key : String}
    {old new : α}
    {image : α → β}
    (stored : dict.get? key = some old)
    (same : image new = image old) :
    (dict.insert key new).mapValues (fun _ => image) = dict.mapValues (fun _ => image) := by
  apply ext_get?
  intro other
  rw [get?_mapValues, get?_mapValues, get?_insert]
  split
  · rename_i here
    rw [← here, stored, Option.map_some, Option.map_some, same]
  · rfl

/-- A search finds the changed value, if the test does not see the change. -/
theorem find?_mapValues
    (dict : Dict α)
    {change : α → α}
    {test : α → Bool}
    (same : ∀ value, test (change value) = test value) :
    (dict.mapValues (fun _ => change)).find? test = (dict.find? test).map change := by
  rw [find?, values_mapValues, List.find?_map, find?]
  congr 2
  funext value
  exact same value

/-- A changed value comes from one that was there under the same key. -/
theorem mem_values_mapValues
    {dict : Dict α}
    {change : String → α → β}
    {changed : β} :
    changed ∈ (dict.mapValues change).values ↔
      ∃ key value, dict.get? key = some value ∧ change key value = changed := by
  rw [mem_values_iff]
  constructor
  · rintro ⟨key, found⟩
    rw [get?_mapValues, Option.map_eq_some_iff] at found
    obtain ⟨value, valueFound, rfl⟩ := found
    exact ⟨key, value, valueFound, rfl⟩
  · rintro ⟨key, value, found, rfl⟩
    exact ⟨key, by rw [get?_mapValues, found, Option.map_some]⟩

/-- A change that keeps every value keeps the dictionary. -/
theorem mapValues_of_forall_mem
    {dict : Dict α}
    {change : α → α}
    (keeps : ∀ value ∈ dict.values, change value = value) :
    dict.mapValues (fun _ => change) = dict := by
  rw [mapValues_eq_self_iff]
  intro key value found
  exact keeps value (mem_values_iff.mpr ⟨key, found⟩)

/-! ## Sorted keys -/

/-- The keys stand in ascending order. -/
theorem pairwise_lt_keys (dict : Dict α) : dict.keys.Pairwise (· < ·) :=
  List.pairwise_map.mpr dict.ascending

/-- Texts that are sorted come in one order, whatever order they came in before. -/
theorem mergeSort_congr {left right : List String} (same : left.Perm right) :
    left.mergeSort (fun left right => left ≤ right) =
      right.mergeSort (fun left right => left ≤ right) := by
  have sorted (texts : List String) :
      (texts.mergeSort (fun left right => left ≤ right)).Pairwise (· ≤ ·) := by
    have pairs := @List.pairwise_mergeSort String (fun left right => left ≤ right)
      (fun left middle right => by simpa using String.le_trans)
      (fun left right => by simpa using String.le_total left right) texts
    simpa using pairs
  apply List.Perm.eq_of_pairwise _ (sorted left) (sorted right)
  · exact (List.mergeSort_perm _ _).trans (same.trans (List.mergeSort_perm _ _).symm)
  · intro one other _ _ below above
    exact String.le_antisymm below above

/-- Keys are sorted as they are. -/
theorem mergeSort_keys (dict : Dict α) :
    dict.keys.mergeSort (fun left right => left ≤ right) = dict.keys :=
  List.mergeSort_of_pairwise (dict.pairwise_lt_keys.imp (fun before =>
    decide_eq_true (Std.le_of_lt before)))

/-! ## Dictionaries of entries -/

/-- A dictionary is made again from its entries. -/
theorem ofList_entries (dict : Dict α) : ofList dict.entries = dict := by
  apply ext_get?
  intro key
  rw [ofList, get?_foldl_insert dict.keys_nodup, get?_empty, Option.or_none]
  rfl

/-- A value of the dictionary comes from some entry. -/
theorem mem_of_mem_values_ofList {entries : List (String × α)} {value : α}
    (member : value ∈ (ofList entries).values) :
    ∃ key, (key, value) ∈ entries := by
  obtain ⟨key, found⟩ := mem_values_iff.mp member
  rcases get?_foldl_insert_cases entries empty key with
    ⟨other, otherMember, otherFound⟩ | ⟨_, missing⟩
  · rw [ofList, otherFound, Option.some.injEq] at found
    exact ⟨key, found ▸ otherMember⟩
  · rw [ofList, missing] at found
    cases found

/-- If no key comes twice, a lookup finds exactly the entries. -/
theorem get?_ofList_iff
    {entries : List (String × α)}
    (distinct : (entries.map Prod.fst).Nodup)
    {key : String}
    {value : α} :
    (ofList entries).get? key = some value ↔ (key, value) ∈ entries := by
  rcases get?_foldl_insert_cases entries empty key with
    ⟨other, otherMember, found⟩ | ⟨absent, missing⟩
  · rw [ofList, found, Option.some.injEq]
    constructor
    · rintro rfl
      exact otherMember
    · intro member
      exact congrArg Prod.snd (List.inj_on_of_nodup_map distinct otherMember member rfl)
  · rw [ofList, missing, get?_empty]
    constructor
    · intro found
      cases found
    · intro member
      exact absurd member (absent value)

end TenantStore.Dict
