namespace TenantStore

/-!
# Dictionaries

A dictionary keeps one value per string key. Its entries stand in strictly
ascending key order, so two dictionaries that answer every lookup alike are
equal (`Dict.ext_get?`), and the order of iteration is part of the value.

The main statements say what each operation does to lookups: `get?_insert`,
`get?_erase`, `get?_mapValues` and `get?_filter`.
-/

/-- Key order of two dictionary entries. -/
def Entry.Precedes (left right : String × α) : Prop :=
  left.1 < right.1

instance (left right : String × α) : Decidable (Entry.Precedes left right) :=
  inferInstanceAs (Decidable (left.1 < right.1))

/-- A finite map from strings to values of `α`. -/
structure Dict (α : Type) where
  entries : List (String × α)
  ascending : entries.Pairwise Entry.Precedes
  deriving DecidableEq

namespace Dict

instance [Repr α] : Repr (Dict α) :=
  ⟨fun dict precision => reprPrec dict.entries precision⟩

/-- The dictionary without entries. -/
def empty : Dict α :=
  ⟨[], List.Pairwise.nil⟩

instance : EmptyCollection (Dict α) :=
  ⟨empty⟩

instance : Inhabited (Dict α) :=
  ⟨empty⟩

/-- The value of the first entry with a given key. -/
def valueIn? (key : String) : List (String × α) → Option α
  | [] => none
  | entry :: rest =>
      if entry.1 = key then some entry.2 else valueIn? key rest

/-- The value stored under a key. -/
def get? (dict : Dict α) (key : String) : Option α :=
  valueIn? key dict.entries

/-- Whether a key has a value. -/
def contains (dict : Dict α) (key : String) : Bool :=
  (dict.get? key).isSome

/-- Keys in ascending order. -/
def keys (dict : Dict α) : List String :=
  dict.entries.map (·.1)

/-- Values in ascending order of their keys. -/
def values (dict : Dict α) : List α :=
  dict.entries.map (·.2)

/-- How many keys have a value. -/
def size (dict : Dict α) : Nat :=
  dict.entries.length

/-- Put an entry at its place, replacing the entry of the same key. -/
def insertEntry (key : String) (value : α) :
    List (String × α) → List (String × α)
  | [] => [(key, value)]
  | entry :: rest =>
      if key < entry.1 then
        (key, value) :: entry :: rest
      else if key = entry.1 then
        (key, value) :: rest
      else
        entry :: insertEntry key value rest

/-- An entry of the extended list is the new one or was there before. -/
theorem mem_insertEntry
    {key : String}
    {value : α}
    {entry : String × α}
    {entries : List (String × α)}
    (member : entry ∈ insertEntry key value entries) :
    entry = (key, value) ∨ entry ∈ entries := by
  induction entries with
  | nil => simpa [insertEntry] using member
  | cons head tail inductionHypothesis =>
      unfold insertEntry at member
      split at member
      · simpa using member
      · split at member
        · rcases List.mem_cons.mp member with same | old
          · exact .inl same
          · exact .inr (List.mem_cons_of_mem _ old)
        · rcases List.mem_cons.mp member with same | deeper
          · exact .inr (same ▸ List.mem_cons_self)
          · rcases inductionHypothesis deeper with new | old
            · exact .inl new
            · exact .inr (List.mem_cons_of_mem _ old)

theorem ascending_insertEntry
    (key : String)
    (value : α)
    {entries : List (String × α)}
    (ascending : entries.Pairwise Entry.Precedes) :
    (insertEntry key value entries).Pairwise Entry.Precedes := by
  induction entries with
  | nil => simp [insertEntry]
  | cons head tail inductionHypothesis =>
      obtain ⟨headFirst, tailAscending⟩ := List.pairwise_cons.mp ascending
      unfold insertEntry
      split
      · rename_i before
        refine List.pairwise_cons.mpr ⟨?_, ascending⟩
        intro entry member
        rcases List.mem_cons.mp member with same | later
        · exact same ▸ before
        · exact String.lt_trans before (headFirst entry later)
      · split
        · rename_i same
          refine List.pairwise_cons.mpr ⟨?_, tailAscending⟩
          intro entry member
          simpa [Entry.Precedes, same] using headFirst entry member
        · rename_i notBefore different
          refine List.pairwise_cons.mpr ⟨?_, inductionHypothesis tailAscending⟩
          intro entry member
          rcases mem_insertEntry member with new | old
          · subst new
            exact Std.lt_of_le_of_ne
              (String.not_lt.mp notBefore) (Ne.symm different)
          · exact headFirst entry old

/-- Store a value under a key, replacing what the key held. -/
def insert (dict : Dict α) (key : String) (value : α) : Dict α :=
  ⟨insertEntry key value dict.entries,
    ascending_insertEntry key value dict.ascending⟩

/-- Remove the entry of a key. -/
def erase (dict : Dict α) (key : String) : Dict α :=
  ⟨dict.entries.filter (fun entry => entry.1 != key),
    dict.ascending.filter _⟩

/-- Keep the entries that satisfy a test. -/
def filter (dict : Dict α) (test : String → α → Bool) : Dict α :=
  ⟨dict.entries.filter (fun entry => test entry.1 entry.2),
    dict.ascending.filter _⟩

theorem ascending_mapEntries
    (change : String → α → β)
    {entries : List (String × α)}
    (ascending : entries.Pairwise Entry.Precedes) :
    (entries.map (fun entry => (entry.1, change entry.1 entry.2))).Pairwise
      Entry.Precedes := by
  rw [List.pairwise_map]
  exact ascending

/-- Replace every value by a function of its key and itself. -/
def mapValues (dict : Dict α) (change : String → α → β) : Dict β :=
  ⟨dict.entries.map (fun entry => (entry.1, change entry.1 entry.2)),
    ascending_mapEntries change dict.ascending⟩

/-- The dictionary of a list of entries; of equal keys the last one counts. -/
def ofList (entries : List (String × α)) : Dict α :=
  entries.foldl (fun dict entry => dict.insert entry.1 entry.2) empty

/-- Change the value of a key, if it has one. -/
def modify (dict : Dict α) (key : String) (change : α → α) : Dict α :=
  dict.mapValues (fun other value => if other = key then change value else value)

/-- The first value, in key order, that satisfies a test. -/
def find? (dict : Dict α) (test : α → Bool) : Option α :=
  dict.values.find? test

/-- Whether some value satisfies a test. -/
def any (dict : Dict α) (test : α → Bool) : Bool :=
  dict.values.any test

/-! ## Lookups after each operation -/

@[simp] theorem get?_empty (key : String) : (empty : Dict α).get? key = none :=
  rfl

theorem valueIn?_insertEntry
    (key other : String)
    (value : α)
    (entries : List (String × α)) :
    valueIn? other (insertEntry key value entries) =
      if key = other then some value else valueIn? other entries := by
  induction entries with
  | nil => simp [insertEntry, valueIn?]
  | cons head tail inductionHypothesis =>
      unfold insertEntry
      split
      · simp [valueIn?]
      · split
        · rename_i same
          by_cases found : key = other <;> simp [valueIn?, found, ← same]
        · rename_i different
          by_cases found : key = other
          · have unlike : head.1 ≠ other := fun same =>
              different (found.trans same.symm)
            rw [valueIn?, if_neg unlike, inductionHypothesis, if_pos found,
              if_pos found]
          · simp [valueIn?, found, inductionHypothesis]

/-- A lookup after `insert` finds the new value under its key alone. -/
@[simp] theorem get?_insert (dict : Dict α) (key other : String) (value : α) :
    (dict.insert key value).get? other =
      if key = other then some value else dict.get? other :=
  valueIn?_insertEntry key other value dict.entries

/-- A lookup after `erase` misses the erased key alone. -/
@[simp] theorem get?_erase (dict : Dict α) (key other : String) :
    (dict.erase key).get? other =
      if key = other then none else dict.get? other := by
  unfold get? erase
  simp only
  induction dict.entries with
  | nil => simp [valueIn?]
  | cons head tail inductionHypothesis =>
      by_cases erased : head.1 = key
      · rw [List.filter_cons_of_neg (by simp [erased]), inductionHypothesis]
        by_cases same : key = other <;> simp [valueIn?, erased, same]
      · rw [List.filter_cons_of_pos (by simp [erased])]
        by_cases found : head.1 = other
        · have unlike : key ≠ other := fun same =>
            erased (found.trans same.symm)
          simp [valueIn?, found, unlike]
        · simp [valueIn?, found, inductionHypothesis]

/-- A lookup after `mapValues` finds the changed value. -/
@[simp] theorem get?_mapValues
    (dict : Dict α)
    (change : String → α → β)
    (key : String) :
    (dict.mapValues change).get? key = (dict.get? key).map (change key) := by
  unfold get? mapValues
  simp only
  induction dict.entries with
  | nil => rfl
  | cons head tail inductionHypothesis =>
      by_cases found : head.1 = key
      · simp [valueIn?, found]
      · simp [valueIn?, found, inductionHypothesis]

theorem valueIn?_eq_some_iff
    {key : String}
    {value : α}
    {entries : List (String × α)}
    (ascending : entries.Pairwise Entry.Precedes) :
    valueIn? key entries = some value ↔ (key, value) ∈ entries := by
  induction entries with
  | nil => simp [valueIn?]
  | cons head tail inductionHypothesis =>
      obtain ⟨headFirst, tailAscending⟩ := List.pairwise_cons.mp ascending
      by_cases found : head.1 = key
      · have absent : (key, value) ∉ tail := by
          intro member
          have before : head.1 < key := headFirst _ member
          exact String.lt_irrefl key (found ▸ before)
        simp only [valueIn?, found, if_true, Option.some.injEq,
          List.mem_cons, absent, or_false]
        constructor
        · intro same
          rw [← found, ← same]
        · intro same
          rw [← same]
      · have unlike : (key, value) ≠ head := fun same =>
          found (congrArg Prod.fst same).symm
        simpa [valueIn?, found, unlike] using
          inductionHypothesis tailAscending

/-- A lookup finds exactly the entries of the dictionary. -/
theorem get?_eq_some_iff {dict : Dict α} {key : String} {value : α} :
    dict.get? key = some value ↔ (key, value) ∈ dict.entries :=
  valueIn?_eq_some_iff dict.ascending

/-- A lookup after `filter` finds the kept entries. -/
@[simp] theorem get?_filter
    (dict : Dict α)
    (test : String → α → Bool)
    (key : String) :
    (dict.filter test).get? key = (dict.get? key).filter (test key) := by
  apply Option.ext
  intro value
  rw [get?_eq_some_iff, Option.filter_eq_some_iff, get?_eq_some_iff]
  simp [filter, List.mem_filter]

/-- Entries in strictly ascending order are determined by the set of them. -/
theorem eq_of_mem_iff
    {left right : List (String × α)}
    (leftAscending : left.Pairwise Entry.Precedes)
    (rightAscending : right.Pairwise Entry.Precedes)
    (same : ∀ entry, entry ∈ left ↔ entry ∈ right) :
    left = right := by
  induction left generalizing right with
  | nil =>
      cases right with
      | nil => rfl
      | cons head tail => exact absurd ((same head).mpr List.mem_cons_self) (by simp)
  | cons leftHead leftTail inductionHypothesis =>
      cases right with
      | nil => exact absurd ((same leftHead).mp List.mem_cons_self) (by simp)
      | cons rightHead rightTail =>
          obtain ⟨leftFirst, leftRest⟩ := List.pairwise_cons.mp leftAscending
          obtain ⟨rightFirst, rightRest⟩ := List.pairwise_cons.mp rightAscending
          have headsEqual : leftHead = rightHead := by
            rcases List.mem_cons.mp ((same leftHead).mp List.mem_cons_self)
              with equal | leftLater
            · exact equal
            · rcases List.mem_cons.mp ((same rightHead).mpr List.mem_cons_self)
                with equal | rightLater
              · exact equal.symm
              · exact absurd (leftFirst _ rightLater)
                  (String.lt_asymm (rightFirst _ leftLater))
          subst headsEqual
          congr 1
          apply inductionHypothesis leftRest rightRest
          intro entry
          have both := same entry
          simp only [List.mem_cons] at both
          constructor
          · intro member
            rcases both.mp (.inr member) with equal | later
            · subst equal
              exact absurd (leftFirst _ member) (String.lt_irrefl _)
            · exact later
          · intro member
            rcases both.mpr (.inr member) with equal | later
            · subst equal
              exact absurd (rightFirst _ member) (String.lt_irrefl _)
            · exact later

/-- Dictionaries that answer every lookup alike are equal. -/
theorem ext_get?
    {left right : Dict α}
    (same : ∀ key, left.get? key = right.get? key) :
    left = right := by
  have entriesEqual : left.entries = right.entries := by
    apply eq_of_mem_iff left.ascending right.ascending
    intro entry
    have leftIff : left.get? entry.1 = some entry.2 ↔ entry ∈ left.entries :=
      get?_eq_some_iff
    have rightIff : right.get? entry.1 = some entry.2 ↔ entry ∈ right.entries :=
      get?_eq_some_iff
    rw [← leftIff, ← rightIff, same]
  cases left
  cases right
  simpa using entriesEqual

end Dict

end TenantStore
