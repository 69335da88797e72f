import TenantStore.FileEngine.Memory
import TenantStore.Proofs.Dictionaries

namespace TenantStore.FileEngine

/-!
# What index updates do to lookups

Indices change by adding the keys of an account and by removing those of its
entries that still lead where the account says. Each update is described by
what a lookup finds after it.
-/

/-! ## Account indices -/

@[simp] theorem get?_addKeys
    (id : String)
    (keys : List String)
    (index : Dict String)
    (key : String) :
    (addKeys id keys index).get? key =
      if key ∈ keys then some id else index.get? key := by
  induction keys generalizing index with
  | nil => simp [addKeys]
  | cons head tail inductionHypothesis =>
      rw [addKeys, List.foldl_cons, ← addKeys, inductionHypothesis]
      by_cases inTail : key ∈ tail
      · simp [inTail]
      · by_cases atHead : head = key
        · simp [inTail, atHead]
        · have unlike : key ≠ head := fun same => atHead same.symm
          simp [inTail, atHead, unlike]

/-- An entry survives `eraseOwned` unless it is the one that was named. -/
theorem get?_eraseOwned_eq_some
    {index : Dict String}
    {key id other value : String} :
    (eraseOwned index key id).get? other = some value ↔
      index.get? other = some value ∧ ¬(other = key ∧ value = id) := by
  unfold eraseOwned
  split
  · rename_i owned
    rw [Dict.get?_erase]
    by_cases same : key = other
    · subst same
      simp [owned]
      intro equal
      exact equal.symm
    · have unlike : other ≠ key := fun equal => same equal.symm
      simp [same, unlike]
  · rename_i foreign
    constructor
    · intro found
      refine ⟨found, ?_⟩
      rintro ⟨rfl, rfl⟩
      exact foreign found
    · exact And.left

/-- Removing entries leaves exactly those that are not among the removed. -/
theorem get?_removeEntries_eq_some
    {entries : List (String × String)}
    {index : Dict String}
    {key value : String} :
    (Memory.removeEntries entries index).get? key = some value ↔
      index.get? key = some value ∧ (key, value) ∉ entries := by
  induction entries generalizing index with
  | nil => simp [Memory.removeEntries]
  | cons head tail inductionHypothesis =>
      rw [Memory.removeEntries, List.foldl_cons, ← Memory.removeEntries,
        inductionHypothesis, get?_eraseOwned_eq_some]
      have headIff : (key = head.1 ∧ value = head.2) ↔ (key, value) = head :=
        ⟨fun both => Prod.ext both.1 both.2,
          fun same => ⟨congrArg Prod.fst same, congrArg Prod.snd same⟩⟩
      rw [headIff, List.mem_cons, not_or, and_assoc]

/-- Removing the keys of one identifier is removing its entries. -/
theorem removeKeys_eq_removeEntries
    (id : String)
    (keys : List String)
    (index : Dict String) :
    removeKeys id keys index =
      Memory.removeEntries (keys.map (fun key => (key, id))) index := by
  rw [removeKeys, Memory.removeEntries, List.foldl_map]

theorem get?_removeKeys_eq_some
    {id key value : String}
    {keys : List String}
    {index : Dict String} :
    (removeKeys id keys index).get? key = some value ↔
      index.get? key = some value ∧ ¬(key ∈ keys ∧ value = id) := by
  rw [removeKeys_eq_removeEntries, get?_removeEntries_eq_some]
  have entryIff :
      (key, value) ∈ keys.map (fun key => (key, id)) ↔
        key ∈ keys ∧ value = id := by
    constructor
    · intro member
      obtain ⟨other, otherMember, same⟩ := List.mem_map.mp member
      cases same
      exact ⟨otherMember, rfl⟩
    · rintro ⟨member, rfl⟩
      exact List.mem_map.mpr ⟨key, member, rfl⟩
  rw [entryIff]

/-! ## Token indices -/

theorem get?_addEntries_of_absent
    {entries : List (String × String)}
    {index : Dict String}
    {key : String}
    (absent : key ∉ entries.map Prod.fst) :
    (Memory.addEntries entries index).get? key = index.get? key := by
  induction entries generalizing index with
  | nil => rfl
  | cons head tail inductionHypothesis =>
      rw [List.map_cons, List.mem_cons, not_or] at absent
      have unlike : head.1 ≠ key := fun same => absent.1 same.symm
      rw [Memory.addEntries, List.foldl_cons, ← Memory.addEntries,
        inductionHypothesis absent.2, Dict.get?_insert, if_neg unlike]

/-- A key that is among the added ones leads to what one of them says. -/
theorem exists_get?_addEntries
    {entries : List (String × String)}
    (index : Dict String)
    {key : String}
    (present : key ∈ entries.map Prod.fst) :
    ∃ value,
      (key, value) ∈ entries ∧
        (Memory.addEntries entries index).get? key = some value := by
  induction entries generalizing index with
  | nil => simp at present
  | cons head tail inductionHypothesis =>
      rw [Memory.addEntries, List.foldl_cons, ← Memory.addEntries]
      by_cases inTail : key ∈ tail.map Prod.fst
      · obtain ⟨value, member, found⟩ := inductionHypothesis _ inTail
        exact ⟨value, List.mem_cons_of_mem _ member, found⟩
      · have atHead : key = head.1 := by
          simpa [inTail] using present
        refine ⟨head.2, atHead ▸ List.mem_cons_self, ?_⟩
        rw [get?_addEntries_of_absent inTail, Dict.get?_insert,
          if_pos atHead.symm]

/-- Every entry after an addition was added or was there before. -/
theorem mem_or_get?_of_addEntries
    {entries : List (String × String)}
    {index : Dict String}
    {key value : String}
    (found : (Memory.addEntries entries index).get? key = some value) :
    (key, value) ∈ entries ∨
      (key ∉ entries.map Prod.fst ∧ index.get? key = some value) := by
  by_cases present : key ∈ entries.map Prod.fst
  · obtain ⟨added, member, addedFound⟩ :=
      exists_get?_addEntries index present
    rw [addedFound, Option.some.injEq] at found
    exact .inl (found ▸ member)
  · rw [get?_addEntries_of_absent present] at found
    exact .inr ⟨present, found⟩

/-! ## The indices of a memory -/

namespace Indices

@[simp] theorem get_addAccount
    (indices : Indices)
    (id : String)
    (account : Account)
    (lookup : Lookup) :
    (indices.addAccount id account).get lookup =
      addKeys id (lookup.keysOf account) (indices.get lookup) := by
  rw [addAccount, get_of]

@[simp] theorem get_removeAccount
    (indices : Indices)
    (account : Account)
    (lookup : Lookup) :
    (indices.removeAccount account).get lookup =
      removeKeys account.id (lookup.keysReleased account)
        (indices.get lookup) := by
  rw [removeAccount, get_of]

/-- What remains after `forget` are the entries of other identifiers. -/
theorem get?_forget_eq_some
    {indices : Indices}
    {id key owner : String}
    {lookup : Lookup} :
    ((indices.forget id).get lookup).get? key = some owner ↔
      (indices.get lookup).get? key = some owner ∧ owner ≠ id := by
  rw [forget, get_of, Dict.get?_filter, Option.filter_eq_some_iff]
  simp

theorem get_modify
    (indices : Indices)
    (lookup other : Lookup)
    (change : Dict String → Dict String) :
    (indices.modify lookup change).get other =
      if other = lookup then change (indices.get other)
      else indices.get other := by
  rw [modify, get_of]

/-- Erasing a key from one index adds no entry to any. -/
theorem get?_of_get?_modify_erase
    {indices : Indices}
    {lookup other : Lookup}
    {erased key id : String}
    (found :
      ((indices.modify lookup (·.erase erased)).get other).get? key = some id) :
    (indices.get other).get? key = some id := by
  rw [get_modify] at found
  split at found
  · exact Dict.get?_of_get?_erase found
  · exact found

end Indices

end TenantStore.FileEngine
