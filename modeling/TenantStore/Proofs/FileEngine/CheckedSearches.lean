import TenantStore.FileEngine.Memory

namespace TenantStore.FileEngine

/-!
# Searches that check what they find

The searches of a memory are of one form. An index may have an entry for the
key, and the entry may lead to something that is still right. If it does, that
is found and the memory stays; if not, the entry is taken out and noticed.
`Memory.searchChecked` is this form, and what a search finds, notices and
leaves behind is shown here once for all of them.
-/

namespace Memory

/-- The search that follows an entry to what it leads to, if that is right. -/
def searchChecked
    (memory without : Memory)
    (missing : Problem)
    (entry : Option String)
    (leadsTo : String → Option α)
    (stale : String → Notice) :
    Search α :=
  match entry with
  | none => { memory := memory, found := .error missing }
  | some target =>
      match leadsTo target with
      | some found => { memory := memory, found := .ok found }
      | none =>
          { memory := without, found := .error missing, notices := [stale target] }

section

variable
  {memory without : Memory}
  {missing : Problem}
  {entry : Option String}
  {leadsTo : String → Option α}
  {stale : String → Notice}

/-- An entry that is there and right is what is found. -/
theorem searchChecked_found :
    (memory.searchChecked without missing entry leadsTo stale).found =
      (entry.bind leadsTo).elim (.error missing) .ok := by
  cases entry with
  | none => rfl
  | some target =>
      rw [searchChecked, Option.bind_some]
      cases leadsTo target <;> rfl

/-- Something is found if there is an entry that leads to it. -/
theorem searchChecked_found_iff {found : α} :
    (memory.searchChecked without missing entry leadsTo stale).found =
        .ok found ↔
      ∃ target, entry = some target ∧ leadsTo target = some found := by
  rw [searchChecked_found, ← Option.bind_eq_some_iff]
  cases entry.bind leadsTo <;> simp

/-- A search succeeds without a trace, or says what is missing. -/
theorem searchChecked_found_cases :
    (∃ found,
        (memory.searchChecked without missing entry leadsTo stale).found =
            .ok found ∧
          (memory.searchChecked without missing entry leadsTo stale).memory =
            memory ∧
          (memory.searchChecked without missing entry leadsTo stale).notices =
            []) ∨
      (memory.searchChecked without missing entry leadsTo stale).found =
        .error missing := by
  cases entry with
  | none => exact .inr rfl
  | some target =>
      simp only [searchChecked]
      cases leadsTo target with
      | some found => exact .inl ⟨found, rfl, rfl, rfl⟩
      | none => exact .inr rfl

/-- Something is noticed exactly when an entry leads to nothing right. -/
theorem searchChecked_notices_iff :
    (memory.searchChecked without missing entry leadsTo stale).notices ≠ [] ↔
      ∃ target, entry = some target ∧ leadsTo target = none := by
  cases entry with
  | none => simp [searchChecked]
  | some target =>
      simp only [searchChecked, Option.some.injEq, exists_eq_left']
      cases leadsTo target <;> simp

/-- The entry is taken out exactly when that is noticed. -/
theorem searchChecked_memory :
    (memory.searchChecked without missing entry leadsTo stale).memory = memory ∧
        (memory.searchChecked without missing entry leadsTo stale).notices = [] ∨
      (memory.searchChecked without missing entry leadsTo stale).notices ≠ [] ∧
        (memory.searchChecked without missing entry leadsTo stale).memory =
          without := by
  cases entry with
  | none => exact .inl ⟨rfl, rfl⟩
  | some target =>
      simp only [searchChecked]
      cases leadsTo target with
      | some found => exact .inl ⟨rfl, rfl⟩
      | none => exact .inr ⟨List.cons_ne_nil _ _, rfl⟩

/-- A search that notices nothing leaves the memory. -/
theorem searchChecked_memory_of_quiet
    (quiet : (memory.searchChecked without missing entry leadsTo stale).notices = []) :
    (memory.searchChecked without missing entry leadsTo stale).memory = memory :=
  (searchChecked_memory.resolve_right (fun noticed => noticed.1 quiet)).1

/-- A search that notices a stale entry drops it. -/
theorem searchChecked_memory_of_noticed
    (noticed :
      (memory.searchChecked without missing entry leadsTo stale).notices ≠ []) :
    (memory.searchChecked without missing entry leadsTo stale).memory = without :=
  (searchChecked_memory.resolve_left (fun quiet => noticed quiet.2)).2

end

/-! ## The searches of a memory -/

/-- Following an index is a checked search. -/
theorem follow_eq (memory : Memory) (lookup : Lookup) (key : String) :
    memory.follow lookup key =
      memory.searchChecked
        { memory with
          indices := memory.indices.modify lookup
            (·.erase (lookup.normalize key)) }
        (.notFound lookup.subject key)
        ((memory.indices.get lookup).get? (lookup.normalize key))
        (fun id => (memory.accounts.get? id).filter (lookup.holds · key))
        (.staleEntry lookup.subject key) := by
  unfold follow
  split
  · rename_i absent
    rw [absent]
    rfl
  · rename_i id entry
    rw [entry, searchChecked]
    split <;> simp only [*]

/-- So is the search for a hash. -/
theorem tokenByHash_eq (memory : Memory) (hash : String) :
    memory.tokenByHash hash =
      memory.searchChecked
        { memory with tokenOfHash := memory.tokenOfHash.erase hash }
        (.notFound .hashedToken hash)
        (memory.tokenOfHash.get? hash)
        (Option.guard (memory.hasToken · hash))
        .staleHash := by
  unfold tokenByHash
  split
  · rename_i absent
    rw [absent]
    rfl
  · rename_i token entry
    rw [entry, searchChecked]
    split <;> simp [Option.guard, *]

/-- And so is the search for a token. -/
theorem userByToken_eq (memory : Memory) (token : String) :
    memory.userByToken token =
      memory.searchChecked
        { memory with userOfToken := memory.userOfToken.erase token }
        (.notFound .token token)
        (memory.userOfToken.get? token)
        (fun id => (memory.indexedUser? id).filter (·.tokens.contains token))
        (.staleToken token) := by
  unfold userByToken
  split
  · rename_i absent
    rw [absent]
    rfl
  · rename_i id entry
    rw [entry, searchChecked]
    split <;> simp only [*]

end Memory

end TenantStore.FileEngine
