import TenantStore.FileEngine.Migration
import TenantStore.Proofs.FileEngine.IndexExactness

namespace TenantStore.FileEngine

/-!
# Indices made anew from accounts

An index is made anew by entering what each account is found by, account after
account. A key then leads to the last account that has it, so such an index
depends only on which accounts have which keys. While accounts share no keys
the indices made anew are the exact ones.
-/

namespace Migration

/-! ## What a lookup finds -/

theorem addEntries_keys (id : String) (keys : List String) (index : Dict String) :
    Memory.addEntries (keys.map (fun key => (key, id))) index = addKeys id keys index := by
  rw [Memory.addEntries, addKeys, List.foldl_map]

/-- Entering what accounts have after a change is entering what they will have. -/
theorem enterAll_mapValues
    (entriesOf : String → Account → List (String × String))
    (accounts : Dict Account)
    (change : String → Account → Account)
    (index : Dict String) :
    enterAll entriesOf (accounts.mapValues change) index =
      enterAll (fun slot account => entriesOf slot (change slot account)) accounts index :=
  List.foldl_map

/-- Entries that accounts enter are added one account after the other. -/
theorem enterAll_eq_addEntries
    (entriesOf : String → Account → List (String × String))
    (accounts : Dict Account)
    (index : Dict String) :
    enterAll entriesOf accounts index =
      Memory.addEntries
        (accounts.entries.flatMap (fun entry => entriesOf entry.1 entry.2)) index := by
  rw [enterAll, Memory.addEntries, List.foldl_flatMap]
  rfl

/-- A key leads to the last account that has it, or to where it led before. -/
theorem get?_enterAll_keys
    (keysOf : String → Account → List String)
    (accounts : Dict Account)
    (index : Dict String)
    (key : String) :
    (enterAll (fun slot account => (keysOf slot account).map (fun key => (key, slot)))
        accounts index).get? key =
      ((accounts.entries.reverse.find? (fun entry =>
        key ∈ keysOf entry.1 entry.2)).map Prod.fst).or (index.get? key) := by
  rw [enterAll]
  generalize accounts.entries = entries
  induction entries generalizing index with
  | nil => rfl
  | cons head rest inductionHypothesis =>
      rw [List.foldl_cons, inductionHypothesis, addEntries_keys, get?_addKeys,
        List.reverse_cons, List.find?_append]
      by_cases has : key ∈ keysOf head.1 head.2 <;>
        cases List.find? (fun entry => decide (key ∈ keysOf entry.1 entry.2)) rest.reverse <;>
          simp [has]

/-- Of two tests that nothing passes both of, one finds what either finds. -/
theorem find?_or_of_apart
    {entries : List α}
    {first second : α → Bool}
    (apart : ∀ left ∈ entries, ∀ right ∈ entries,
      first left = true → second right = false) :
    (entries.find? first).or (entries.find? second) =
      entries.find? (fun entry => first entry || second entry) := by
  induction entries with
  | nil => rfl
  | cons head rest inductionHypothesis =>
      have restApart := inductionHypothesis (fun left leftMember right rightMember =>
        apart left (List.mem_cons_of_mem _ leftMember)
          right (List.mem_cons_of_mem _ rightMember))
      cases passesSecond : second head with
      | false => cases passesFirst : first head <;> simp [passesFirst, passesSecond, restApart]
      | true =>
          have noFirst : ∀ left ∈ head :: rest, ¬first left = true := by
            intro left member passes
            have fails := apart left member head List.mem_cons_self passes
            rw [passesSecond] at fails
            cases fails
          rw [List.find?_eq_none.mpr noFirst, Option.none_or]
          simp [passesSecond]

/-- Entering keys depends only on which accounts have which of them. -/
theorem enterAll_keys_congr
    {left right : String → Account → List String}
    {accounts : Dict Account}
    (index : Dict String)
    (same : ∀ entry ∈ accounts.entries, ∀ key,
      key ∈ left entry.1 entry.2 ↔ key ∈ right entry.1 entry.2) :
    enterAll (fun slot account => (left slot account).map (fun key => (key, slot)))
        accounts index =
      enterAll (fun slot account => (right slot account).map (fun key => (key, slot)))
        accounts index := by
  apply Dict.ext_get?
  intro key
  rw [get?_enterAll_keys, get?_enterAll_keys, ← List.head?_filter, ← List.head?_filter]
  congr 3
  apply List.filter_congr
  intro entry member
  exact decide_eq_decide.mpr (same entry (List.mem_reverse.mp member) key)

/-- Entering keys in two passes is entering them in one, if no two accounts compete. -/
theorem enterAll_keys_append
    {first second : String → Account → List String}
    {accounts : Dict Account}
    (index : Dict String)
    (apart : ∀ left ∈ accounts.entries, ∀ right ∈ accounts.entries, ∀ key,
      key ∈ second left.1 left.2 → key ∉ first right.1 right.2) :
    enterAll (fun slot account => (second slot account).map (fun key => (key, slot))) accounts
        (enterAll (fun slot account => (first slot account).map (fun key => (key, slot)))
          accounts index) =
      enterAll (fun slot account =>
        (second slot account ++ first slot account).map (fun key => (key, slot)))
          accounts index := by
  apply Dict.ext_get?
  intro key
  rw [get?_enterAll_keys, get?_enterAll_keys, get?_enterAll_keys, ← Option.or_assoc,
    ← Option.map_or, find?_or_of_apart]
  · simp only [List.mem_append, Bool.decide_or]
  · intro left leftMember right rightMember has
    exact decide_eq_false (apart left (List.mem_reverse.mp leftMember)
      right (List.mem_reverse.mp rightMember) key (of_decide_eq_true has))

end Migration

/-! ## Memories made from accounts -/

namespace Memory

/-- Memories with the same accounts and the same indices are equal. -/
theorem ext_lookups
    {left right : Memory}
    (accounts : left.accounts = right.accounts)
    (installation : left.installation = right.installation)
    (indices : ∀ lookup, left.indices.get lookup = right.indices.get lookup)
    (tokens : ∀ which, left.tokenIndex which = right.tokenIndex which) :
    left = right := by
  cases left
  cases right
  simp only [mk.injEq]
  exact ⟨accounts, Indices.ext_get indices, tokens .byHash, tokens .byToken, installation⟩

/-- The memory of some accounts, with every index made from them alone. -/
def ofAccounts (accounts : Dict Account) (installation : String) : Memory where
  accounts := accounts
  indices := .of (fun lookup => Migration.enterAll (Migration.keyEntries lookup) accounts ∅)
  tokenOfHash := Migration.enterAll (fun _ => hashEntries) accounts ∅
  userOfToken := Migration.enterAll (fun _ => tokenEntries) accounts ∅
  installation := installation

theorem tokenIndex_ofAccounts
    (accounts : Dict Account)
    (installation : String)
    (which : TokenIndex) :
    (ofAccounts accounts installation).tokenIndex which =
      Migration.enterAll (fun _ => which.entriesOf) accounts ∅ := by
  cases which <;> rfl

theorem get?_indices_ofAccounts
    (accounts : Dict Account)
    (installation : String)
    (lookup : Lookup)
    (key : String) :
    ((ofAccounts accounts installation).indices.get lookup).get? key =
      (accounts.entries.reverse.find? (fun entry =>
        key ∈ lookup.keysOf entry.2)).map Prod.fst := by
  have found := Migration.get?_enterAll_keys (fun _ => lookup.keysOf) accounts ∅ key
  rw [show (∅ : Dict String).get? key = none from rfl, Option.or_none] at found
  rw [ofAccounts, Indices.get_of]
  exact found

/-- Indices made anew contain nothing that is not there. -/
theorem backed_ofAccounts (accounts : Dict Account) (installation : String) :
    (ofAccounts accounts installation).Backed where
  accounts := by
    intro lookup key id found
    rw [get?_indices_ofAccounts, Option.map_eq_some_iff] at found
    obtain ⟨⟨slot, account⟩, entryFound, rfl⟩ := found
    have member := List.mem_reverse.mp (List.mem_of_find?_eq_some entryFound)
    have listed := List.find?_some entryFound
    exact ⟨account, Dict.get?_eq_some_iff.mpr member, of_decide_eq_true listed⟩
  tokens := by
    intro which key value found
    rw [tokenIndex_ofAccounts, Migration.enterAll_eq_addEntries] at found
    rcases mem_or_get?_of_addEntries found with added | ⟨_, before⟩
    · obtain ⟨⟨slot, account⟩, member, listed⟩ := List.mem_flatMap.mp added
      exact ⟨slot, account, Dict.get?_eq_some_iff.mpr member, listed⟩
    · cases before

/-- While accounts share no keys, indices made anew contain all that is there. -/
theorem exact_ofAccounts
    {accounts : Dict Account}
    {installation : String}
    (keysApart : ∀ lookup, (ofAccounts accounts installation).KeysApart lookup)
    (tokensApart : (ofAccounts accounts installation).TokensApart) :
    (ofAccounts accounts installation).Exact where
  backed := backed_ofAccounts accounts installation
  complete := by
    intro lookup slot key account stored listed
    have present : ((ofAccounts accounts installation).indices.get lookup).get? key ≠ none := by
      rw [get?_indices_ofAccounts, Ne, Option.map_eq_none_iff, List.find?_eq_none]
      intro missing
      exact missing (slot, account)
        (List.mem_reverse.mpr (Dict.get?_eq_some_iff.mp stored)) (by simpa using listed)
    obtain ⟨id, found⟩ := Option.ne_none_iff_exists'.mp present
    obtain ⟨other, otherStored, otherListed⟩ :=
      (backed_ofAccounts accounts installation).accounts found
    rw [found, (keysApart lookup).slot_eq otherStored stored otherListed listed]
  tokensComplete := by
    intro which slot key value account stored listed
    have entered : (key, value) ∈ accounts.entries.flatMap (fun entry =>
        which.entriesOf entry.2) :=
      List.mem_flatMap.mpr ⟨(slot, account), Dict.get?_eq_some_iff.mp stored, listed⟩
    obtain ⟨last, lastEntered, found⟩ :=
      exists_get?_addEntries ∅ (List.mem_map.mpr ⟨(key, value), entered, rfl⟩)
    obtain ⟨⟨otherSlot, other⟩, otherMember, otherListed⟩ := List.mem_flatMap.mp lastEntered
    have same := tokensApart.entry_eq (Dict.get?_eq_some_iff.mpr otherMember) stored
      otherListed listed
    rw [tokenIndex_ofAccounts, Migration.enterAll_eq_addEntries, found, same.2]

/-! ## Memories that are loaded -/

/-- Accounts under their identifiers are listed in the order in which they are kept. -/
theorem all_eq_values {memory : Memory} (filed : memory.accounts.FiledBy Account.id) :
    memory.all = memory.accounts.values := by
  apply List.mergeSort_of_pairwise
  have keys := memory.accounts.pairwise_lt_keys
  rw [← filed.map_values_eq_keys, List.pairwise_map] at keys
  apply keys.imp
  intro left right before
  exact decide_eq_true (Std.le_of_lt before)

/-- Every component of a memory is entered account by account. -/
theorem foldl_put_index
    {accounts : Dict Account}
    (filed : accounts.FiledBy Account.id)
    (memory : Memory) :
    let loaded := accounts.values.foldl (fun memory account =>
      (memory.index account.id account).put account) memory
    loaded.accounts =
        accounts.entries.foldl (fun dict entry => dict.insert entry.1 entry.2) memory.accounts ∧
      loaded.installation = memory.installation ∧
      (∀ lookup, loaded.indices.get lookup =
        Migration.enterAll (Migration.keyEntries lookup) accounts (memory.indices.get lookup)) ∧
      ∀ which, loaded.tokenIndex which =
        Migration.enterAll (fun _ => which.entriesOf) accounts (memory.tokenIndex which) := by
  simp only [Migration.enterAll, ← filed.map_values_eq_entries, List.foldl_map]
  induction accounts.values generalizing memory with
  | nil => exact ⟨rfl, rfl, fun _ => rfl, fun _ => rfl⟩
  | cons account rest inductionHypothesis =>
      obtain ⟨stored, named, indices, tokens⟩ :=
        inductionHypothesis ((memory.index account.id account).put account)
      refine ⟨stored, named, fun lookup => ?_, fun which => ?_⟩
      · have entered : ((memory.index account.id account).put account).indices.get lookup =
            addKeys account.id (lookup.keysOf account) (memory.indices.get lookup) :=
          Indices.get_addAccount _ _ _ _
        rw [List.foldl_cons, List.foldl_cons, indices, Migration.keyEntries,
          Migration.addEntries_keys, entered]
      · rw [List.foldl_cons, List.foldl_cons, tokens]
        cases which <;> rfl

/-- Loading accounts is making a memory from them. -/
theorem load_eq_ofAccounts
    {accounts : Dict Account}
    (filed : accounts.FiledBy Account.id)
    (installation : String) :
    load accounts.values installation = ofAccounts accounts installation := by
  obtain ⟨stored, named, indices, tokens⟩ :=
    foldl_put_index filed { installation := installation }
  apply ext_lookups
  · exact stored.trans (Dict.ofList_entries accounts)
  · exact named
  · intro lookup
    rw [load, indices, ofAccounts, Indices.get_of]
    cases lookup <;> rfl
  · intro which
    rw [load, tokens, tokenIndex_ofAccounts]
    cases which <;> rfl

end Memory

end TenantStore.FileEngine
