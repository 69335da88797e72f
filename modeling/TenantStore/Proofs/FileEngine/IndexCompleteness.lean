import Mathlib.Data.List.Nodup
import TenantStore.Proofs.FileEngine.IndexBacking

namespace TenantStore.FileEngine

/-!
# Entries for every key

As long as the keys of different accounts differ, every key of an account has
its entry, and lookups take none out: what they would have to notice does not
occur. Keys that ignore letter case have to be ASCII for that, because a lookup
compares them letter by letter with the account in the end.
-/

namespace Memory

/-! ## Keys apart -/

/-- No two stored accounts share a key of a lookup. -/
def KeysApart (memory : Memory) (lookup : Lookup) : Prop :=
  memory.accounts.entries.Pairwise (fun left right =>
    ∀ key ∈ lookup.keysOf left.2, key ∉ lookup.keysOf right.2)

instance (memory : Memory) (lookup : Lookup) :
    Decidable (memory.KeysApart lookup) :=
  inferInstanceAs (Decidable (List.Pairwise _ _))

/-- Every stored token, with its user and the place of its account. -/
def heldTokens (memory : Memory) : List (String × User × AccessToken) :=
  memory.accounts.entries.flatMap (fun entry =>
    (tokensOf entry.2).map (fun held => (entry.1, held)))

/-- No two stored tokens share an identifier or a hash. -/
def TokensApart (memory : Memory) : Prop :=
  (memory.heldTokens.map (·.2.2.id)).Nodup ∧
    (memory.heldTokens.map (·.2.2.hashedToken)).Nodup

instance (memory : Memory) : Decidable memory.TokensApart :=
  inferInstanceAs (Decidable (_ ∧ _))

/-- The stored accounts that share a key are one. -/
theorem KeysApart.slot_eq
    {memory : Memory}
    {lookup : Lookup}
    (apart : memory.KeysApart lookup)
    {leftSlot rightSlot key : String}
    {left right : Account}
    (leftFound : memory.accounts.get? leftSlot = some left)
    (rightFound : memory.accounts.get? rightSlot = some right)
    (leftListed : key ∈ lookup.keysOf left)
    (rightListed : key ∈ lookup.keysOf right) :
    leftSlot = rightSlot := by
  have together : ∀ ⦃left⦄, left ∈ memory.accounts.entries →
      ∀ ⦃right⦄, right ∈ memory.accounts.entries →
        ∀ key, key ∈ lookup.keysOf left.2 → key ∈ lookup.keysOf right.2 →
          left.1 = right.1 :=
    List.Pairwise.forall_of_forall_of_flip
      (fun _ _ _ _ _ => rfl)
      (apart.imp (fun disjoint key listed other =>
        absurd other (disjoint key listed)))
      (apart.imp (fun disjoint key other listed =>
        absurd other (disjoint key listed)))
  exact together (Dict.get?_eq_some_iff.mp leftFound)
    (Dict.get?_eq_some_iff.mp rightFound) key leftListed rightListed

/-- The tokens of a stored account are held. -/
theorem mem_heldTokens
    {memory : Memory}
    {slot : String}
    {account : Account}
    (found : memory.accounts.get? slot = some account)
    {held : User × AccessToken}
    (member : held ∈ tokensOf account) :
    (slot, held) ∈ memory.heldTokens :=
  List.mem_flatMap.mpr ⟨(slot, account), Dict.get?_eq_some_iff.mp found,
    List.mem_map.mpr ⟨held, member, rfl⟩⟩

/-- Stored tokens with one key in an index of tokens are one token. -/
theorem TokensApart.held_eq
    {memory : Memory}
    (apart : memory.TokensApart)
    (which : TokenIndex)
    {left right : String × User × AccessToken}
    (leftMember : left ∈ memory.heldTokens)
    (rightMember : right ∈ memory.heldTokens)
    (same : (which.entry left.2).1 = (which.entry right.2).1) :
    left = right := by
  cases which with
  | byHash => exact List.inj_on_of_nodup_map apart.2 leftMember rightMember same
  | byToken => exact List.inj_on_of_nodup_map apart.1 leftMember rightMember same

/-- Entries of stored accounts with one key are one, and of one account. -/
theorem TokensApart.entry_eq
    {memory : Memory}
    (apart : memory.TokensApart)
    {which : TokenIndex}
    {leftSlot rightSlot key leftValue rightValue : String}
    {left right : Account}
    (leftFound : memory.accounts.get? leftSlot = some left)
    (rightFound : memory.accounts.get? rightSlot = some right)
    (leftListed : (key, leftValue) ∈ which.entriesOf left)
    (rightListed : (key, rightValue) ∈ which.entriesOf right) :
    leftSlot = rightSlot ∧ leftValue = rightValue := by
  rw [TokenIndex.entriesOf_eq] at leftListed rightListed
  obtain ⟨leftHeld, leftMember, leftEntry⟩ := List.mem_map.mp leftListed
  obtain ⟨rightHeld, rightMember, rightEntry⟩ := List.mem_map.mp rightListed
  have same : (leftSlot, leftHeld) = (rightSlot, rightHeld) :=
    apart.held_eq which (mem_heldTokens leftFound leftMember)
      (mem_heldTokens rightFound rightMember) (by rw [leftEntry, rightEntry])
  obtain ⟨slotSame, heldSame⟩ := Prod.mk.inj same
  subst heldSame
  rw [leftEntry] at rightEntry
  exact ⟨slotSame, congrArg Prod.snd rightEntry⟩

/-! ## Nothing to notice -/

/-- Looking up a key of a backed index that tells keys apart notices nothing. -/
theorem follow_quiet
    {memory : Memory}
    (filed : memory.Filed)
    (backed : memory.Backed)
    {lookup : Lookup}
    {key : String}
    (ascii : lookup.ignoresCase = true →
      Text.isAscii key = true ∧
        ∀ slot account, memory.accounts.get? slot = some account →
          account.HasAsciiKeys) :
    (memory.follow lookup key).notices = [] := by
  by_contra noticed
  obtain ⟨id, entry, stale⟩ := follow_notices_iff.mp noticed
  obtain ⟨account, stored, listed⟩ := backed.accounts entry
  have names : lookup.Names account key :=
    (Lookup.names_iff_mem_keysOf (fun ignores =>
      ⟨(ascii ignores).2 id account stored, (ascii ignores).1⟩)).mpr listed
  have holds := names.holds (filed.normal stored)
  rw [stale account stored] at holds
  cases holds

/-- A stored token is the one that its account is asked for by its identifier. -/
theorem holdsHash_of_entry
    {memory : Memory}
    (filed : memory.Filed)
    (apart : memory.TokensApart)
    {slot hash token : String}
    {account : Account}
    (stored : memory.accounts.get? slot = some account)
    (listed : (hash, token) ∈ hashEntries account) :
    HoldsHash account token hash := by
  have normal := filed.normal stored
  obtain ⟨id, user, held, userFound, heldToken, sameHash⟩ :=
    (mem_hashEntries_iff normal).mp listed
  have present : (account.userByToken? token).isSome = true :=
    Dict.find?_isSome_iff.mpr
      ⟨id, user, userFound, Dict.contains_iff.mpr ⟨held, heldToken⟩⟩
  obtain ⟨first, firstFound⟩ := Option.isSome_iff_exists.mp present
  obtain ⟨⟨firstId, firstStored⟩, contains⟩ := Dict.find?_some firstFound
  obtain ⟨firstHeld, firstToken⟩ := Dict.contains_iff.mp contains
  have same : (slot, first, firstHeld) = (slot, user, held) :=
    apart.held_eq .byToken
      (mem_heldTokens stored (mem_tokensOf_iff.mpr
        ⟨firstId, token, firstStored, firstToken⟩))
      (mem_heldTokens stored (mem_tokensOf_iff.mpr
        ⟨id, token, userFound, heldToken⟩))
      ((normal.token_id firstStored firstToken).trans
        (normal.token_id userFound heldToken).symm)
  cases same
  exact ⟨user, held, firstFound, heldToken, sameHash⟩

/-- A search for a hash notices nothing while no two tokens share one. -/
theorem tokenByHash_quiet
    {memory : Memory}
    (filed : memory.Filed)
    (backed : memory.Backed)
    (apart : memory.TokensApart)
    (hash : String) :
    (memory.tokenByHash hash).notices = [] := by
  by_contra noticed
  obtain ⟨token, entry, stale⟩ := tokenByHash_notices_iff.mp noticed
  obtain ⟨slot, account, stored, listed⟩ :=
    @Backed.tokens memory backed .byHash hash token entry
  have live : memory.hasToken token hash = true :=
    hasToken_iff.mpr
      ⟨slot, account, stored, holdsHash_of_entry filed apart stored listed⟩
  rw [stale] at live
  cases live

/-! ## Every key has its entry -/

/-- Every key of a stored account leads to it. -/
def Complete (memory : Memory) (lookup : Lookup) : Prop :=
  ∀ ⦃slot key : String⦄ ⦃account : Account⦄,
    memory.accounts.get? slot = some account →
      key ∈ lookup.keysOf account →
        (memory.indices.get lookup).get? key = some slot

/-- Every entry of a stored token is in its index. -/
def TokensComplete (memory : Memory) (which : TokenIndex) : Prop :=
  ∀ ⦃slot key value : String⦄ ⦃account : Account⦄,
    memory.accounts.get? slot = some account →
      (key, value) ∈ which.entriesOf account →
        (memory.tokenIndex which).get? key = some value

/-- A search for a token notices nothing while every user can be found. -/
theorem userByToken_quiet
    {memory : Memory}
    (filed : memory.Filed)
    (backed : memory.Backed)
    (complete : memory.Complete .user)
    (token : String) :
    (memory.userByToken token).notices = [] := by
  by_contra noticed
  obtain ⟨id, entry, stale⟩ := userByToken_notices_iff.mp noticed
  obtain ⟨slot, account, stored, listed⟩ :=
    @Backed.tokens memory backed .byToken token id entry
  have normal := filed.normal stored
  obtain ⟨user, held, userFound, heldToken⟩ :=
    (mem_tokenEntries_iff normal).mp listed
  have known : id ∈ Lookup.user.keysOf account :=
    List.mem_map.mpr
      ⟨user, Dict.mem_values_iff.mpr ⟨id, userFound⟩, normal.user_id userFound⟩
  have contains := stale user (indexedUser?_eq_some_iff.mpr
    ⟨slot, account, complete stored known, stored, userFound⟩)
  rw [Dict.contains_iff.mpr ⟨held, heldToken⟩] at contains
  cases contains

/-- Without accounts every index is complete. -/
theorem complete_empty (lookup : Lookup) : Memory.empty.Complete lookup := by
  intro slot key account found
  cases found

namespace Complete

variable {memory : Memory} {lookup : Lookup}

/-- An index stays complete if the saved account shares no key with another one. -/
theorem save
    (complete : memory.Complete lookup)
    (filed : memory.Filed)
    {account : Account}
    (apart : (memory.save account).KeysApart lookup) :
    (memory.save account).Complete lookup := by
  intro slot key stored found listed
  rw [index_save]
  have newStored :
      (memory.save account).accounts.get? account.id = some account.normalized := by
    simp
  by_cases claimed : key ∈ lookup.keysOf account.normalized
  · rw [if_pos claimed, apart.slot_eq newStored found claimed listed]
  · have foreign : account.id ≠ slot := by
      rintro rfl
      rw [newStored, Option.some.injEq] at found
      exact claimed (found ▸ listed)
    rw [accounts_save, if_neg foreign] at found
    rw [if_neg claimed, index_drop_iff filed]
    exact ⟨complete found listed, fun _ _ both => foreign both.2.symm⟩

/-- An index stays complete without an account. -/
theorem delete
    (complete : memory.Complete lookup)
    (filed : memory.Filed)
    (account : Account) :
    (memory.delete account).Complete lookup := by
  intro slot key stored found listed
  rw [accounts_delete] at found
  split at found
  · cases found
  · rename_i foreign
    exact (index_delete_iff filed).mpr
      ⟨complete found listed, fun same => foreign same.symm⟩

/-- Every call keeps an index complete if keys differ and nothing is noticed. -/
theorem effect
    (complete : memory.Complete lookup)
    (filed : memory.Filed)
    (backed : memory.Backed)
    {call : Call}
    {after : Memory}
    (effect : Effect memory call after)
    (apart : after.KeysApart lookup)
    (quiet : lookup.ignoresCase = true → ∀ key, call = .find lookup key →
      (memory.follow lookup key).notices = []) :
    after.Complete lookup := by
  cases effect with
  | saved account named => exact complete.save filed apart
  | deleted account named => exact complete.delete filed account
  | touched stored same =>
      intro slot key later found listed
      obtain ⟨account, accountFound, keysSame⟩ :=
        touched_of_stored stored same found
      exact complete accountFound (keysSame.keys lookup ▸ listed)
  | healed other key stale asks =>
      intro slot key' account found listed
      rw [Indices.get_modify]
      split
      · rename_i sameLookup
        subst sameLookup
        -- Only lookups that ignore case can be mistaken about an entry.
        cases ignores : lookup.ignoresCase with
        | false =>
            exact absurd (follow_quiet filed backed
              (fun case => absurd (ignores.symm.trans case) Bool.false_ne_true))
              stale
        | true =>
            rcases asks with asked | ⟨_, rfl⟩
            · exact absurd (quiet ignores key asked) stale
            · cases ignores
      · exact complete found listed
  | kept => exact complete
  | healedHash hash stale => exact complete
  | healedToken token stale => exact complete
  | droppedHash hash => exact complete
  | droppedToken token => exact complete
  | installed id => exact complete

end Complete

namespace TokensComplete

variable {memory : Memory} {which : TokenIndex}

/-- The indices of tokens stay complete if no two accounts share a token. -/
theorem save
    (complete : memory.TokensComplete which)
    (apart : memory.TokensApart)
    {account : Account}
    (apartAfter : (memory.save account).TokensApart) :
    (memory.save account).TokensComplete which := by
  intro slot key value stored found listed
  have newStored :
      (memory.save account).accounts.get? account.id = some account.normalized := by
    simp
  rw [tokenIndex_save]
  by_cases claimed : key ∈ (which.entriesOf account.normalized).map Prod.fst
  · obtain ⟨newValue, newListed, entry⟩ := exists_get?_addEntries
      ((memory.drop account.id).tokenIndex which) claimed
    rw [entry, (apartAfter.entry_eq newStored found newListed listed).2]
  · have foreign : account.id ≠ slot := by
      rintro rfl
      rw [newStored, Option.some.injEq] at found
      exact claimed (List.mem_map.mpr ⟨(key, value), found ▸ listed, rfl⟩)
    rw [accounts_save, if_neg foreign] at found
    rw [get?_addEntries_of_absent claimed, tokenIndex_drop_iff]
    refine ⟨complete found listed, ?_⟩
    intro old oldFound oldListed
    exact foreign (apart.entry_eq oldFound found oldListed listed).1

/-- The indices of tokens stay complete if the deleted account had its tokens alone. -/
theorem delete
    (complete : memory.TokensComplete which)
    (apart : memory.TokensApart)
    {account : Account}
    (own : ∀ slot other, slot ≠ account.id →
      memory.accounts.get? slot = some other →
        ∀ entry ∈ which.entriesOf other, entry ∉ which.entriesOf account) :
    (memory.delete account).TokensComplete which := by
  intro slot key value stored found listed
  rw [accounts_delete] at found
  split at found
  · cases found
  · rename_i foreign
    refine tokenIndex_delete_iff.mpr ⟨complete found listed, ?_, ?_⟩
    · intro old oldFound oldListed
      exact foreign (apart.entry_eq oldFound found oldListed listed).1
    · exact own slot stored (fun same => foreign same.symm) found _ listed

end TokensComplete

end Memory

end TenantStore.FileEngine
