import TenantStore.Proofs.FileEngine.IndexCompleteness

namespace TenantStore.FileEngine

/-!
# What lookups do to later lookups

A lookup that finds an entry stale takes it out, and so might change what a
later lookup answers. Entries are found by keys in comparable form but judged
by the account's own comparison, which folds ASCII letters only. A key that is
spelled differently beyond that takes out a live entry, and
`reads_disturb_reads_iff` shows that nothing else is ever disturbed.
-/

/-- Calls that only ask. -/
def Reads : Call → Prop
  | .get _ => True
  | .all => True
  | .find _ _ => True
  | .idByPeerKey _ => True
  | .tokenByHash _ => True
  | .userByToken _ => True
  | .installation => True
  | _ => False

/-- A call that follows the index of a lookup to an account. -/
def Follows (call : Call) (lookup : Lookup) (key : String) : Prop :=
  call = .find lookup key ∨ call = .idByPeerKey key ∧ lookup = .peerKey

namespace Memory

/-! ## What searches find -/

/-- The account that a lookup leads to, with the identifier in the index. -/
def found? (memory : Memory) (lookup : Lookup) (key : String) :
    Option (String × Account) :=
  ((memory.indices.get lookup).get? (lookup.normalize key)).bind (fun id =>
    ((memory.accounts.get? id).filter (lookup.holds · key)).map (fun account =>
      (id, account)))

theorem follow_found_eq (memory : Memory) (lookup : Lookup) (key : String) :
    (memory.follow lookup key).found =
      (memory.found? lookup key).elim
        (.error (.notFound lookup.subject key)) (fun found => .ok found.2) := by
  rw [follow_eq, searchChecked_found, found?]
  cases (memory.indices.get lookup).get? (lookup.normalize key) with
  | none => rfl
  | some id =>
      simp only [Option.bind_some, Option.elim_map]
      rfl

theorem followId_found_eq (memory : Memory) (lookup : Lookup) (key : String) :
    (memory.followId lookup key).found =
      (memory.found? lookup key).elim
        (.error (.notFound lookup.subject key)) (fun found => .ok found.1) := by
  simp only [followId, follow_found_eq, found?]
  cases (memory.indices.get lookup).get? (lookup.normalize key) with
  | none => rfl
  | some id =>
      simp only [Option.bind_some]
      cases (memory.accounts.get? id).filter (lookup.holds · key) <;> rfl

theorem tokenByHash_found_eq (memory : Memory) (hash : String) :
    (memory.tokenByHash hash).found =
      ((memory.tokenOfHash.get? hash).filter (memory.hasToken · hash)).elim
        (.error (.notFound .hashedToken hash)) .ok := by
  rw [tokenByHash_eq, searchChecked_found, Option.bind_guard]

theorem userByToken_found_eq (memory : Memory) (token : String) :
    (memory.userByToken token).found =
      ((memory.userOfToken.get? token).bind (fun id =>
        (memory.indexedUser? id).filter (·.tokens.contains token))).elim
        (.error (.notFound .token token)) .ok := by
  rw [userByToken_eq, searchChecked_found]

/-- What a search notices, it does not find. -/
theorem found?_eq_none_of_noticed
    {memory : Memory}
    {lookup : Lookup}
    {key : String}
    (noticed : (memory.follow lookup key).notices ≠ []) :
    memory.found? lookup key = none := by
  obtain ⟨id, entry, stale⟩ := follow_notices_iff.mp noticed
  rw [found?, entry, Option.bind_some]
  cases stored : memory.accounts.get? id with
  | none => rfl
  | some account => simp [Option.filter, stale account stored]

/-! ## Answers that depend on nothing else -/

/-- Reads answer alike where they find alike. -/
theorem outcome_eq_of_found_eq
    {memory after : Memory}
    {call : Call}
    (reads : Reads call)
    (accounts : after.accounts = memory.accounts)
    (installation : after.installation = memory.installation)
    (followed : ∀ lookup key, Follows call lookup key →
      after.found? lookup key = memory.found? lookup key)
    (hashed : ∀ hash, call = .tokenByHash hash →
      (after.tokenByHash hash).found = (memory.tokenByHash hash).found)
    (tokened : ∀ token, call = .userByToken token →
      (after.userByToken token).found = (memory.userByToken token).found) :
    (after.perform call).outcome = (memory.perform call).outcome := by
  cases call with
  | get id =>
      show (after.account? id).map Answer.account = (memory.account? id).map _
      rw [account?, account?, accounts]
  | all =>
      show Except.ok (Answer.accounts after.all) = .ok (.accounts memory.all)
      rw [all, all, accounts]
  | find lookup key =>
      show (after.follow lookup key).found.map Answer.account =
        (memory.follow lookup key).found.map _
      rw [follow_found_eq, follow_found_eq, followed lookup key (.inl rfl)]
  | idByPeerKey key =>
      show (after.followId .peerKey key).found.map Answer.text =
        (memory.followId .peerKey key).found.map _
      rw [followId_found_eq, followId_found_eq,
        followed .peerKey key (.inr ⟨rfl, rfl⟩)]
  | tokenByHash hash =>
      show (after.tokenByHash hash).found.map Answer.text =
        (memory.tokenByHash hash).found.map _
      rw [hashed hash rfl]
  | userByToken token =>
      show (after.userByToken token).found.map Answer.user =
        (memory.userByToken token).found.map _
      rw [tokened token rfl]
  | installation =>
      show Except.ok (Answer.text after.installation) =
        .ok (.text memory.installation)
      rw [installation]
  | _ => exact reads.elim

/-! ## Taking entries out -/

/-- The memory without the index entry that a key leads to. -/
def withoutEntry (memory : Memory) (lookup : Lookup) (key : String) : Memory :=
  { memory with
    indices := memory.indices.modify lookup (·.erase (lookup.normalize key)) }

theorem found?_withoutEntry
    (memory : Memory)
    (lookup other : Lookup)
    (key otherKey : String) :
    (memory.withoutEntry lookup key).found? other otherKey =
      if other = lookup ∧ lookup.normalize key = other.normalize otherKey then
        none
      else
        memory.found? other otherKey := by
  simp only [found?, withoutEntry, Indices.get_modify]
  by_cases sameLookup : other = lookup
  · by_cases sameKey : lookup.normalize key = other.normalize otherKey
    · simp [sameLookup, sameLookup ▸ sameKey]
    · rw [if_pos sameLookup, Dict.get?_erase, if_neg sameKey,
        if_neg (fun both => sameKey both.2)]
  · rw [if_neg sameLookup, if_neg (fun both => sameLookup both.1)]

/-- A stale entry of a user leads to no user, as does a missing one. -/
theorem indexedUser?_withoutEntry
    {memory : Memory}
    {lookup : Lookup}
    {key : String}
    (noticed : (memory.follow lookup key).notices ≠ [])
    (id : String) :
    (memory.withoutEntry lookup key).indexedUser? id = memory.indexedUser? id := by
  have entries : ((memory.withoutEntry lookup key).indices.get .user).get? id =
      if .user = lookup ∧ lookup.normalize key = id then none
      else (memory.indices.get .user).get? id := by
    simp only [withoutEntry, Indices.get_modify]
    by_cases sameLookup : .user = lookup
    · rw [if_pos sameLookup, Dict.get?_erase]
      simp [sameLookup]
    · rw [if_neg sameLookup, if_neg (fun both => sameLookup both.1)]
  apply Option.ext
  intro user
  rw [indexedUser?_eq_some_iff, indexedUser?_eq_some_iff, entries]
  constructor
  · rintro ⟨slot, account, entry, stored, found⟩
    split at entry
    · cases entry
    · exact ⟨slot, account, entry, stored, found⟩
  · rintro ⟨slot, account, entry, stored, found⟩
    refine ⟨slot, account, ?_, stored, found⟩
    rw [if_neg, entry]
    rintro ⟨rfl, rfl⟩
    obtain ⟨owner, ownerEntry, stale⟩ := follow_notices_iff.mp noticed
    rw [show Lookup.user.normalize key = key from rfl] at entry found
    rw [show Lookup.user.normalize key = key from rfl, entry,
      Option.some.injEq] at ownerEntry
    have absent : account.users.contains key = false :=
      stale account (ownerEntry ▸ stored)
    rw [Dict.contains_iff.mpr ⟨user, found⟩] at absent
    cases absent

/-- One lookup takes out the entry by which another would find an account. -/
def Disturbs (memory : Memory) (first second : Call) : Prop :=
  ∃ lookup misspelt spelt account,
    first = .find lookup misspelt ∧ second = .find lookup spelt ∧
      lookup.normalize misspelt = lookup.normalize spelt ∧
      (memory.follow lookup misspelt).notices ≠ [] ∧
      (memory.follow lookup spelt).found = .ok account

theorem follow_found_iff_found?
    {memory : Memory}
    {lookup : Lookup}
    {key : String}
    {account : Account} :
    (memory.follow lookup key).found = .ok account ↔
      ∃ id, memory.found? lookup key = some (id, account) := by
  rw [follow_found_eq]
  cases memory.found? lookup key with
  | none => simp
  | some found =>
      simp only [Option.elim_some, Except.ok.injEq, Option.some.injEq]
      constructor
      · rintro rfl
        exact ⟨found.1, rfl⟩
      · rintro ⟨id, rfl⟩
        rfl

/-- Whatever is asked after a stale entry has gone is answered as before. -/
theorem outcome_withoutEntry
    {memory : Memory}
    {first second : Call}
    {lookup : Lookup}
    {key : String}
    (follows : Follows first lookup key)
    (reads : Reads second)
    (noticed : (memory.follow lookup key).notices ≠ [])
    (undisturbed : ¬memory.Disturbs first second) :
    ((memory.withoutEntry lookup key).perform second).outcome =
      (memory.perform second).outcome := by
  refine outcome_eq_of_found_eq reads rfl rfl ?_ ?_ ?_
  · intro other otherKey otherFollows
    rw [found?_withoutEntry]
    split
    · rename_i both
      obtain ⟨rfl, sameKey⟩ := both
      rcases follows with rfl | ⟨rfl, rfl⟩
      · rcases otherFollows with rfl | ⟨rfl, rfl⟩
        · cases found : memory.found? other otherKey with
          | none => rfl
          | some pair =>
              exact absurd ⟨other, key, otherKey, pair.2, rfl, rfl, sameKey,
                noticed, follow_found_iff_found?.mpr ⟨pair.1, found⟩⟩ undisturbed
        · rw [show key = otherKey from sameKey] at noticed
          rw [found?_eq_none_of_noticed noticed]
      · rw [show key = otherKey from sameKey] at noticed
        rw [found?_eq_none_of_noticed noticed]
    · rfl
  · intro hash _
    rw [tokenByHash_found_eq, tokenByHash_found_eq]
    rfl
  · intro token _
    rw [userByToken_found_eq, userByToken_found_eq]
    simp only [indexedUser?_withoutEntry noticed]
    rfl

theorem outcome_withoutHash
    {memory : Memory}
    {hash : String}
    {second : Call}
    (reads : Reads second)
    (noticed : (memory.tokenByHash hash).notices ≠ []) :
    (({ memory with tokenOfHash := memory.tokenOfHash.erase hash } :
        Memory).perform second).outcome =
      (memory.perform second).outcome := by
  refine outcome_eq_of_found_eq reads rfl rfl (fun _ _ _ => rfl) ?_ ?_
  · intro other _
    rw [tokenByHash_found_eq, tokenByHash_found_eq, Dict.get?_erase]
    split
    · rename_i same
      obtain ⟨token, entry, stale⟩ := tokenByHash_notices_iff.mp noticed
      rw [← same, entry]
      simp [Option.filter, stale]
    · rfl
  · intro token _
    rw [userByToken_found_eq, userByToken_found_eq]
    rfl

theorem outcome_withoutToken
    {memory : Memory}
    {token : String}
    {second : Call}
    (reads : Reads second)
    (noticed : (memory.userByToken token).notices ≠ []) :
    (({ memory with userOfToken := memory.userOfToken.erase token } :
        Memory).perform second).outcome =
      (memory.perform second).outcome := by
  refine outcome_eq_of_found_eq reads rfl rfl (fun _ _ _ => rfl) ?_ ?_
  · intro hash _
    rw [tokenByHash_found_eq, tokenByHash_found_eq]
    rfl
  · intro other _
    rw [userByToken_found_eq, userByToken_found_eq, Dict.get?_erase]
    split
    · rename_i same
      obtain ⟨id, entry, stale⟩ := userByToken_notices_iff.mp noticed
      rw [← same, entry, Option.bind_some]
      cases indexed : memory.indexedUser? id with
      | none => rfl
      | some user => simp [Option.filter, stale user indexed]
    · rfl

/-- After a read the memory is the same, or without an entry found stale. -/
theorem reads_memory
    (memory : Memory)
    {call : Call}
    (reads : Reads call) :
    (memory.perform call).memory = memory ∨
      (∃ lookup key,
        Follows call lookup key ∧
          (memory.follow lookup key).notices ≠ [] ∧
          (memory.perform call).memory = memory.withoutEntry lookup key) ∨
      (∃ hash,
        call = .tokenByHash hash ∧ (memory.tokenByHash hash).notices ≠ [] ∧
          (memory.perform call).memory =
            { memory with tokenOfHash := memory.tokenOfHash.erase hash }) ∨
      ∃ token,
        call = .userByToken token ∧ (memory.userByToken token).notices ≠ [] ∧
          (memory.perform call).memory =
            { memory with userOfToken := memory.userOfToken.erase token } := by
  cases call with
  | find lookup key =>
      rcases follow_memory memory lookup key with same | ⟨noticed, without⟩
      · exact .inl same
      · exact .inr (.inl ⟨lookup, key, .inl rfl, noticed, without⟩)
  | idByPeerKey key =>
      rcases follow_memory memory .peerKey key with same | ⟨noticed, without⟩
      · exact .inl same
      · exact .inr (.inl ⟨.peerKey, key, .inr ⟨rfl, rfl⟩, noticed, without⟩)
  | tokenByHash hash =>
      rcases tokenByHash_memory memory hash with same | ⟨noticed, without⟩
      · exact .inl same
      · exact .inr (.inr (.inl ⟨hash, rfl, noticed, without⟩))
  | userByToken token =>
      rcases userByToken_memory memory token with same | ⟨noticed, without⟩
      · exact .inl same
      · exact .inr (.inr (.inr ⟨token, rfl, noticed, without⟩))
  | get id => exact .inl rfl
  | all => exact .inl rfl
  | installation => exact .inl rfl
  | _ => exact reads.elim

/-- A read is answered alike after another exactly when that took no entry. -/
theorem outcome_after_read_iff
    {memory : Memory}
    {first second : Call}
    (firstReads : Reads first)
    (secondReads : Reads second) :
    ((memory.perform first).memory.perform second).outcome =
        (memory.perform second).outcome ↔
      ¬memory.Disturbs first second := by
  constructor
  · rintro same ⟨lookup, misspelt, spelt, account, rfl, rfl, sameKey, noticed, found⟩
    rw [(outcome_find_iff).mpr found, outcome_find_iff] at same
    have without : (memory.perform (.find lookup misspelt)).memory =
        memory.withoutEntry lookup misspelt :=
      follow_memory_of_noticed noticed
    obtain ⟨id, still⟩ := follow_found_iff_found?.mp same
    rw [without, found?_withoutEntry, if_pos ⟨rfl, sameKey⟩] at still
    cases still
  · intro undisturbed
    rcases reads_memory memory firstReads with same |
      ⟨lookup, key, follows, noticed, without⟩ | ⟨hash, rfl, noticed, without⟩ |
      ⟨token, rfl, noticed, without⟩
    · rw [same]
    · rw [without]
      exact outcome_withoutEntry follows secondReads noticed undisturbed
    · rw [without]
      exact outcome_withoutHash secondReads noticed
    · rw [without]
      exact outcome_withoutToken secondReads noticed

/-! ## Runs in which identifiers differ -/

/-- Users, peers and tokens of the whole store have identifiers of their own. -/
def IdentifiersApart (memory : Memory) : Prop :=
  memory.KeysApart .user ∧ memory.KeysApart .peerId ∧ memory.TokensApart

instance (memory : Memory) : Decidable memory.IdentifiersApart :=
  inferInstanceAs (Decidable (_ ∧ _))

/-- While identifiers differ, every stored user has its entry. -/
theorem Reached.complete_user
    {permits : Memory → Call → Prop}
    {memory : Memory}
    (reached : Reached permits IdentifiersApart memory) :
    memory.Complete .user := by
  induction reached with
  | start => exact complete_empty .user
  | step call before permitted met inductionHypothesis =>
      exact inductionHypothesis.effect before.filed before.backed
        (perform_effect _ call) met.1
        (fun ignores => absurd ignores Bool.false_ne_true)

theorem Reached.identifiersApart
    {permits : Memory → Call → Prop}
    {memory : Memory}
    (reached : Reached permits IdentifiersApart memory) :
    memory.IdentifiersApart := by
  cases reached with
  | start => decide
  | step call before permitted met => exact met

/--
The index leads a key to an account that has it in comparable form, but not in
its own comparison.
-/
def Misspelt (memory : Memory) (lookup : Lookup) (key : String) : Prop :=
  lookup.ignoresCase = true ∧
    ∃ id account,
      (memory.indices.get lookup).get? (lookup.normalize key) = some id ∧
        memory.accounts.get? id = some account ∧
        lookup.normalize key ∈ lookup.keysOf account ∧
        lookup.holds account key = false

/-- In a backed memory a find notices an entry exactly for a misspelt key. -/
theorem follow_notices_iff_misspelt
    {memory : Memory}
    (filed : memory.Filed)
    (backed : memory.Backed)
    {lookup : Lookup}
    {key : String} :
    (memory.follow lookup key).notices ≠ [] ↔ memory.Misspelt lookup key := by
  constructor
  · intro noticed
    obtain ⟨id, entry, stale⟩ := follow_notices_iff.mp noticed
    obtain ⟨account, stored, listed⟩ := backed.accounts entry
    refine ⟨?_, id, account, entry, stored, listed, stale account stored⟩
    cases ignores : lookup.ignoresCase with
    | true => rfl
    | false =>
        exact absurd (follow_quiet filed backed
          (fun case => absurd (ignores.symm.trans case) Bool.false_ne_true)) noticed
  · rintro ⟨_, id, account, entry, stored, _, unheld⟩
    refine follow_notices_iff.mpr ⟨id, entry, ?_⟩
    intro other otherStored
    rw [stored, Option.some.injEq] at otherStored
    exact otherStored ▸ unheld

/-- A read of a reached memory takes out an entry only for a misspelt key. -/
theorem Reached.read_changes_iff
    {permits : Memory → Call → Prop}
    {memory : Memory}
    (reached : Reached permits IdentifiersApart memory)
    {call : Call}
    (reads : Reads call) :
    (memory.perform call).memory ≠ memory ↔
      ∃ lookup key, call = .find lookup key ∧ memory.Misspelt lookup key := by
  have filed := reached.filed
  have backed := reached.backed
  constructor
  · intro changed
    rcases reads_memory memory reads with same |
      ⟨lookup, key, follows, noticed, _⟩ | ⟨hash, _, noticed, _⟩ |
      ⟨token, _, noticed, _⟩
    · exact absurd same changed
    · have misspelt := (follow_notices_iff_misspelt filed backed).mp noticed
      rcases follows with rfl | ⟨_, rfl⟩
      · exact ⟨lookup, key, rfl, misspelt⟩
      · exact absurd misspelt.1 Bool.false_ne_true
    · exact absurd (tokenByHash_quiet filed backed
        reached.identifiersApart.2.2 hash) noticed
    · exact absurd (userByToken_quiet filed backed reached.complete_user token)
        noticed
  · rintro ⟨lookup, key, rfl, misspelt⟩ same
    have noticed := (follow_notices_iff_misspelt filed backed).mpr misspelt
    obtain ⟨_, id, _, entry, _⟩ := misspelt
    have without : (memory.perform (.find lookup key)).memory =
        memory.withoutEntry lookup key :=
      follow_memory_of_noticed noticed
    rw [without] at same
    have entries := congrArg
      (fun memory => (memory.indices.get lookup).get? (lookup.normalize key)) same
    simp [withoutEntry, Indices.get_modify, entry] at entries

/--
What a read answers depends on an earlier read only if that took out, for a
key spelled differently, the entry that the later one needs. In runs in which
identifiers differ, reads take out nothing else.
-/
theorem reads_disturb_reads_iff (memory : Memory) :
    (∀ first second : Call,
        Reads first → Reads second →
          (((memory.perform first).memory.perform second).outcome =
              (memory.perform second).outcome ↔
            ¬memory.Disturbs first second)) ∧
      (Reached (fun _ _ => True) IdentifiersApart memory →
        ∀ call, Reads call →
          ((memory.perform call).memory ≠ memory ↔
            ∃ lookup key,
              call = .find lookup key ∧ memory.Misspelt lookup key)) := by
  constructor
  · intro first second firstReads secondReads
    exact outcome_after_read_iff firstReads secondReads
  · intro reached call reads
    exact reached.read_changes_iff reads

/-! ### A letter outside ASCII -/

/-- A setup key is spelled with a small letter and asked for with a capital. -/
theorem reads_disturb_reads_iff_accent :
    let account : Account :=
      { id := "a", setupKeys := .ofList [("é", { key := "é" })] }
    let memory := empty.run [.save account]
    let asked := (memory.perform (.find .setupKey "É")).memory
    Reached (fun _ _ => True) IdentifiersApart memory ∧ asked ≠ memory ∧
      (memory.perform (.find .setupKey "é")).outcome = .ok (.account account) ∧
      (asked.perform (.find .setupKey "é")).outcome ≠
        (memory.perform (.find .setupKey "é")).outcome := by
  intro account memory asked
  have reached : Reached (fun _ _ => True) IdentifiersApart memory :=
    .step (.save account) .start trivial (by decide)
  refine ⟨reached, ?_, rfl, ?_⟩
  · rw [(reads_disturb_reads_iff memory).2 reached (.find .setupKey "É") trivial]
    exact ⟨.setupKey, "É", rfl, rfl, "a", account, rfl, rfl, by decide, by decide⟩
  · rw [ne_eq, (reads_disturb_reads_iff memory).1 (.find .setupKey "É")
      (.find .setupKey "é") trivial trivial, not_not]
    exact ⟨.setupKey, "É", "é", account, rfl, rfl, by decide, by decide, rfl⟩

end Memory

end TenantStore.FileEngine
