import TenantStore.Proofs.FileEngine.IndexExactness
import TenantStore.Proofs.TableEngine.Histories
import TenantStore.Proofs.TableEngine.Reassembly

namespace TenantStore.Engines

/-!
# From a secret to a user

A secret is looked up in two steps: its hash leads to the identifier of a
token, and this identifier to the user that holds the token. In a database both
steps read the same row. The file engine asks two indices; they lead to the
same token unless two stored users hold tokens of one identifier:
`secret_leads_to_owner`.
-/

open TableEngine
open FileEngine (Memory)
open Relational (Database)

/-- A user holds a token under a hash. -/
def Owns (user : User) (token hash : String) : Prop :=
  ∃ held, user.tokens.get? token = some held ∧ held.hashedToken = hash

instance (user : User) (token hash : String) : Decidable (Owns user token hash) :=
  decidable_of_iff
    ((user.tokens.get? token).any (fun held => held.hashedToken = hash) = true)
    (by simp [Owns, Option.any_eq_true])

/-! ## In a database -/

section Tables

variable {db : Database} {contents : Contents} {installation : Option String}

theorem answered_eq_ok_iff {answer : α → Answer} {found : Except Problem α}
    {other : Answer} :
    (answered db answer found).outcome = .ok other ↔
      ∃ value, found = .ok value ∧ answer value = other := by
  rw [answered]
  cases found <;> simp [Except.map]

theorem foundOr_eq_ok_iff {missing : Problem} {found : Option α} {value : α} :
    foundOr missing found = .ok value ↔ found = some value := by
  cases found <;> simp [foundOr]

/-- The user that is loaded holds each token that is recorded for it. -/
theorem get?_user?
    (represents : Represents db contents installation)
    {record : Record .token}
    (member : record ∈ contents .token)
    {user : User}
    (loaded : contents.user? record.owner = some user) :
    user.tokens.get? record.key = some record.kept := by
  obtain ⟨holder, _, rfl⟩ := Option.map_eq_some_iff.mp loaded
  have listed : (record.key, (record.kept : AccessToken)) ∈
      (contents.entities .token record.owner).map (fun token : AccessToken =>
        (token.id, token)) :=
    List.mem_map.mpr ⟨record.kept, List.mem_map.mpr
      ⟨record, List.mem_filter.mpr ⟨member, decide_eq_true rfl⟩, rfl⟩, rfl⟩
  have tokens := congrArg User.tokens
    (foldl_addToken (contents.entities .token record.owner) holder.kept)
  refine (congrArg (Dict.get? · record.key) tokens).trans ?_
  rcases Dict.get?_foldl_insert_cases
      ((contents.entities .token record.owner).map (fun token : AccessToken =>
        (token.id, token)))
      (User.tokens holder.kept) record.key with
    ⟨value, valueListed, found⟩ | ⟨absent, _⟩
  · obtain ⟨token, tokenMember, entry_eq⟩ := List.mem_map.mp valueListed
    obtain ⟨other, otherMember, rfl⟩ := List.mem_map.mp tokenMember
    obtain ⟨sameKey, rfl⟩ := Prod.mk.inj entry_eq
    have keys : ((contents .token).map Record.key).Nodup :=
      List.pairwise_map.mpr (represents.distinct_keys .token)
    have same : other = record := List.inj_on_of_nodup_map keys
      (List.mem_of_mem_filter otherMember) member sameKey
    rw [← same]
    exact same ▸ found
  · exact absurd listed (absent record.kept)

/-- In a database a secret leads to the user that holds it. -/
theorem owns_of_tables
    (used : Used db)
    {hash token : String}
    {user : User}
    (found : (perform db (.tokenByHash hash)).outcome = .ok (.text token))
    (led : (perform db (.userByToken token)).outcome = .ok (.user user)) :
    Owns user token hash := by
  obtain ⟨contents, installation, represents⟩ := used.represents
  obtain ⟨_, tokenFound, sameToken⟩ := answered_eq_ok_iff.mp found
  obtain ⟨_, userFound, sameUser⟩ := answered_eq_ok_iff.mp led
  cases sameToken
  cases sameUser
  rw [represents.findToken_eq, foundOr_eq_ok_iff, Option.map_eq_some_iff] at tokenFound
  obtain ⟨record, search, rfl⟩ := tokenFound
  have member := List.mem_of_find?_eq_some search
  have sameHash : AccessToken.hashedToken record.value = hash := by
    simpa using List.find?_some search
  have holder : (contents .token).find? (fun other => other.key = record.key) =
      some record := by
    have keys : ((contents .token).map Record.key).Nodup :=
      List.pairwise_map.mpr (represents.distinct_keys .token)
    rw [← List.head?_filter]
    exact congrArg List.head? (filter_eq_singleton keys member)
  rw [represents.findUserByToken_eq, holder] at userFound
  have loaded : contents.user? record.owner = some _ := foundOr_eq_ok_iff.mp userFound
  exact ⟨record.kept, get?_user? represents member loaded, sameHash⟩

end Tables

/-! ## In memory -/

section Memory

variable {memory : Memory} {hash token : String} {user : User}

/-- The user that a token leads to is stored and holds a token of that identifier. -/
theorem held_of_userByToken
    (filed : memory.Filed)
    (led : (memory.userByToken token).found = .ok user) :
    ∃ slot held, (slot, user, held) ∈ memory.heldTokens ∧
      user.tokens.get? token = some held ∧ held.id = token := by
  obtain ⟨id, _, indexed, contains⟩ := Memory.userByToken_found_iff.mp led
  obtain ⟨slot, account, _, stored, userFound⟩ :=
    Memory.indexedUser?_eq_some_iff.mp indexed
  obtain ⟨held, heldToken⟩ := Dict.contains_iff.mp contains
  exact ⟨slot, held, Memory.mem_heldTokens stored
      (Memory.mem_tokensOf_iff.mpr ⟨id, token, userFound, heldToken⟩),
    heldToken, (filed.normal stored).token_id userFound heldToken⟩

/-- The token that a hash leads to is stored under the hash. -/
theorem held_of_tokenByHash
    (filed : memory.Filed)
    (found : (memory.tokenByHash hash).found = .ok token) :
    ∃ held ∈ memory.heldTokens,
      held.2.2.id = token ∧ held.2.2.hashedToken = hash := by
  obtain ⟨_, live⟩ := Memory.tokenByHash_found_iff.mp found
  obtain ⟨slot, account, stored, owner, held, ownerFound, heldToken, sameHash⟩ :=
    Memory.hasToken_iff.mp live
  obtain ⟨id, userFound⟩ := (Dict.find?_some ownerFound).1
  exact ⟨(slot, owner, held), Memory.mem_heldTokens stored
      (Memory.mem_tokensOf_iff.mpr ⟨id, token, userFound, heldToken⟩),
    (filed.normal stored).token_id userFound heldToken, sameHash⟩

/-- Stored users of one identifier are one user. -/
theorem user_eq_of_id_eq
    (filed : memory.Filed)
    (apart : memory.KeysApart .user)
    {left right : String × User × AccessToken}
    (leftMember : left ∈ memory.heldTokens)
    (rightMember : right ∈ memory.heldTokens)
    (same : left.2.1.id = right.2.1.id) :
    left.2.1 = right.2.1 := by
  have userOf : ∀ {held : String × User × AccessToken}, held ∈ memory.heldTokens →
      ∃ account, memory.accounts.get? held.1 = some account ∧
        account.users.get? held.2.1.id = some held.2.1 := by
    intro held member
    obtain ⟨account, stored, listed⟩ := Memory.mem_heldTokens_iff.mp member
    obtain ⟨id, slot, userFound, _⟩ := Memory.mem_tokensOf_iff.mp listed
    rw [(filed.normal stored).user_id userFound]
    exact ⟨account, stored, userFound⟩
  have listed : ∀ {account : Account} {user : User},
      account.users.get? user.id = some user → user.id ∈ Lookup.user.keysOf account :=
    fun found => List.mem_map.mpr ⟨_, Dict.mem_values_iff.mpr ⟨_, found⟩, rfl⟩
  obtain ⟨leftAccount, leftStored, leftFound⟩ := userOf leftMember
  obtain ⟨rightAccount, rightStored, rightFound⟩ := userOf rightMember
  have slots := apart.slot_eq leftStored rightStored (listed leftFound)
    (same ▸ listed rightFound)
  rw [slots, rightStored, Option.some.injEq] at leftStored
  rw [← leftStored, same, rightFound, Option.some.injEq] at leftFound
  exact leftFound.symm

/--
In memory a secret leads to the user that holds it unless it is another user
that holds a token of the identifier under this hash.
-/
theorem owns_iff_of_memory
    (filed : memory.Filed)
    (usersApart : memory.KeysApart .user)
    (hashesApart : (memory.heldTokens.map (·.2.2.hashedToken)).Nodup)
    (found : (memory.tokenByHash hash).found = .ok token)
    (led : (memory.userByToken token).found = .ok user) :
    Owns user token hash ↔
      ∀ held ∈ memory.heldTokens,
        held.2.2.id = token → held.2.2.hashedToken = hash → held.2.1.id = user.id := by
  obtain ⟨slot, held, heldMember, heldToken, heldId⟩ := held_of_userByToken filed led
  constructor
  · rintro ⟨other, otherFound, sameHash⟩ owner ownerMember _ ownerHash
    rw [heldToken, Option.some.injEq] at otherFound
    subst otherFound
    have same := List.inj_on_of_nodup_map hashesApart ownerMember heldMember
      (ownerHash.trans sameHash.symm)
    rw [same]
  · intro alone
    obtain ⟨owner, ownerMember, ownerId, ownerHash⟩ := held_of_tokenByHash filed found
    have sameUser := user_eq_of_id_eq filed usersApart ownerMember heldMember
      (alone owner ownerMember ownerId ownerHash)
    obtain ⟨account, stored, listed⟩ := Memory.mem_heldTokens_iff.mp ownerMember
    obtain ⟨id, ownerSlot, userFound, ownerFound⟩ := Memory.mem_tokensOf_iff.mp listed
    have slot_eq : ownerSlot = token :=
      ((filed.normal stored).token_id userFound ownerFound).symm.trans ownerId
    rw [slot_eq, sameUser] at ownerFound
    exact ⟨owner.2.2, ownerFound, ownerHash⟩

end Memory

/-! ## In both engines -/

/--
A database leads a secret to the user that holds it, however it was used. A
memory with unique users and hashes does so exactly if no other stored user
holds a token of the same identifier under that hash.
-/
theorem secret_leads_to_owner {hash token : String} {user : User} :
    (∀ {db : Database}, Used db →
      (TableEngine.perform db (.tokenByHash hash)).outcome = .ok (.text token) →
      (TableEngine.perform (TableEngine.perform db (.tokenByHash hash)).db
        (.userByToken token)).outcome = .ok (.user user) →
      Owns user token hash) ∧
    ∀ {memory : Memory} {calls : List Call}, memory = Memory.empty.run calls →
      memory.KeysApart .user →
      (memory.heldTokens.map (·.2.2.hashedToken)).Nodup →
      (memory.perform (.tokenByHash hash)).outcome = .ok (.text token) →
      ((memory.perform (.tokenByHash hash)).memory.perform
        (.userByToken token)).outcome = .ok (.user user) →
      (Owns user token hash ↔
        ∀ held ∈ memory.heldTokens,
          held.2.2.id = token → held.2.2.hashedToken = hash →
            held.2.1.id = user.id) := by
  constructor
  · intro db used found led
    exact owns_of_tables used found led
  · intro memory calls reached usersApart hashesApart found led
    have filed : memory.Filed := reached ▸ Memory.filed_empty.run calls
    have tokenFound := Memory.outcome_tokenByHash_iff.mp found
    have unchanged : (memory.perform (.tokenByHash hash)).memory = memory := by
      rcases Memory.tokenByHash_found_cases memory hash with ⟨_, _, same, _⟩ | missing
      · exact same
      · rw [tokenFound] at missing
        cases missing
    rw [unchanged] at led
    exact owns_iff_of_memory filed usersApart hashesApart tokenFound
      (Memory.outcome_userByToken_iff.mp led)

/-- An account with one user that holds one token. -/
def single (account user token hash : String) : Account where
  id := account
  users := .ofList [(user, {
    id := user
    tokens := .ofList [(token, { id := token, userId := user, hashedToken := hash })] })]

/-- Two users that hold tokens of one identifier. -/
def namesakes : List Call :=
  [.save (single "a" "u" "t" "h"), .save (single "b" "v" "t" "k")]

/-- The user that holds the second of the tokens. -/
def namesake : User where
  id := "v"
  tokens := .ofList [("t", { id := "t", userId := "v", hashedToken := "k" })]

/--
Two users hold tokens of one identifier under different hashes. A database has
kept the second token only. In memory both hashes lead to the token, and the
token to the second user, so the secret of the first leads to a user that does
not hold it.
-/
theorem secret_leads_to_namesake :
    Owns namesake "t" "k" ∧
      ((Memory.empty.run namesakes).perform (.tokenByHash "h")).outcome =
        .ok (.text "t") ∧
      (((Memory.empty.run namesakes).perform (.tokenByHash "h")).memory.perform
        (.userByToken "t")).outcome = .ok (.user namesake) ∧
      ¬Owns namesake "t" "h" := by
  have tokenFound : (TableEngine.perform (performAll (newDatabase ⟨0⟩) namesakes)
      (.tokenByHash "k")).outcome = .ok (.text "t") := by
    decide +kernel
  have userFound : (TableEngine.perform (TableEngine.perform
      (performAll (newDatabase ⟨0⟩) namesakes) (.tokenByHash "k")).db
        (.userByToken "t")).outcome = .ok (.user namesake) := by
    decide +kernel
  have used : Used (performAll (newDatabase ⟨0⟩) namesakes) :=
    ⟨⟨0⟩, namesakes, by rw [(upkeep_empty ⟨0⟩).2]⟩
  have foreign : ¬∀ held ∈ (Memory.empty.run namesakes).heldTokens,
      held.2.2.id = "t" → held.2.2.hashedToken = "h" → held.2.1.id = namesake.id := by
    decide +kernel
  have hashFound : ((Memory.empty.run namesakes).perform (.tokenByHash "h")).outcome =
      .ok (.text "t") := by
    decide +kernel
  have led : (((Memory.empty.run namesakes).perform (.tokenByHash "h")).memory.perform
      (.userByToken "t")).outcome = .ok (.user namesake) := by
    decide +kernel
  have usersApart : (Memory.empty.run namesakes).KeysApart .user := by
    decide +kernel
  have hashesApart : ((Memory.empty.run namesakes).heldTokens.map
      (·.2.2.hashedToken)).Nodup := by
    decide +kernel
  exact ⟨secret_leads_to_owner.1 used tokenFound userFound, hashFound, led, fun owns =>
    foreign ((secret_leads_to_owner.2 rfl usersApart hashesApart hashFound led).mp owns)⟩

end TenantStore.Engines
