import TenantStore.Proofs.TableEngine.Ownership

namespace TenantStore.TableEngine

/-!
# Parts of loaded accounts

What an account is loaded with, record by record. A collection is made of the
records that the account owns, each under its own key; a user comes with the
tokens that name it, whether it is loaded alone or with its account
(`get?_users`).
-/

/-! ## Collections under their keys -/

section Keyed

variable {name : α → String} {entities : List α}

/-- If no two entities share a key, a lookup finds the one that has it. -/
theorem get?_keyed_iff
    (distinct : (entities.map name).Nodup)
    {key : String}
    {value : α} :
    (keyed name entities).get? key = some value ↔ value ∈ entities ∧ name value = key := by
  have keys : ((entities.map (fun entity => (name entity, entity))).map Prod.fst).Nodup := by
    rw [List.map_map]
    exact distinct
  rw [keyed, Dict.get?_ofList_iff keys, List.mem_map]
  constructor
  · rintro ⟨entity, member, same⟩
    cases same
    exact ⟨member, rfl⟩
  · rintro ⟨member, rfl⟩
    exact ⟨value, member, rfl⟩

/-- Entities with different names are all kept when they are filed. -/
theorem mem_values_keyed_iff
    (distinct : (entities.map name).Nodup)
    {value : α} :
    value ∈ (keyed name entities).values ↔ value ∈ entities := by
  rw [Dict.mem_values_iff]
  simp only [get?_keyed_iff distinct]
  constructor
  · rintro ⟨_, member, _⟩
    exact member
  · intro member
    exact ⟨_, member, rfl⟩

/-- Keeping some entities keeps their entries. -/
theorem keyed_filter
    (distinct : (entities.map name).Nodup)
    (keep : α → Bool) :
    keyed name (entities.filter keep) = (keyed name entities).filter (fun _ => keep) := by
  have distinctKept : ((entities.filter keep).map name).Nodup :=
    (List.filter_sublist.map name).nodup distinct
  apply Dict.ext_get?
  intro key
  apply Option.ext
  intro value
  rw [Dict.get?_filter, Option.filter_eq_some_iff, get?_keyed_iff distinctKept,
    get?_keyed_iff distinct, List.mem_filter]
  tauto

end Keyed

/-! ## Entities of an owner -/

/-- What is kept of an entity has its key. -/
theorem Kind.key_kept (kind : Kind) (owner : String) (value : kind.Value) :
    kind.key (kind.kept owner value) = kind.key value := by
  cases kind <;> rfl

namespace Contents

variable {contents : Contents}

/-- The entities of an owner have the keys that it owns. -/
theorem keys_entities (contents : Contents) (kind : Kind) (owner : String) :
    (contents.entities kind owner).map kind.key = contents.ownedKeys kind owner := by
  rw [entities, ownedKeys, List.map_map]
  apply List.map_congr_left
  intro record _
  exact kind.key_kept record.owner record.value

/-- No two entities of an owner share a key. -/
theorem Coherent.entities_nodup
    (coherent : contents.Coherent)
    (kind : Kind)
    (owner : String) :
    ((contents.entities kind owner).map kind.key).Nodup := by
  rw [keys_entities]
  exact (List.filter_sublist.map Record.key).nodup (coherent.distinct kind)

/-- No two setup keys of an account share a secret. -/
theorem Coherent.setupKeys_nodup (coherent : contents.Coherent) (owner : String) :
    ((contents.entities .setupKey owner).map SetupKey.key).Nodup := by
  have records : (contents .setupKey).Nodup := (coherent.distinct .setupKey).of_map _
  rw [entities, List.map_map]
  apply List.Nodup.map_on _ (records.filter _)
  intro left leftMember right rightMember same
  obtain ⟨leftHere, leftOwned⟩ := List.mem_filter.mp leftMember
  obtain ⟨rightHere, rightOwned⟩ := List.mem_filter.mp rightMember
  refine coherent.setupKeys left leftHere right rightHere ?_ same
  rw [of_decide_eq_true leftOwned, of_decide_eq_true rightOwned]

/-- A search by identifier finds the record that has it. -/
theorem Coherent.find?_key_iff
    (coherent : contents.Coherent)
    {kind : Kind}
    {id : String}
    {record : Record kind} :
    (contents kind).find? (fun record => record.key = id) = some record ↔
      record ∈ contents kind ∧ record.key = id := by
  constructor
  · intro found
    exact ⟨List.mem_of_find?_eq_some found, by simpa using List.find?_some found⟩
  · rintro ⟨member, rfl⟩
    cases found : (contents kind).find? (fun other => other.key = record.key) with
    | none => exact absurd (decide_eq_true rfl) (List.find?_eq_none.mp found record member)
    | some other =>
        have same : other.key = record.key := by simpa using List.find?_some found
        rw [coherent.record_eq (List.mem_of_find?_eq_some found) member same]

/-! ## Users -/

/-- A user that is loaded has the tokens that are recorded for it. -/
theorem user?_eq (contents : Contents) (id : String) :
    contents.user? id =
      ((contents .user).find? (fun record => record.key = id)).map (fun record =>
        { (record.kept : User) with
          tokens := keyed AccessToken.id (contents.entities .token id) }) := by
  rw [user?]
  congr 1
  funext record
  exact foldl_addToken (contents.entities .token id) record.kept

/-- A user is found under its own identifier. -/
theorem user?_id {id : String} {user : User} (found : contents.user? id = some user) :
    user.id = id := by
  rw [user?_eq, Option.map_eq_some_iff] at found
  obtain ⟨record, recordFound, rfl⟩ := found
  have same : record.key = id := by simpa using List.find?_some recordFound
  exact same

/-- A record is owned by the one that it names, since no other record has its key. -/
theorem Coherent.mem_ownedKeys_iff
    (coherent : contents.Coherent)
    {kind : Kind}
    {record : Record kind}
    (member : record ∈ contents kind)
    {owner : String} :
    record.key ∈ contents.ownedKeys kind owner ↔ record.owner = owner := by
  rw [TableEngine.mem_ownedKeys_iff]
  constructor
  · rintro ⟨other, otherMember, owned, same⟩
    rw [← coherent.record_eq otherMember member same, owned]
  · intro owned
    exact ⟨record, member, owned, rfl⟩

/-- The tokens below an account that name a user are those recorded for it. -/
theorem tokensBelow_filter
    {accountId id : String}
    (owned : id ∈ contents.ownedKeys .user accountId) :
    (contents.tokensBelow accountId).filter (fun token => token.userId = id) =
      contents.entities .token id := by
  have same : ((fun token : AccessToken => decide (token.userId = id)) ∘
      (Record.kept : Record .token → AccessToken)) =
        fun record => decide (record.owner = id) := rfl
  rw [tokensBelow, List.filter_map, same, List.filter_filter, entities, Contents.owned]
  congr 1
  apply List.filter_congr
  intro record _
  by_cases here : record.owner = id
  · simp [here, owned]
  · simp [here]

/-- A user of an account is loaded with it as it is loaded alone. -/
theorem Coherent.get?_users (coherent : contents.Coherent) (accountId id : String) :
    (contents.users accountId).get? id =
      if id ∈ contents.ownedKeys .user accountId then contents.user? id else none := by
  have distinct := coherent.entities_nodup .user accountId
  rw [Contents.users, get?_foldl_giveToken]
  split
  · rename_i owned
    obtain ⟨record, member, sameOwner, sameKey⟩ := TableEngine.mem_ownedKeys_iff.mp owned
    have bare : (keyed User.id (contents.entities .user accountId)).get? id =
        some record.kept :=
      (get?_keyed_iff distinct).mpr ⟨List.mem_map_of_mem
        (List.mem_filter.mpr ⟨member, decide_eq_true sameOwner⟩), sameKey⟩
    rw [bare, tokensBelow_filter owned, user?, coherent.find?_key_iff.mpr ⟨member, sameKey⟩]
    rfl
  · rename_i foreign
    have none : (keyed User.id (contents.entities .user accountId)).get? id = none := by
      cases found : (keyed User.id (contents.entities .user accountId)).get? id with
      | none => rfl
      | some user =>
          obtain ⟨member, same⟩ := (get?_keyed_iff distinct).mp found
          rw [← keys_entities] at foreign
          exact absurd (List.mem_map.mpr ⟨user, member, same⟩) foreign
    rw [none]
    rfl

end Contents

end TenantStore.TableEngine
