import TenantStore.Proofs.TableEngine.Leftovers

namespace TenantStore.TableEngine

/-!
# Owners of records

No step of a database leaves a record without its owner: what is dropped with
an owner is all that it owns, and what is put over other records keeps their
identifiers (`keys_putRecord`). Nor does a step make two setup keys of one
account have the same value. So every database that was ever used represents
coherent contents (`Used.coherent`).
-/

open Relational (Database)

/-- The kind of the entities that own those of a kind. -/
def Kind.ownerKind : Kind → Kind
  | .token => .user
  | .rule => .policy
  | _ => .account

/-- Records with distinct identifiers, each of which has its owner. -/
structure Contents.Coherent (contents : Contents) : Prop where
  distinct : ∀ kind, ((contents kind).map Record.key).Nodup
  owned : ∀ kind, kind ≠ .account → ∀ record ∈ contents kind,
    record.owner ∈ (contents kind.ownerKind).map Record.key
  /-- Setup keys of one account differ in their values. -/
  setupKeys : ∀ left ∈ contents .setupKey, ∀ right ∈ contents .setupKey,
    left.owner = right.owner →
      SetupKey.key left.value = SetupKey.key right.value → left = right

/-! ## Identifiers of records that are put -/

section Keys

variable {kind : Kind} {records new : List (Record kind)}

/-- Putting a record leaves no key twice. -/
theorem keys_putRecord_nodup
    (record : Record kind)
    (distinct : (records.map Record.key).Nodup) :
    ((putRecord record records).map Record.key).Nodup := by
  rw [keys_putRecord]
  split
  · exact distinct
  · rename_i unknown
    rw [List.nodup_append]
    refine ⟨distinct, List.nodup_singleton _, ?_⟩
    intro left leftMember right rightMember same
    rw [List.mem_singleton.mp rightMember] at same
    exact unknown (same ▸ leftMember)

/-- The key of a record is there after it was put. -/
theorem mem_keys_putRecord_iff {record : Record kind} {id : String} :
    id ∈ (putRecord record records).map Record.key ↔
      id = record.key ∨ id ∈ records.map Record.key := by
  rw [keys_putRecord]
  split
  · rename_i known
    constructor
    · exact .inr
    · rintro (rfl | old)
      · exact known
      · exact old
  · rw [List.mem_append, List.mem_singleton, or_comm]

/-- Putting records leaves no key twice. -/
theorem keys_foldl_putRecord_nodup (distinct : (records.map Record.key).Nodup) :
    ((new.foldl (fun records record => putRecord record records) records).map
      Record.key).Nodup := by
  induction new generalizing records with
  | nil => exact distinct
  | cons record rest inductionHypothesis =>
      exact inductionHypothesis (keys_putRecord_nodup record distinct)

/-- The keys of records are there after they were put. -/
theorem mem_keys_foldl_putRecord_iff {id : String} :
    id ∈ (new.foldl (fun records record => putRecord record records) records).map
        Record.key ↔
      id ∈ new.map Record.key ∨ id ∈ records.map Record.key := by
  induction new generalizing records with
  | nil => simp
  | cons record rest inductionHypothesis =>
      rw [List.foldl_cons, inductionHypothesis, mem_keys_putRecord_iff, List.map_cons,
        List.mem_cons]
      tauto

end Keys

/-! ## What the records of an account are owned by -/

/-- What an account writes is owned by something that it writes. -/
theorem owner_mem_recordsOf
    {kind : Kind}
    (owned : kind ≠ .account)
    {account : Account}
    {record : Record kind}
    (listed : record ∈ recordsOf account kind) :
    record.owner ∈ (recordsOf account kind.ownerKind).map Record.key := by
  cases kind with
  | account => exact absurd rfl owned
  | token =>
      obtain ⟨user, member, same⟩ := exists_owner.1 record listed
      exact List.mem_map.mpr ⟨user, member, same⟩
  | rule =>
      obtain ⟨policy, member, same⟩ := exists_owner.2 record listed
      exact List.mem_map.mpr ⟨policy, member, same⟩
  | _ => exact List.mem_singleton.mpr (owner_of_mem rfl (by decide) listed)

/-- No two setup keys of a normal account share a secret. -/
theorem setupKey_of_normal
    {account : Account}
    (normal : account.IsNormal)
    {left right : Record .setupKey}
    (leftListed : left ∈ recordsOf account .setupKey)
    (rightListed : right ∈ recordsOf account .setupKey)
    (same : SetupKey.key left.value = SetupKey.key right.value) :
    left = right := by
  obtain ⟨leftKey, leftMember, rfl⟩ := List.mem_map.mp leftListed
  obtain ⟨rightKey, rightMember, rfl⟩ := List.mem_map.mp rightListed
  obtain ⟨leftSlot, leftFound⟩ := Dict.mem_values_iff.mp leftMember
  obtain ⟨rightSlot, rightFound⟩ := Dict.mem_values_iff.mp rightMember
  have slots : leftSlot = rightSlot :=
    (normal.setupKeys_filed leftSlot leftKey leftFound).symm.trans
      (same.trans (normal.setupKeys_filed rightSlot rightKey rightFound))
  rw [slots, rightFound, Option.some.injEq] at leftFound
  rw [leftFound]

/-! ## Steps -/

/-- What is left without an account does not belong to it. -/
theorem mem_drop_iff {contents : Contents} {id : String} {kind : Kind} {record : Record kind} :
    record ∈ contents.drop id kind ↔
      record ∈ contents kind ∧ ¬contents.Belongs id record := by
  rw [drop_apply, List.mem_filter, decide_eq_true_eq]

/-- What belongs to an account includes all that is owned by what belongs to it. -/
theorem belongs_of_owner
    {contents : Contents}
    {id : String}
    {kind : Kind}
    (owned : kind ≠ .account)
    {record : Record kind}
    {holder : Record kind.ownerKind}
    (member : holder ∈ contents kind.ownerKind)
    (same : holder.key = record.owner)
    (belongs : contents.Belongs id holder) :
    contents.Belongs id record := by
  cases kind with
  | account => exact absurd rfl owned
  | token => exact mem_ownedKeys_iff.mpr ⟨holder, member, belongs, same⟩
  | rule => exact mem_ownedKeys_iff.mpr ⟨holder, member, belongs, same⟩
  | _ => exact same.symm.trans belongs

namespace Contents.Coherent

variable {contents : Contents}

/-- Nothing is coherent with nothing. -/
theorem empty : Contents.Coherent (fun _ => []) where
  distinct _ := List.nodup_nil
  owned _ _ _ member := absurd member List.not_mem_nil
  setupKeys _ member := absurd member List.not_mem_nil

/-- Dropping an account leaves nothing of what it owned. -/
theorem drop (coherent : contents.Coherent) (id : String) : (contents.drop id).Coherent where
  distinct kind := by
    rw [drop_apply]
    exact (List.filter_sublist.map Record.key).nodup (coherent.distinct kind)
  owned kind owned record member := by
    obtain ⟨here, stays⟩ := mem_drop_iff.mp member
    obtain ⟨holder, holderHere, same⟩ := List.mem_map.mp (coherent.owned kind owned record here)
    have holderStays : ¬contents.Belongs id holder :=
      fun belongs => stays (belongs_of_owner owned holderHere same belongs)
    exact List.mem_map.mpr ⟨holder, mem_drop_iff.mpr ⟨holderHere, holderStays⟩, same⟩
  setupKeys left leftMember right rightMember :=
    coherent.setupKeys left (mem_drop_iff.mp leftMember).1 right (mem_drop_iff.mp rightMember).1

/-- Putting the records of an account where it owns nothing gives each its owner. -/
theorem put_over
    (coherent : contents.Coherent)
    {account : Account}
    (normal : account.IsNormal)
    (vacated : Vacated contents account.id) :
    (contents.over account).Coherent := by
  have records (kind : Kind) : contents.over account kind =
      (recordsOf account kind).foldl (fun records record => putRecord record records)
        (contents kind) := by
    rw [Contents.over, putAll_apply, filterMap_accountEntries]
  refine ⟨?_, ?_, ?_⟩
  · intro kind
    rw [records]
    exact keys_foldl_putRecord_nodup (coherent.distinct kind)
  · intro kind owned record member
    rw [records] at member
    rw [records, mem_keys_foldl_putRecord_iff]
    rcases mem_foldl_putRecord member with new | old
    · exact .inl (owner_mem_recordsOf owned new)
    · exact .inr (coherent.owned kind owned record old)
  · intro left leftMember right rightMember sameOwner sameKey
    rw [records] at leftMember rightMember
    have foreign : ∀ old ∈ contents .setupKey, old.owner ≠ account.id :=
      vacated.owned .setupKey rfl (by decide)
    have own : ∀ new ∈ recordsOf account .setupKey, new.owner = account.id :=
      fun _ => owner_of_mem rfl (by decide)
    rcases mem_foldl_putRecord leftMember with leftNew | leftOld <;>
      rcases mem_foldl_putRecord rightMember with rightNew | rightOld
    · exact setupKey_of_normal normal leftNew rightNew sameKey
    · exact absurd (sameOwner.symm.trans (own left leftNew)) (foreign right rightOld)
    · exact absurd (sameOwner.trans (own right rightNew)) (foreign left leftOld)
    · exact coherent.setupKeys left leftOld right rightOld sameOwner sameKey

/-- Changing a peer or a user leaves its owner and its identifier. -/
theorem change
    (coherent : contents.Coherent)
    {kind : Kind}
    {record : Record kind}
    (member : record ∈ contents kind)
    (roams : kind = .peer ∨ kind = .user)
    {change : kind.Value → kind.Value}
    (sameKey : ∀ value, kind.key (change value) = kind.key value) :
    (contents.put (Record.mk record.owner (change record.value))).Coherent := by
  have keys (other : Kind) :
      (contents.put (Record.mk record.owner (change record.value)) other).map Record.key =
        (contents other).map Record.key := by
    by_cases here : other = kind
    · subst here
      have known : (Record.mk record.owner (change record.value)).key ∈
          (contents other).map Record.key :=
        List.mem_map.mpr ⟨record, member, (sameKey record.value).symm⟩
      rw [Contents.put, Function.update_self, keys_putRecord, if_pos known]
    · rw [Contents.put, Function.update_of_ne here]
  refine ⟨?_, ?_, ?_⟩
  · intro other
    rw [keys]
    exact coherent.distinct other
  · intro other owned stored storedMember
    rw [keys]
    by_cases here : other = kind
    · subst here
      rw [Contents.put, Function.update_self] at storedMember
      rcases mem_putRecord storedMember with rfl | old
      · exact coherent.owned other owned record member
      · exact coherent.owned other owned stored old
    · rw [Contents.put, Function.update_of_ne here] at storedMember
      exact coherent.owned other owned stored storedMember
  · have other : Kind.setupKey ≠ kind := by
      rcases roams with rfl | rfl <;> decide
    rw [Contents.put, Function.update_of_ne other]
    exact coherent.setupKeys

/-- Every step keeps contents coherent. -/
theorem step
    {after : Contents}
    (coherent : contents.Coherent)
    (step : contents.Step after) :
    after.Coherent := by
  cases step with
  | kept => exact coherent
  | saved account =>
      exact (coherent.drop account.id).put_over account.isNormal_normalized
        (vacated_drop contents account.id)
  | dropped id => exact coherent.drop id
  | changed member roams sameKey => exact coherent.change member roams sameKey

/-! ## The account of a record -/

/-- Records of one identifier are one record. -/
theorem record_eq
    (coherent : contents.Coherent)
    {kind : Kind}
    {left right : Record kind}
    (leftMember : left ∈ contents kind)
    (rightMember : right ∈ contents kind)
    (same : left.key = right.key) :
    left = right :=
  List.inj_on_of_nodup_map (coherent.distinct kind) leftMember rightMember same

/-- An identifier is owned by one owner. -/
theorem owner_unique
    (coherent : contents.Coherent)
    {kind : Kind}
    {id left right : String}
    (leftOwned : id ∈ contents.ownedKeys kind left)
    (rightOwned : id ∈ contents.ownedKeys kind right) :
    left = right := by
  obtain ⟨first, firstMember, rfl, firstKey⟩ := mem_ownedKeys_iff.mp leftOwned
  obtain ⟨second, secondMember, rfl, secondKey⟩ := mem_ownedKeys_iff.mp rightOwned
  rw [coherent.record_eq firstMember secondMember (firstKey.trans secondKey.symm)]

/-- No record belongs to two accounts. -/
theorem belongs_unique
    (coherent : contents.Coherent)
    {kind : Kind}
    {record : Record kind}
    {left right : String}
    (leftBelongs : contents.Belongs left record)
    (rightBelongs : contents.Belongs right record) :
    left = right := by
  cases kind with
  | token => exact coherent.owner_unique leftBelongs rightBelongs
  | rule => exact coherent.owner_unique leftBelongs rightBelongs
  | _ => exact leftBelongs.symm.trans rightBelongs

/-- Every record belongs to an account, through its owner or by itself. -/
theorem exists_account
    (coherent : contents.Coherent)
    (kind : Kind) :
    ∀ record ∈ contents kind,
      ∃ holder ∈ contents .account, contents.Belongs holder.key record := by
  have accounts : ∀ record ∈ contents .account,
      ∃ holder ∈ contents .account, contents.Belongs holder.key record :=
    fun record member => ⟨record, member, rfl⟩
  have below {kind : Kind} (owned : kind ≠ .account)
      (holders : ∀ record ∈ contents kind.ownerKind,
        ∃ holder ∈ contents .account, contents.Belongs holder.key record) :
      ∀ record ∈ contents kind,
        ∃ holder ∈ contents .account, contents.Belongs holder.key record := by
    intro record member
    obtain ⟨owner, ownerMember, same⟩ := List.mem_map.mp (coherent.owned kind owned record member)
    obtain ⟨holder, holderMember, belongs⟩ := holders owner ownerMember
    exact ⟨holder, holderMember, belongs_of_owner owned ownerMember same belongs⟩
  cases kind with
  | account => exact accounts
  | token => exact below (by decide) (@below .user (by decide) accounts)
  | rule => exact below (by decide) (@below .policy (by decide) accounts)
  | _ => exact below (by decide) accounts

end Contents.Coherent

/-- Every database that was ever used represents coherent contents. -/
theorem Used.coherent {db : Database} (used : Used db) :
    ∃ contents installation, contents.Coherent ∧ Represents db contents installation :=
  used.represents_keeping (fun _ _ => Contents.Coherent.step) .empty

end TenantStore.TableEngine
