import TenantStore.Proofs.FileEngine.IndexExactness
import TenantStore.Proofs.TableEngine.Reassembly

namespace TenantStore.Engines

/-!
# Conditions on which engines agree

Two engines can only agree while no two entities could be taken for each other
and every number fits a cell of a database. `Tidy` says this of the stored
accounts and `Measured` of what a call brings along. `Plain` and
`FileEngine.Memory.Careful` exclude the two things that the engines treat
differently: keys with a NUL and deletions that name the tokens of others.
-/

open TableEngine

/-! ## Accounts -/

/-- Accounts whose entities can be told apart and stored. -/
structure Tidy (accounts : List Account) : Prop where
  identifiers : ∀ kind : Kind, kind ≠ .account →
    (accounts.flatMap (fun account => (entitiesOf kind account).map kind.key)).Nodup
  publicKeys :
    (accounts.flatMap (fun account => account.peers.values.map Peer.key)).Nodup
  hashes : (accounts.flatMap (fun account =>
    (entitiesOf .token account).map AccessToken.hashedToken)).Nodup
  setupKeys : accounts.Pairwise (fun left right =>
    ∀ leftKey ∈ left.setupKeys.values, ∀ rightKey ∈ right.setupKeys.values,
      Text.equalIgnoringCase leftKey.key rightKey.key = false)
  domains : accounts.Pairwise (fun left right =>
    left.ownsPrivateDomain = true → right.ownsPrivateDomain = true →
      Text.equalIgnoringCase left.domain right.domain = false)
  peers : ∀ account ∈ accounts, ∀ peer ∈ account.peers.values,
    peer.id ≠ "" ∧ peer.key ≠ ""
  addresses : ∀ account ∈ accounts, (account.peers.values.map Peer.ip).Nodup
  numbers : ∀ account ∈ accounts, ∀ kind, ∀ value ∈ entitiesOf kind account,
    ∀ number ∈ numbersOf kind value, number.toNat < 0x8000000000000000
  rules : ∀ account ∈ accounts, RulesFiled account
  ascii : ∀ account ∈ accounts, account.HasAsciiKeys

instance (accounts : List Account) : Decidable (Tidy accounts) :=
  decidable_of_iff
    ((∀ kind : Kind, kind ≠ .account →
        (accounts.flatMap (fun account =>
          (entitiesOf kind account).map kind.key)).Nodup) ∧
      (accounts.flatMap (fun account => account.peers.values.map Peer.key)).Nodup ∧
      (accounts.flatMap (fun account =>
        (entitiesOf .token account).map AccessToken.hashedToken)).Nodup ∧
      accounts.Pairwise (fun left right =>
        ∀ leftKey ∈ left.setupKeys.values, ∀ rightKey ∈ right.setupKeys.values,
          Text.equalIgnoringCase leftKey.key rightKey.key = false) ∧
      accounts.Pairwise (fun left right =>
        left.ownsPrivateDomain = true → right.ownsPrivateDomain = true →
          Text.equalIgnoringCase left.domain right.domain = false) ∧
      (∀ account ∈ accounts, ∀ peer ∈ account.peers.values,
        peer.id ≠ "" ∧ peer.key ≠ "") ∧
      (∀ account ∈ accounts, (account.peers.values.map Peer.ip).Nodup) ∧
      (∀ account ∈ accounts, ∀ kind, ∀ value ∈ entitiesOf kind account,
        ∀ number ∈ numbersOf kind value, number.toNat < 0x8000000000000000) ∧
      (∀ account ∈ accounts, RulesFiled account) ∧
      ∀ account ∈ accounts, account.HasAsciiKeys)
    ⟨fun ⟨identifiers, publicKeys, hashes, setupKeys, domains, peers, addresses, numbers,
        rules, ascii⟩ =>
      ⟨identifiers, publicKeys, hashes, setupKeys, domains, peers, addresses, numbers,
        rules, ascii⟩,
    fun ⟨identifiers, publicKeys, hashes, setupKeys, domains, peers, addresses, numbers,
        rules, ascii⟩ =>
      ⟨identifiers, publicKeys, hashes, setupKeys, domains, peers, addresses, numbers,
        rules, ascii⟩⟩

/-- Setup keys and domains without a NUL. -/
def Plain (accounts : List Account) : Prop :=
  ∀ account ∈ accounts,
    (∀ stored ∈ account.setupKeys.values, Text.HasNoNul stored.key) ∧ Text.HasNoNul account.domain

instance (accounts : List Account) : Decidable (Plain accounts) :=
  inferInstanceAs (Decidable (∀ account ∈ accounts, _ ∧ _))

/-! ## Calls -/

/--
Calls of a store with ASCII keys and times that fit a cell. The calls that
tamper with indices exist for one engine only.
-/
def Measured : Call → Prop
  | .find lookup key => lookup.ignoresCase = true → Text.isAscii key = true
  | .savePeerStatus _ _ status => status.lastSeen.millis.toNat < 0x8000000000000000
  | .saveLastLogin _ _ time => time.millis.toNat < 0x8000000000000000
  | .dropHashIndex _ => False
  | .dropTokenIndex _ => False
  | _ => True

instance : DecidablePred Measured
  | .find lookup key =>
      inferInstanceAs (Decidable (lookup.ignoresCase = true → Text.isAscii key = true))
  | .savePeerStatus _ _ status =>
      inferInstanceAs (Decidable (status.lastSeen.millis.toNat < 0x8000000000000000))
  | .saveLastLogin _ _ time =>
      inferInstanceAs (Decidable (time.millis.toNat < 0x8000000000000000))
  | .dropHashIndex _ | .dropTokenIndex _ => .isFalse id
  | .save _ | .delete _ | .get _ | .all | .idByPeerKey _ | .tokenByHash _ | .userByToken _
  | .savePeerLocation _ _ _ | .saveInstallation _ | .installation | .close => .isTrue trivial

/-- Calls that ask for setup keys and domains without a NUL. -/
def AsksPlain : Call → Prop
  | .find lookup key => lookup.ignoresCase = true → Text.HasNoNul key
  | _ => True

instance : DecidablePred AsksPlain
  | .find lookup key =>
      inferInstanceAs (Decidable (lookup.ignoresCase = true → Text.HasNoNul key))
  | .save _ | .delete _ | .get _ | .all | .idByPeerKey _ | .tokenByHash _ | .userByToken _
  | .savePeerStatus _ _ _ | .savePeerLocation _ _ _ | .saveLastLogin _ _ _
  | .saveInstallation _ | .installation | .dropHashIndex _ | .dropTokenIndex _
  | .close => .isTrue trivial

/-! ## Runs -/

/--
Every call of a run is permitted where it is made, and every state after one
meets a condition.
-/
def Runs
    (permits : FileEngine.Memory → Call → Prop)
    (meets : FileEngine.Memory → Prop) :
    FileEngine.Memory → List Call → Prop
  | _, [] => True
  | memory, call :: rest =>
      permits memory call ∧ meets (memory.perform call).memory ∧
        Runs permits meets (memory.perform call).memory rest

/-- Whether a run is permitted can be decided call by call. -/
def Runs.decide
    {permits : FileEngine.Memory → Call → Prop}
    {meets : FileEngine.Memory → Prop}
    [∀ memory call, Decidable (permits memory call)]
    [DecidablePred meets] :
    (memory : FileEngine.Memory) → (calls : List Call) →
      Decidable (Runs permits meets memory calls)
  | _, [] => .isTrue trivial
  | memory, call :: rest =>
      have : Decidable (Runs permits meets (memory.perform call).memory rest) :=
        Runs.decide (memory.perform call).memory rest
      inferInstanceAs (Decidable (_ ∧ _ ∧ _))

instance
    {permits : FileEngine.Memory → Call → Prop}
    {meets : FileEngine.Memory → Prop}
    [∀ memory call, Decidable (permits memory call)]
    [DecidablePred meets]
    (memory : FileEngine.Memory)
    (calls : List Call) :
    Decidable (Runs permits meets memory calls) :=
  Runs.decide memory calls

/-- What the file engine answers to some calls. -/
def fileOutcomes (memory : FileEngine.Memory) : List Call → List Outcome
  | [] => []
  | call :: rest =>
      (memory.perform call).outcome :: fileOutcomes (memory.perform call).memory rest

/-- What the table engine answers to some calls. -/
def tableOutcomes (db : Relational.Database) : List Call → List Outcome
  | [] => []
  | call :: rest =>
      (TableEngine.perform db call).outcome ::
        tableOutcomes (TableEngine.perform db call).db rest

/-- Equal answers, or problems of one kind. -/
def Agree : Outcome → Outcome → Prop
  | .ok left, .ok right => left = right
  | .error left, .error right => left.kind = right.kind
  | _, _ => False

instance (left right : Outcome) : Decidable (Agree left right) := by
  unfold Agree
  split <;> infer_instance

/-- Whether outcomes agree one by one. -/
def decideAgreement :
    (left right : List Outcome) → Decidable (List.Forall₂ Agree left right)
  | [], [] => .isTrue .nil
  | [], _ :: _ => .isFalse (fun agree => nomatch agree)
  | _ :: _, [] => .isFalse (fun agree => nomatch agree)
  | _ :: left, _ :: right =>
      have : Decidable (List.Forall₂ Agree left right) := decideAgreement left right
      decidable_of_iff _ List.forall₂_cons.symm

instance (left right : List Outcome) : Decidable (List.Forall₂ Agree left right) :=
  decideAgreement left right

/-! ## What the conditions give -/

section Stored

variable {memory : FileEngine.Memory}

/-- No two stored accounts have one identifier. -/
theorem accountIds_nodup (filed : memory.Filed) :
    (memory.accounts.values.map Account.id).Nodup := by
  have named : memory.accounts.FiledBy Account.id := fun _ _ found => filed.id found
  rw [named.map_values_eq_keys]
  exact memory.accounts.keys_nodup

theorem Tidy.distinctKeys
    (tidy : Tidy memory.accounts.values)
    (filed : memory.Filed) :
    DistinctKeys memory.accounts.values := by
  intro kind
  by_cases account : kind = .account
  · subst account
    have ids := accountIds_nodup filed
    rwa [List.map_eq_flatMap] at ids
  · exact tidy.identifiers kind account

/-- Parts that are distinct in all items differ from item to item. -/
theorem pairwise_of_nodup_flatMap
    {items : List α}
    {parts : α → List β}
    (distinct : (items.flatMap parts).Nodup) :
    items.Pairwise (fun left right => ∀ part ∈ parts left, part ∉ parts right) := by
  rw [List.nodup_flatMap] at distinct
  refine distinct.2.imp ?_
  intro left right disjoint part here there
  exact disjoint here there

/-- Tidy accounts share no keys. -/
theorem Tidy.keysApart
    (tidy : Tidy memory.accounts.values)
    (lookup : Lookup) :
    memory.KeysApart lookup := by
  have values : memory.accounts.values.Pairwise (fun left right =>
      ∀ key ∈ lookup.keysOf left, key ∉ lookup.keysOf right) := by
    cases lookup with
    | setupKey =>
        refine tidy.setupKeys.imp_of_mem ?_
        intro left right leftMember rightMember apart key here there
        obtain ⟨leftKey, leftStored, rfl⟩ := List.mem_map.mp here
        obtain ⟨rightKey, rightStored, same⟩ := List.mem_map.mp there
        have equal := (Text.equalIgnoringCase_iff_upperCase
          ((tidy.ascii left leftMember).1 leftKey leftStored)
          ((tidy.ascii right rightMember).1 rightKey rightStored)).mpr same.symm
        rw [apart leftKey leftStored rightKey rightStored] at equal
        exact Bool.false_ne_true equal
    | peerKey =>
        refine (pairwise_of_nodup_flatMap tidy.publicKeys).imp ?_
        intro left right apart key here there
        exact apart key (List.mem_of_mem_filter here) (List.mem_of_mem_filter there)
    | peerId =>
        refine (pairwise_of_nodup_flatMap (tidy.identifiers .peer (by decide))).imp ?_
        intro left right apart key here there
        exact apart key (List.mem_of_mem_filter here) (List.mem_of_mem_filter there)
    | user => exact pairwise_of_nodup_flatMap (tidy.identifiers .user (by decide))
    | privateDomain =>
        refine tidy.domains.imp_of_mem ?_
        intro left right leftMember rightMember apart key here there
        simp only [Lookup.keysOf, List.mem_ite_nil_right, List.mem_singleton] at here there
        obtain ⟨leftOwns, rfl⟩ := here
        obtain ⟨rightOwns, same⟩ := there
        have equal := (Text.equalIgnoringCase_iff_lowerCase
          (tidy.ascii left leftMember).2 (tidy.ascii right rightMember).2).mpr same
        rw [apart leftOwns rightOwns] at equal
        exact Bool.false_ne_true equal
  rw [Dict.values, List.pairwise_map] at values
  exact values

/-- The names of the stored tokens are those in the accounts. -/
theorem map_heldTokens (memory : FileEngine.Memory) (name : AccessToken → String) :
    memory.heldTokens.map (fun held => name held.2.2) =
      memory.accounts.values.flatMap (fun account =>
        (entitiesOf .token account).map name) := by
  simp [FileEngine.Memory.heldTokens, FileEngine.Memory.tokensOf, Dict.values, entitiesOf,
    List.map_flatMap, List.flatMap_map, Function.comp_def]

/-- Stored accounts that are tidy are distinct for the file engine. -/
theorem Tidy.distinct (tidy : Tidy memory.accounts.values) : memory.Distinct := by
  refine ⟨tidy.keysApart, ⟨?_, ?_⟩, ?_⟩
  · rw [map_heldTokens]
    exact tidy.identifiers .token (by decide)
  · rw [map_heldTokens]
    exact tidy.hashes
  · intro entry member
    exact tidy.ascii entry.2 (List.mem_map_of_mem member)

end Stored

end TenantStore.Engines
