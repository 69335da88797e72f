import TenantStore.Proofs.TableEngine.Filling
import TenantStore.Proofs.TableEngine.Finding

namespace TenantStore.TableEngine

/-!
# Filling over a leftover

Saving accounts over what an earlier filling left drops the records of each
account before it is saved. So the leftover disappears without a trace if all
of it belongs to accounts that are saved, and if no account takes a record over
that belongs to one saved later (`Covered`, `savedAll_covered`). Databases with
equal contents answer alike (`outcome_eq`).
-/

open Relational (Database)

/-! ## Whose records are dropped -/

/-- A record is one that is dropped with an account. -/
def Contents.Belongs (contents : Contents) (id : String) : {kind : Kind} → Record kind → Prop
  | .account, record => record.key = id
  | .token, record => record.owner ∈ contents.ownedKeys .user id
  | .rule, record => record.owner ∈ contents.ownedKeys .policy id
  | .setupKey, record => record.owner = id
  | .peer, record => record.owner = id
  | .user, record => record.owner = id
  | .group, record => record.owner = id
  | .policy, record => record.owner = id
  | .route, record => record.owner = id
  | .nameServerGroup, record => record.owner = id

instance (contents : Contents) (id : String) {kind : Kind} (record : Record kind) :
    Decidable (contents.Belongs id record) :=
  match kind with
  | .account => inferInstanceAs (Decidable (record.key = id))
  | .token => inferInstanceAs (Decidable (record.owner ∈ contents.ownedKeys .user id))
  | .rule => inferInstanceAs (Decidable (record.owner ∈ contents.ownedKeys .policy id))
  | .setupKey => inferInstanceAs (Decidable (record.owner = id))
  | .peer => inferInstanceAs (Decidable (record.owner = id))
  | .user => inferInstanceAs (Decidable (record.owner = id))
  | .group => inferInstanceAs (Decidable (record.owner = id))
  | .policy => inferInstanceAs (Decidable (record.owner = id))
  | .route => inferInstanceAs (Decidable (record.owner = id))
  | .nameServerGroup => inferInstanceAs (Decidable (record.owner = id))

/-- What is left when the records of some accounts are gone. -/
def Contents.without (leftover : Contents) (ids : List String) : Contents :=
  fun kind => (leftover kind).filter (fun record => ∀ id ∈ ids, ¬leftover.Belongs id record)

/-- Records of two contents, one after the other. -/
def Contents.join (front back : Contents) : Contents :=
  fun kind => front kind ++ back kind

/-- A leftover that disappears when some accounts are saved in their order. -/
structure Covered (leftover : Contents) (accounts : List Account) : Prop where
  /-- Everything belongs to one of the accounts. -/
  owned : ∀ (kind : Kind), ∀ record ∈ leftover kind,
    ∃ account ∈ accounts, leftover.Belongs account.id record
  /-- What has an identifier of an account belongs to it, or to an earlier one. -/
  inTurn : ∀ before account after, accounts = before ++ account :: after →
    ∀ (kind : Kind), ∀ record ∈ leftover kind,
      record.key ∈ (recordsOf account.normalized kind).map Record.key →
        ∃ earlier ∈ before ++ [account], leftover.Belongs earlier.id record

/-- What is left of a kind without an account. -/
theorem drop_apply (contents : Contents) (id : String) (kind : Kind) :
    contents.drop id kind =
      (contents kind).filter (fun record => ¬contents.Belongs id record) := by
  cases kind <;> rfl

/-! ## Putting behind others -/

section Behind

variable {kind : Kind} {front records new : List (Record kind)}

/-- A record with a new key is put behind the others. -/
theorem putRecord_behind
    {record : Record kind}
    (apart : record.key ∉ front.map Record.key) :
    putRecord record (front ++ records) = front ++ putRecord record records := by
  have kept : front.map (fun other => if other.key = record.key then record else other) =
      front := by
    refine Eq.trans (List.map_congr_left ?_) (List.map_id _)
    intro other member
    rw [if_neg]
    · rfl
    · exact fun same => apart (same ▸ List.mem_map_of_mem member)
  by_cases known : record.key ∈ records.map Record.key
  · have here : record.key ∈ (front ++ records).map Record.key := by
      rw [List.map_append]
      exact List.mem_append_right _ known
    rw [putRecord_of_mem known, putRecord_of_mem here, List.map_append, kept]
  · have nowhere : record.key ∉ (front ++ records).map Record.key := by
      rw [List.map_append, List.mem_append, not_or]
      exact ⟨apart, known⟩
    rw [putRecord_of_not_mem known, putRecord_of_not_mem nowhere, List.append_assoc]

/-- Records of other identifiers stay in front of those that are put. -/
theorem foldl_putRecord_behind
    (apart : ∀ record ∈ new, record.key ∉ front.map Record.key) :
    new.foldl (fun records record => putRecord record records) (front ++ records) =
      front ++ new.foldl (fun records record => putRecord record records) records := by
  induction new generalizing records with
  | nil => rfl
  | cons record rest inductionHypothesis =>
      rw [List.foldl_cons, List.foldl_cons, putRecord_behind (apart record List.mem_cons_self),
        inductionHypothesis (fun other member => apart other (List.mem_cons_of_mem _ member))]

/-- A record that is there after others were put is one of them or was there before. -/
theorem mem_foldl_putRecord
    {record : Record kind}
    (member : record ∈ new.foldl (fun records record => putRecord record records) records) :
    record ∈ new ∨ record ∈ records := by
  induction new generalizing records with
  | nil => exact .inr member
  | cons first rest inductionHypothesis =>
      rcases inductionHypothesis member with later | before
      · exact .inl (List.mem_cons_of_mem _ later)
      · change record ∈ putRecord first records at before
        by_cases known : first.key ∈ records.map Record.key
        · rw [putRecord_of_mem known] at before
          obtain ⟨other, otherMember, same⟩ := List.mem_map.mp before
          split at same
          · exact .inl (same ▸ List.mem_cons_self)
          · exact .inr (same ▸ otherMember)
        · rw [putRecord_of_not_mem known] at before
          rcases List.mem_append.mp before with old | new
          · exact .inr old
          · exact .inl (List.mem_singleton.mp new ▸ List.mem_cons_self)

end Behind

/-- What is saved into nothing are records of the accounts. -/
theorem mem_savedAll_nothing
    {accounts : List Account}
    {kind : Kind}
    {record : Record kind}
    (member : record ∈ Contents.savedAll (fun _ => []) accounts kind) :
    ∃ account ∈ accounts, record ∈ recordsOf account.normalized kind := by
  induction accounts using List.reverseRecOn with
  | nil => cases member
  | append_singleton before account inductionHypothesis =>
      have step : Contents.savedAll (fun _ => []) (before ++ [account]) =
          (Contents.savedAll (fun _ => []) before).saved account := by
        rw [Contents.savedAll, List.foldl_append]
        rfl
      rw [step, Contents.saved, Contents.over, putAll_apply, filterMap_accountEntries] at member
      rcases mem_foldl_putRecord member with new | old
      · exact ⟨account, by simp, new⟩
      · rw [drop_apply] at old
        obtain ⟨other, otherMember, here⟩ := inductionHypothesis (List.mem_of_mem_filter old)
        exact ⟨other, List.mem_append_left _ otherMember, here⟩

/-! ## Saving over a leftover -/

section Leftover

variable {leftover : Contents} {accounts done : List Account} {account : Account}

/-- What is left without some accounts belongs to none of them. -/
theorem mem_without_iff {ids : List String} {kind : Kind} {record : Record kind} :
    record ∈ leftover.without ids kind ↔
      record ∈ leftover kind ∧ ∀ id ∈ ids, ¬leftover.Belongs id record := by
  rw [Contents.without, List.mem_filter, decide_eq_true_eq]

/-- What is left has no identifier of an account that was saved. -/
theorem Covered.apart
    (covered : Covered leftover accounts)
    (within : done <+: accounts)
    {account : Account}
    (member : account ∈ done)
    {kind : Kind}
    {record saved : Record kind}
    (remains : record ∈ leftover.without (done.map Account.id) kind)
    (listed : saved ∈ recordsOf account.normalized kind) :
    record.key ≠ saved.key := by
  intro same
  obtain ⟨here, free⟩ := mem_without_iff.mp remains
  obtain ⟨before, after, rfl⟩ := List.append_of_mem member
  obtain ⟨rest, rfl⟩ := within
  obtain ⟨earlier, earlierMember, belongs⟩ := covered.inTurn before account (after ++ rest)
    (by simp) kind record here (same ▸ List.mem_map_of_mem listed)
  refine free earlier.id (List.mem_map_of_mem ?_) belongs
  rcases List.mem_append.mp earlierMember with first | last
  · exact List.mem_append_left _ first
  · rw [List.mem_singleton.mp last]
    simp

/-- Whose entities of a kind belong to users, or to policies. -/
structure Below (child parent : Kind) : Prop where
  belongs : ∀ (contents : Contents) (id : String) (record : Record child),
    contents.Belongs id record ↔ record.owner ∈ contents.ownedKeys parent id
  direct : ∀ (contents : Contents) (id : String) (record : Record parent),
    contents.Belongs id record ↔ record.owner = id
  exists_owner : ∀ (account : Account), ∀ record ∈ recordsOf account child,
    ∃ holder ∈ recordsOf account parent, holder.key = record.owner

/-- A token belongs to the account of its user. -/
theorem token_below_user : Below .token .user where
  belongs _ _ _ := Iff.rfl
  direct _ _ _ := Iff.rfl
  exists_owner account := (@exists_owner account).1

/-- A rule belongs to the account of its policy. -/
theorem rule_below_policy : Below .rule .policy where
  belongs _ _ _ := Iff.rfl
  direct _ _ _ := Iff.rfl
  exists_owner account := (@exists_owner account).2

/-- A key is owned if a record with it names the owner. -/
theorem mem_ownedKeys_iff {contents : Contents} {kind : Kind} {owner id : String} :
    id ∈ contents.ownedKeys kind owner ↔
      ∃ record ∈ contents kind, record.owner = owner ∧ record.key = id := by
  simp only [Contents.ownedKeys, Contents.owned, List.mem_map, List.mem_filter,
    decide_eq_true_eq, and_assoc]

/-- What is left belongs to an account as before, and what was saved as without it. -/
theorem Below.belongs_join_iff
    {child parent : Kind}
    (below : Below child parent)
    (covered : Covered leftover accounts)
    (within : done <+: accounts)
    (id : String)
    (record : Record child) :
    (record ∈ leftover.without (done.map Account.id) child →
      (((leftover.without (done.map Account.id)).join
          (Contents.savedAll (fun _ => []) done)).Belongs id record ↔
        leftover.Belongs id record)) ∧
    (record ∈ Contents.savedAll (fun _ => []) done child →
      (((leftover.without (done.map Account.id)).join
          (Contents.savedAll (fun _ => []) done)).Belongs id record ↔
        (Contents.savedAll (fun _ => []) done).Belongs id record)) := by
  have joined : ∀ holder : Record parent,
      holder ∈ (leftover.without (done.map Account.id)).join
          (Contents.savedAll (fun _ => []) done) parent ↔
        holder ∈ leftover.without (done.map Account.id) parent ∨
          holder ∈ Contents.savedAll (fun _ => []) done parent :=
    fun _ => List.mem_append
  constructor
  · intro remains
    obtain ⟨here, free⟩ := mem_without_iff.mp remains
    simp only [below.belongs, mem_ownedKeys_iff, joined] at free ⊢
    constructor
    · rintro ⟨holder, left | saved, owned, same⟩
      · exact ⟨holder, (mem_without_iff.mp left).1, owned, same⟩
      · -- The old holder of the identifier was taken over, and its owner was saved before.
        obtain ⟨account, accountMember, listed⟩ := mem_savedAll_nothing saved
        obtain ⟨owner, _, belongs⟩ := covered.owned child record here
        obtain ⟨old, oldMember, oldOwned, oldSame⟩ :=
          mem_ownedKeys_iff.mp ((below.belongs _ _ _).mp belongs)
        by_cases ownerDone : old.owner ∈ done.map Account.id
        · exact absurd ⟨old, oldMember, rfl, oldSame⟩ (free old.owner ownerDone)
        · have oldRemains : old ∈ leftover.without (done.map Account.id) parent := by
            refine mem_without_iff.mpr ⟨oldMember, ?_⟩
            intro other otherMember otherBelongs
            exact ownerDone ((below.direct _ _ _).mp otherBelongs ▸ otherMember)
          exact absurd (oldSame.trans same.symm)
            (covered.apart within accountMember oldRemains listed)
    · rintro ⟨holder, member, owned, same⟩
      refine ⟨holder, .inl (mem_without_iff.mpr ⟨member, ?_⟩), owned, same⟩
      intro other otherMember otherBelongs
      exact free other otherMember
        ⟨holder, member, (below.direct _ _ _).mp otherBelongs, same⟩
  · intro saved
    simp only [below.belongs, mem_ownedKeys_iff, joined]
    constructor
    · rintro ⟨holder, left | saved, owned, same⟩
      · obtain ⟨account, accountMember, listed⟩ := mem_savedAll_nothing saved
        obtain ⟨own, ownListed, ownSame⟩ := below.exists_owner _ _ listed
        exact absurd (same.trans ownSame.symm)
          (covered.apart within accountMember left ownListed)
      · exact ⟨holder, saved, owned, same⟩
    · rintro ⟨holder, member, owned, same⟩
      exact ⟨holder, .inr member, owned, same⟩

/-- Dropping an account from both is dropping it from each. -/
theorem drop_join
    (covered : Covered leftover accounts)
    (within : done <+: accounts)
    (id : String) :
    ((leftover.without (done.map Account.id)).join
        (Contents.savedAll (fun _ => []) done)).drop id =
      (leftover.without (done.map Account.id ++ [id])).join
        ((Contents.savedAll (fun _ => []) done).drop id) := by
  have both : ∀ (kind : Kind) (record : Record kind),
      (record ∈ leftover.without (done.map Account.id) kind →
        (((leftover.without (done.map Account.id)).join
            (Contents.savedAll (fun _ => []) done)).Belongs id record ↔
          leftover.Belongs id record)) ∧
      (record ∈ Contents.savedAll (fun _ => []) done kind →
        (((leftover.without (done.map Account.id)).join
            (Contents.savedAll (fun _ => []) done)).Belongs id record ↔
          (Contents.savedAll (fun _ => []) done).Belongs id record)) := by
    intro kind record
    cases kind with
    | token => exact token_below_user.belongs_join_iff covered within id record
    | rule => exact rule_below_policy.belongs_join_iff covered within id record
    | _ => exact ⟨fun _ => Iff.rfl, fun _ => Iff.rfl⟩
  funext kind
  rw [drop_apply, Contents.join, Contents.join, List.filter_append, drop_apply]
  congr 1
  · rw [Contents.without, Contents.without, List.filter_filter]
    apply List.filter_congr
    intro record member
    have extended : (∀ other ∈ done.map Account.id ++ [id], ¬leftover.Belongs other record) ↔
        ¬leftover.Belongs id record ∧
          ∀ other ∈ done.map Account.id, ¬leftover.Belongs other record := by
      simp only [List.mem_append, List.mem_singleton]
      constructor
      · intro free
        exact ⟨free id (.inr rfl), fun other otherMember => free other (.inl otherMember)⟩
      · rintro ⟨last, free⟩ other (otherMember | rfl)
        · exact free other otherMember
        · exact last
    rw [← Bool.decide_and, decide_eq_decide, extended]
    constructor
    · rintro ⟨last, free⟩
      exact ⟨fun belongs => last
        (((both kind record).1 (mem_without_iff.mpr ⟨member, free⟩)).mpr belongs), free⟩
    · rintro ⟨last, free⟩
      exact ⟨fun belongs => last
        (((both kind record).1 (mem_without_iff.mpr ⟨member, free⟩)).mp belongs), free⟩
  · apply List.filter_congr
    intro record member
    rw [decide_eq_decide, (both kind record).2 member]

/-- Over a covered leftover, accounts are saved as if there were nothing. -/
theorem savedAll_join
    (covered : Covered leftover accounts)
    (within : done <+: accounts) :
    leftover.savedAll done =
      (leftover.without (done.map Account.id)).join (Contents.savedAll (fun _ => []) done) := by
  induction done using List.reverseRecOn with
  | nil =>
      funext kind
      have all : leftover.without [] kind = leftover kind := by
        rw [Contents.without, List.filter_eq_self]
        intro record _
        exact decide_eq_true nofun
      rw [Contents.join, List.map_nil, all]
      exact (List.append_nil _).symm
  | append_singleton before account inductionHypothesis =>
      have earlier : before <+: accounts := (List.prefix_append _ _).trans within
      have step : ∀ contents : Contents, contents.savedAll (before ++ [account]) =
          (contents.savedAll before).saved account := by
        intro contents
        rw [Contents.savedAll, List.foldl_append]
        rfl
      rw [step, step, inductionHypothesis earlier, Contents.saved, drop_join covered earlier]
      funext kind
      rw [Contents.over, putAll_apply, filterMap_accountEntries, Contents.join, Contents.join,
        List.map_append, List.map_singleton, Contents.saved, Contents.over, putAll_apply,
        filterMap_accountEntries]
      refine foldl_putRecord_behind ?_
      intro record listed known
      obtain ⟨old, remains, same⟩ := List.mem_map.mp known
      have there : old ∈ leftover.without ((before ++ [account]).map Account.id) kind := by
        rwa [List.map_append, List.map_singleton]
      exact covered.apart within (List.mem_append_right _ List.mem_cons_self) there listed same

/-- A covered leftover disappears. -/
theorem savedAll_covered (covered : Covered leftover accounts) :
    leftover.savedAll accounts = Contents.savedAll (fun _ => []) accounts := by
  rw [savedAll_join covered (List.prefix_refl _)]
  funext kind
  have nothing : leftover.without (accounts.map Account.id) kind = [] := by
    rw [Contents.without, List.filter_eq_nil_iff]
    intro record member free
    obtain ⟨account, accountMember, belongs⟩ := covered.owned kind record member
    exact of_decide_eq_true free account.id (List.mem_map_of_mem accountMember) belongs
  rw [Contents.join, nothing, List.nil_append]

end Leftover

/-! ## Equal contents -/

/-- A call that asks and changes nothing. -/
def Asks : Call → Prop
  | .get _ => True
  | .all => True
  | .find _ _ => True
  | .idByPeerKey _ => True
  | .tokenByHash _ => True
  | .userByToken _ => True
  | .installation => True
  | _ => False

/-- Databases with equal contents answer alike. -/
theorem outcome_eq
    {left right : Database}
    {contents : Contents}
    {leftInstallation rightInstallation : Option String}
    (leftRepresents : Represents left contents leftInstallation)
    (rightRepresents : Represents right contents rightInstallation)
    (same : leftInstallation.getD "" = rightInstallation.getD "")
    {call : Call}
    (asks : Asks call) :
    (perform left call).outcome = (perform right call).outcome := by
  have loads : loadAccount left = loadAccount right := by
    funext id
    rw [leftRepresents.loadAccount_eq, rightRepresents.loadAccount_eq]
  cases call with
  | get id => simp only [perform, answered, loads]
  | all => simp only [perform, answered, leftRepresents.loadAll_eq, rightRepresents.loadAll_eq,
      loads]
  | find lookup key =>
      simp only [perform, answered, leftRepresents.findAccount_eq,
        rightRepresents.findAccount_eq]
  | idByPeerKey key =>
      simp only [perform, answered, leftRepresents.findAccountId_eq,
        rightRepresents.findAccountId_eq]
  | tokenByHash hash =>
      simp only [perform, answered, leftRepresents.findToken_eq, rightRepresents.findToken_eq]
  | userByToken token =>
      simp only [perform, answered, leftRepresents.findUserByToken_eq,
        rightRepresents.findUserByToken_eq]
  | installation =>
      simp only [perform, answered, leftRepresents.installation_eq,
        rightRepresents.installation_eq, same]
  | _ => exact asks.elim

end TenantStore.TableEngine
