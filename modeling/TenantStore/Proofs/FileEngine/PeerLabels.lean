import TenantStore.Proofs.DnsLabels
import TenantStore.Proofs.FileEngine.MigratedAccounts

namespace TenantStore.FileEngine.Migration

/-!
# Labels given to peers

When the peers of an account are labelled, each that has no label gets the
first one that is free when it has its turn: `labelPeers_first`. The labels
that are taken then are the old ones and those of the peers before it, so in
the end no two peers share a new label.

A map of peers is iterated over in no particular order, and in another one each
time. `labelVisited` labels peers by such iterations, and makes the same of an
account as `labelPeers` whatever the orders are.
-/

variable {account : Account}

/-! ## One peer after the other -/

theorem get?_labelPeer (account : Account) (turn slot : String) :
    (labelPeer account turn).peers.get? slot =
      if turn = slot then
        (account.peers.get? slot).map (fun peer =>
          relabel (account.unusedLabel peer.name) peer)
      else
        account.peers.get? slot := by
  rw [labelPeer, Dict.get?_modify]
  rfl

/-- A peer that has no turn stays as it is. -/
theorem get?_foldl_labelPeer_of_not_mem
    {slots : List String}
    {slot : String}
    (absent : slot ∉ slots)
    (account : Account) :
    (slots.foldl labelPeer account).peers.get? slot = account.peers.get? slot := by
  induction slots generalizing account with
  | nil => rfl
  | cons head rest inductionHypothesis =>
      rw [List.mem_cons, not_or] at absent
      rw [List.foldl_cons, inductionHypothesis absent.2, get?_labelPeer, if_neg (Ne.symm absent.1)]

theorem size_foldl_labelPeer (slots : List String) (account : Account) :
    (slots.foldl labelPeer account).peers.size = account.peers.size := by
  obtain ⟨labelOf, labeled, _⟩ := foldl_labelPeer slots account
  rw [labeled]
  exact List.length_map _

theorem mem_takenLabels_iff {label : String} :
    label ∈ account.takenLabels ↔
      label ≠ "" ∧ ∃ slot peer, account.peers.get? slot = some peer ∧ peer.dnsLabel = label := by
  rw [Account.takenLabels, List.mem_filter, List.mem_map, and_comm]
  simp only [Dict.mem_values_iff, Bool.not_eq_true', ← Bool.not_eq_true, String.isEmpty_iff]
  exact and_congr_right' ⟨fun ⟨peer, ⟨slot, found⟩, same⟩ => ⟨slot, peer, found, same⟩,
    fun ⟨slot, peer, found, same⟩ => ⟨peer, ⟨slot, found⟩, same⟩⟩

/-- An account has no more labels than peers. -/
theorem length_takenLabels_le (account : Account) :
    account.takenLabels.length ≤ account.peers.size := by
  refine (List.length_filter_le _ _).trans (le_of_eq ?_)
  rw [List.length_map, Dict.values, List.length_map, Dict.size]

/-! ## The turns -/

theorem unlabeledSlots_ascending (account : Account) :
    (unlabeledSlots account).Pairwise (· < ·) :=
  Dict.pairwise_lt_keys _

/-- When a peer has its turn, those before it are labelled and those after it are not. -/
theorem exists_turn {slot : String} (member : slot ∈ unlabeledSlots account) :
    ∃ before after, unlabeledSlots account = before ++ slot :: after ∧
      (∀ other ∈ before, other < slot) ∧ ∀ other ∈ slot :: after, ¬other < slot := by
  obtain ⟨before, after, split⟩ := List.append_of_mem member
  have ascending := unlabeledSlots_ascending account
  rw [split, List.pairwise_append] at ascending
  obtain ⟨_, later, apart⟩ := ascending
  refine ⟨before, after, split, fun other earlier => apart other earlier slot List.mem_cons_self,
    ?_⟩
  intro other inRest
  rcases List.mem_cons.mp inRest with rfl | inAfter
  · exact String.lt_irrefl other
  · exact String.lt_asymm (List.rel_of_pairwise_cons later inAfter)

/-- The label that a peer gets in its turn is not changed later. -/
theorem get?_labelPeers_of_turn
    {before after : List String}
    {slot : String}
    {peer : Peer}
    (split : unlabeledSlots account = before ++ slot :: after)
    (found : account.peers.get? slot = some peer) :
    (labelPeers account).peers.get? slot =
      some (relabel ((before.foldl labelPeer account).unusedLabel peer.name) peer) := by
  have distinct := (unlabeledSlots_ascending account).imp String.ne_of_lt
  rw [split, ← List.nodup_iff_pairwise_ne, List.nodup_middle, List.nodup_cons,
    List.mem_append, not_or] at distinct
  obtain ⟨⟨notBefore, notAfter⟩, _⟩ := distinct
  rw [labelPeers, split, List.foldl_append, List.foldl_cons,
    get?_foldl_labelPeer_of_not_mem notAfter, get?_labelPeer, if_pos rfl,
    get?_foldl_labelPeer_of_not_mem notBefore, found, Option.map_some]

/-! ## All labels -/

/-- The labels that the peers of an account have in the end, where some had none. -/
structure Labels (account : Account) (labelOf : String → Peer → String) : Prop where
  /-- A label that was there is kept. -/
  kept : ∀ slot peer, account.peers.get? slot = some peer → peer.dnsLabel ≠ "" →
    labelOf slot peer = peer.dnsLabel
  /-- A new label is the first that is free after the old ones and those of lesser slots. -/
  first : ∀ slot peer, account.peers.get? slot = some peer → peer.dnsLabel = "" →
    DnsLabel.First peer.name
      (fun label => ∃ other otherPeer, account.peers.get? other = some otherPeer ∧
        (otherPeer.dnsLabel ≠ "" ∨ other < slot) ∧ labelOf other otherPeer = label)
      (labelOf slot peer)

/-- A new label is not the label of any other peer. -/
theorem Labels.apart
    {labelOf : String → Peer → String}
    (labels : Labels account labelOf)
    {slot other : String}
    {peer otherPeer : Peer}
    (found : account.peers.get? slot = some peer)
    (unlabeled : peer.dnsLabel = "")
    (otherFound : account.peers.get? other = some otherPeer)
    (different : other ≠ slot) :
    labelOf other otherPeer ≠ labelOf slot peer := by
  intro same
  by_cases earlier : otherPeer.dnsLabel ≠ "" ∨ other < slot
  · exact (labels.first slot peer found unlabeled).free
      ⟨other, otherPeer, otherFound, earlier, same⟩
  · -- The other peer had its turn later, so this label was taken then.
    rw [not_or, not_not] at earlier
    have later : slot < other := Std.lt_of_le_of_ne (String.not_lt.mp earlier.2) different.symm
    exact (labels.first other otherPeer otherFound earlier.1).free
      ⟨slot, peer, found, Or.inr later, same.symm⟩

/-- What is taken when a peer has its turn. -/
theorem mem_takenLabels_of_turn
    {labelOf : String → Peer → String}
    (final : ∀ slot peer, account.peers.get? slot = some peer →
      (labelPeers account).peers.get? slot = some (relabel (labelOf slot peer) peer))
    (given : ∀ slot peer, account.peers.get? slot = some peer → labelOf slot peer ≠ "")
    {before after : List String}
    {slot : String}
    (split : unlabeledSlots account = before ++ slot :: after)
    (earlier : ∀ other ∈ before, other < slot)
    (later : ∀ other ∈ slot :: after, ¬other < slot)
    (label : String) :
    label ∈ (before.foldl labelPeer account).takenLabels ↔
      ∃ other otherPeer, account.peers.get? other = some otherPeer ∧
        (otherPeer.dnsLabel ≠ "" ∨ other < slot) ∧ labelOf other otherPeer = label := by
  have settled : labelPeers account =
      (slot :: after).foldl labelPeer (before.foldl labelPeer account) := by
    rw [labelPeers, split, List.foldl_append]
  have turnOver (other : String) (otherPeer : Peer)
      (otherFound : account.peers.get? other = some otherPeer)
      (turned : otherPeer.dnsLabel ≠ "" ∨ other < slot) :
      (before.foldl labelPeer account).peers.get? other =
        some (relabel (labelOf other otherPeer) otherPeer) := by
    have absent : other ∉ slot :: after := by
      intro member
      rcases turned with labeled | less
      · have unlabeled : other ∈ unlabeledSlots account := by
          rw [split]
          exact List.mem_append_right _ member
        exact labeled ((mem_unlabeledSlots_iff otherFound).mp unlabeled)
      · exact later other member less
    rw [← get?_foldl_labelPeer_of_not_mem absent, ← settled, final other otherPeer otherFound]
  rw [mem_takenLabels_iff]
  constructor
  · rintro ⟨nonempty, other, otherNow, foundNow, rfl⟩
    obtain ⟨otherPeer, otherFound⟩ : ∃ otherPeer, account.peers.get? other = some otherPeer := by
      obtain ⟨_, labeled, _⟩ := foldl_labelPeer before account
      rw [labeled, Dict.get?_mapValues, Option.map_eq_some_iff] at foundNow
      obtain ⟨otherPeer, otherFound, _⟩ := foundNow
      exact ⟨otherPeer, otherFound⟩
    by_cases turned : otherPeer.dnsLabel ≠ "" ∨ other < slot
    · rw [turnOver other otherPeer otherFound turned, Option.some.injEq] at foundNow
      exact ⟨other, otherPeer, otherFound, turned, congrArg Peer.dnsLabel foundNow⟩
    · rw [not_or, not_not] at turned
      have waiting : other ∉ before := mt (earlier other) turned.2
      rw [get?_foldl_labelPeer_of_not_mem waiting, otherFound, Option.some.injEq] at foundNow
      exact absurd (foundNow ▸ turned.1) nonempty
  · rintro ⟨other, otherPeer, otherFound, turned, rfl⟩
    exact ⟨given other otherPeer otherFound, other, _, turnOver other otherPeer otherFound turned,
      rfl⟩

/--
Labelling the peers of an account, if these are fewer than 32 bits count, changes
nothing but their labels. Labels that were there stay, and each other peer gets
the first that is free in its turn.
-/
theorem labelPeers_labels (few : account.peers.size + 1 < 0x100000000) :
    ∃ labelOf : String → Peer → String,
      labelPeers account =
          { account with
            peers := account.peers.mapValues (fun slot peer =>
              relabel (labelOf slot peer) peer) } ∧
        Labels account labelOf := by
  obtain ⟨labelOf, labeled, labels⟩ := labelPeers_eq account
  have final : ∀ slot peer, account.peers.get? slot = some peer →
      (labelPeers account).peers.get? slot = some (relabel (labelOf slot peer) peer) := by
    intro slot peer found
    rw [labeled, Dict.get?_mapValues, found, Option.map_some]
  refine ⟨labelOf, labeled, fun slot peer found => (labels slot peer found).2, ?_⟩
  intro slot peer found unlabeled
  obtain ⟨before, after, split, earlier, later⟩ :=
    exists_turn ((mem_unlabeledSlots_iff found).mpr unlabeled)
  have label : labelOf slot peer =
      (before.foldl labelPeer account).unusedLabel peer.name := by
    have same := (final slot peer found).symm.trans (get?_labelPeers_of_turn split found)
    exact congrArg Peer.dnsLabel (Option.some.inj same)
  have room : (before.foldl labelPeer account).takenLabels.length + 1 < 0x100000000 := by
    have most := length_takenLabels_le (before.foldl labelPeer account)
    rw [size_foldl_labelPeer] at most
    omega
  rw [label]
  exact ((DnsLabel.unused_eq_iff room).mp rfl).congr
    (mem_takenLabels_of_turn final (fun slot peer found => (labels slot peer found).1) split
      earlier later)

/-! ## Iterations in any order -/

/-- An iteration over a map of peers shows each entry once, in any order, each time anew. -/
def IsIteration (order : Nat → Dict Peer → List (String × Peer)) : Prop :=
  ∀ time peers, (order time peers).Perm peers.entries

/-- The labels that an iteration shows. -/
def shownLabels (entries : List (String × Peer)) : List String :=
  (entries.map (fun entry => entry.2.dnsLabel)).filter (fun label => !label.isEmpty)

/-- Label peers in turn, iterating over all peers for each of them. -/
def labelInTurn (order : Nat → Dict Peer → List (String × Peer)) :
    Nat → List String → Account → Account
  | _, [], account => account
  | time, slot :: rest, account =>
      labelInTurn order (time + 1) rest
        { account with
          peers := account.peers.modify slot (fun peer =>
            relabel (DnsLabel.unused peer.name (shownLabels (order time account.peers))) peer) }

/-- Collect the peers without a label, sort them, label them in turn, and count them. -/
def labelVisited
    (order : Nat → Dict Peer → List (String × Peer))
    (account : Account) :
    Account × Nat :=
  let unlabeled :=
    (((order 0 account.peers).filter (fun entry => isUnlabeled entry.2)).map (·.1)).mergeSort
      (fun left right => left ≤ right)
  (labelInTurn order 1 unlabeled account, unlabeled.length)

theorem labelInTurn_eq
    {order : Nat → Dict Peer → List (String × Peer)}
    (iteration : IsIteration order)
    (time : Nat)
    (slots : List String)
    (account : Account) :
    labelInTurn order time slots account = slots.foldl labelPeer account := by
  induction slots generalizing time account with
  | nil => rfl
  | cons slot rest inductionHypothesis =>
      have shown : (shownLabels (order time account.peers)).Perm account.takenLabels := by
        rw [Account.takenLabels, Dict.values, List.map_map]
        exact ((iteration time account.peers).map _).filter _
      rw [labelInTurn, inductionHypothesis, List.foldl_cons, labelPeer]
      simp only [DnsLabel.unused_perm shown, Account.unusedLabel, relabel]

/-- Whatever the orders of the iterations are, the same labels are given. -/
theorem labelVisited_eq
    {order : Nat → Dict Peer → List (String × Peer)}
    (iteration : IsIteration order)
    (account : Account) :
    labelVisited order account = (labelPeers account, (unlabeledSlots account).length) := by
  have slots :
      (((order 0 account.peers).filter (fun entry => isUnlabeled entry.2)).map (·.1)).mergeSort
          (fun left right => left ≤ right) =
        unlabeledSlots account := by
    rw [Dict.mergeSort_congr (((iteration 0 account.peers).filter _).map _)]
    exact Dict.mergeSort_keys (account.peers.filter (fun _ peer => isUnlabeled peer))
  simp only [labelVisited, slots, labelInTurn_eq iteration, labelPeers]

/-! ## The whole step -/

/--
Labelling the peers of an account, if these are fewer than 32 bits count, gives
every peer without a label the first label that is free in its turn: a valid
one, which no other peer has. Nothing else changes. In whatever orders the peers
are iterated over, the outcome is the same, with the number of peers that had
no label.
-/
theorem labelPeers_first
    (account : Account)
    (few : account.peers.size + 1 < 0x100000000) :
    ∃ labelOf : String → Peer → String,
      labelPeers account =
          { account with
            peers := account.peers.mapValues (fun slot peer =>
              relabel (labelOf slot peer) peer) } ∧
        Labels account labelOf ∧
        (∀ slot peer, account.peers.get? slot = some peer → peer.dnsLabel = "" →
          DnsLabel.isLabel (labelOf slot peer) = true ∧
            ∀ other otherPeer, account.peers.get? other = some otherPeer → other ≠ slot →
              labelOf other otherPeer ≠ labelOf slot peer) ∧
        ∀ order, IsIteration order →
          labelVisited order account =
            (labelPeers account,
              account.peers.values.countP (fun peer => peer.dnsLabel.isEmpty)) := by
  obtain ⟨labelOf, labeled, labels⟩ := labelPeers_labels few
  refine ⟨labelOf, labeled, labels, ?_, ?_⟩
  · intro slot peer found unlabeled
    exact ⟨(labels.first slot peer found unlabeled).isLabel,
      fun other otherPeer otherFound different =>
        labels.apart found unlabeled otherFound different⟩
  · intro order iteration
    have number : (unlabeledSlots account).length =
        account.peers.values.countP (fun peer => peer.dnsLabel.isEmpty) := by
      rw [Dict.values, List.countP_map, List.countP_eq_length_filter, unlabeledSlots, Dict.keys,
        List.length_map]
      rfl
    rw [labelVisited_eq iteration, number]

/-- Two peers whose names make one label, and one that has this label with a number. -/
def namesakes : Account where
  peers := .ofList [
    ("a", { name := "Laptop" }),
    ("b", { name := "LAPTOP" }),
    ("c", { name := "other", dnsLabel := "laptop-1" })
  ]

/-- The label that is there is kept, and the new ones go around it. -/
theorem labelPeers_first_namesakes :
    namesakes.peers.size + 1 < 0x100000000 ∧
      (labelPeers namesakes).peers.values.map Peer.dnsLabel =
        ["laptop", "laptop-2", "laptop-1"] ∧
      labelVisited (fun _ peers => peers.entries.reverse) namesakes =
        (labelPeers namesakes, 2) := by
  have few : namesakes.peers.size + 1 < 0x100000000 := by decide +kernel
  obtain ⟨_, _, _, _, iterated⟩ := labelPeers_first namesakes few
  have two : namesakes.peers.values.countP (fun peer => peer.dnsLabel.isEmpty) = 2 := by
    decide +kernel
  refine ⟨few, by decide +kernel, ?_⟩
  rw [iterated _ (fun _ peers => peers.entries.reverse_perm), two]

end TenantStore.FileEngine.Migration
