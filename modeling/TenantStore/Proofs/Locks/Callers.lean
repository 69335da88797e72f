import Mathlib.Data.List.Dedup
import Mathlib.Data.List.Nodup
import Mathlib.Data.List.Perm.Subperm
import TenantStore.Locks
import TenantStore.Proofs.Dictionaries

namespace TenantStore.Locking

/-!
# Callers of advisory locks

Any number of callers request, obtain and release locks, in any order. Which of
those that wait is granted a lock next is left to a `Discipline`, of which only
what a mutex and a reader-writer lock promise is known. A request looks up the
lock of its account, which is made if there is none, in one step.

Every reached registry is `Sound`: one lock belongs to each account that was
ever requested, and guards that hold one lock together are all shared. From this
follows what callers rely on (`Reaches.safe`).
-/

/-! ## Registries and steps -/

/-- Guards that can hold a lock together. -/
def Shares (left right : Guard) : Prop :=
  left.isExclusive = false ∧ right.isExclusive = false

/-- Which requests a lock grants: among those that hold it, and those that wait in order. -/
structure Discipline where
  admits : List Guard → List Guard → Guard → Prop
  /-- Nobody holds the lock beside an exclusive guard. -/
  excludes : ∀ {held waiting request}, admits held waiting request →
    ∀ holder ∈ held, Shares holder request
  /-- A lock that nobody holds is granted to one of those that wait for it. -/
  passes : ∀ {waiting}, waiting ≠ [] → ∃ request ∈ waiting, admits [] waiting request
  /-- Readers that only meet readers do not wait. -/
  shares : ∀ {held waiting}, (∀ guard ∈ held ++ waiting, guard.isExclusive = false) →
    ∀ request ∈ waiting, admits held waiting request

/-- A guard at the lock that was looked up for it. -/
structure Station where
  lock : Nat
  guard : Guard
  deriving Repr, DecidableEq

namespace Station

/-- The account whose lock is meant, if it is not the global lock. -/
def account? (station : Station) : Option String :=
  station.guard.scope.account?

end Station

/-- The locks that were made, and the callers at them. -/
structure Registry where
  sharedReads : Bool
  /-- How many locks were made; the first one is the global lock. -/
  made : Nat := 1
  /-- The locks of accounts. -/
  entries : Dict Nat := ∅
  held : List Station := []
  waiting : List Station := []

namespace Registry

/-- The lock of an account, or the global lock. -/
def lock? (registry : Registry) : Option String → Option Nat
  | none => some 0
  | some id => registry.entries.get? id

/-- Make the lock of an account. -/
def make (registry : Registry) (id : String) : Registry :=
  { registry with
    made := registry.made + 1
    entries := registry.entries.insert id registry.made }

/-- Look up the lock of an account, which the first lookup makes. -/
def lookUp (registry : Registry) : Option String → Nat × Registry
  | none => (0, registry)
  | some id =>
      match registry.entries.get? id with
      | some lock => (lock, registry)
      | none => (registry.made, registry.make id)

/-- The guard that a caller asks for. -/
def guardFor (registry : Registry) (ticket : String) (scope : LockScope) : Guard :=
  Locks.guardFor { sharedReads := registry.sharedReads } ticket scope

/-- Where a caller waits. -/
def station (registry : Registry) (ticket : String) (scope : LockScope) : Station where
  lock := (registry.lookUp scope.account?).1
  guard := registry.guardFor ticket scope

/-- Wait for the lock of a scope. -/
def request (registry : Registry) (ticket : String) (scope : LockScope) : Registry :=
  { (registry.lookUp scope.account?).2 with
    waiting := registry.waiting ++ [registry.station ticket scope] }

/-- Hold a lock instead of waiting for it. -/
def grant (registry : Registry) (station : Station) : Registry :=
  { registry with
    held := registry.held ++ [station]
    waiting := registry.waiting.filter (fun other =>
      other.guard.ticket ≠ station.guard.ticket) }

/-- Hold a lock no longer. -/
def release (registry : Registry) (station : Station) : Registry :=
  { registry with
    held := registry.held.filter (fun other =>
      other.guard.ticket ≠ station.guard.ticket) }

/-- All that hold a lock or wait for one. -/
def stations (registry : Registry) : List Station :=
  registry.held ++ registry.waiting

/-- How many accounts have a lock. -/
def trackedAccounts (registry : Registry) : Nat :=
  registry.entries.size

end Registry

/-- The guards of those stations that are at a lock. -/
def guardsAt (stations : List Station) (lock : Nat) : List Guard :=
  (stations.filter (fun station => station.lock = lock)).map Station.guard

/-- The guards of those stations that mean an account, or the global lock. -/
def guardsOf (stations : List Station) (account : Option String) : List Guard :=
  (stations.filter (fun station => station.account? = account)).map Station.guard

/-- What callers and locks do. -/
inductive Event where
  | request (ticket : String) (scope : LockScope)
  | grant (station : Station)
  | release (station : Station)

/-- The account that an event requests the lock of. -/
def Event.account? : Event → Option String
  | .request _ scope => scope.account?
  | _ => none

/-- One event in a registry. -/
inductive Step (discipline : Discipline) (registry : Registry) : Event → Registry → Prop where
  | request
      {ticket : String}
      {scope : LockScope}
      (fresh : ∀ station ∈ registry.stations, station.guard.ticket ≠ ticket) :
      Step discipline registry (.request ticket scope) (registry.request ticket scope)
  | grant
      {station : Station}
      (waits : station ∈ registry.waiting)
      (admitted : discipline.admits (guardsAt registry.held station.lock)
        (guardsAt registry.waiting station.lock) station.guard) :
      Step discipline registry (.grant station) (registry.grant station)
  | release
      {station : Station}
      (holds : station ∈ registry.held) :
      Step discipline registry (.release station) (registry.release station)

/-- The registries that events lead to. -/
inductive Reaches (discipline : Discipline) (sharedReads : Bool) :
    List Event → Registry → Prop where
  | start : Reaches discipline sharedReads [] { sharedReads }
  | step
      {events : List Event}
      {registry after : Registry}
      {event : Event}
      (reaches : Reaches discipline sharedReads events registry)
      (step : Step discipline registry event after) :
      Reaches discipline sharedReads (events ++ [event]) after

/-- The accounts whose locks were requested. -/
def requested (events : List Event) : List String :=
  events.filterMap Event.account?

/-! ## One lock for each account -/

/-- Locks that were made are the locks of one account each. -/
structure Numbered (registry : Registry) : Prop where
  made : ∀ {account lock}, registry.lock? account = some lock → lock < registry.made
  apart : ∀ {left right lock}, registry.lock? left = some lock →
    registry.lock? right = some lock → left = right

/-- What a lookup finds, and what it leaves as it was. -/
structure LooksUp
    (before : Registry)
    (account : Option String)
    (lock : Nat)
    (after : Registry) : Prop where
  found : after.lock? account = some lock
  kept : ∀ {other known}, before.lock? other = some known → after.lock? other = some known
  keys : ∀ id, id ∈ after.entries.keys ↔ id ∈ before.entries.keys ∨ account = some id
  numbered : Numbered after
  sharedReads : after.sharedReads = before.sharedReads
  held : after.held = before.held

namespace Numbered

/-- At the start there is the global lock alone. -/
theorem start (sharedReads : Bool) : Numbered { sharedReads } where
  made := by
    intro account lock known
    cases account with
    | none =>
        cases known
        exact Nat.one_pos
    | some id => cases known
  apart := by
    intro left right lock leftKnown rightKnown
    cases left with
    | none =>
        cases right with
        | none => rfl
        | some id => cases rightKnown
    | some id => cases leftKnown

variable {registry : Registry}

/-- A lock that is made is found for its account, and no other one changes. -/
theorem lock?_make (registry : Registry) (id : String) (other : Option String) :
    (registry.make id).lock? other =
      if other = some id then some registry.made else registry.lock? other := by
  cases other with
  | none => rfl
  | some name =>
      simp only [Registry.lock?, Registry.make, Dict.get?_insert, Option.some.injEq]
      by_cases same : id = name
      · rw [if_pos same, if_pos same.symm]
      · rw [if_neg same, if_neg (Ne.symm same)]

/-- The first lookup for an account makes a lock that no other account has. -/
theorem make
    (numbered : Numbered registry)
    {id : String}
    (unknown : registry.lock? (some id) = none) :
    LooksUp registry (some id) registry.made (registry.make id) where
  found := by rw [lock?_make, if_pos rfl]
  kept := by
    intro other known found
    rw [lock?_make, if_neg]
    · exact found
    · rintro rfl
      rw [unknown] at found
      cases found
  keys name := by rw [Registry.make, Dict.mem_keys_insert, Option.some.injEq]
  numbered := by
    have below : ∀ {account lock}, registry.lock? account = some lock → lock ≠ registry.made :=
      fun known => Nat.ne_of_lt (numbered.made known)
    constructor
    · intro account lock known
      rw [lock?_make] at known
      split at known
      · cases known
        exact Nat.lt_succ_self _
      · exact Nat.lt_succ_of_lt (numbered.made known)
    · intro left right lock leftKnown rightKnown
      rw [lock?_make] at leftKnown rightKnown
      split at leftKnown <;> split at rightKnown
      · rename_i isLeft isRight
        rw [isLeft, isRight]
      · cases leftKnown
        exact absurd rfl (below rightKnown)
      · cases rightKnown
        exact absurd rfl (below leftKnown)
      · exact numbered.apart leftKnown rightKnown
  sharedReads := rfl
  held := rfl

/-- Looking a lock up finds it, or makes one with a new number. -/
theorem lookUp (numbered : Numbered registry) (account : Option String) :
    LooksUp registry account (registry.lookUp account).1 (registry.lookUp account).2 := by
  cases account with
  | none => exact ⟨rfl, id, fun _ => by simp [Registry.lookUp], numbered, rfl, rfl⟩
  | some id =>
      cases known : registry.entries.get? id with
      | some lock =>
          have same : registry.lookUp (some id) = (lock, registry) := by
            rw [Registry.lookUp, known]
          rw [same]
          refine ⟨known, fun known => known, fun other => ?_, numbered, rfl, rfl⟩
          refine (or_iff_left_of_imp ?_).symm
          rintro ⟨⟩
          exact Dict.mem_keys_iff.mpr ⟨lock, known⟩
      | none =>
          have made : registry.lookUp (some id) = (registry.made, registry.make id) := by
            rw [Registry.lookUp, known]
          rw [made]
          exact numbered.make known

end Numbered

/-! ## Callers at their locks -/

/-- Two stations that are at one lock are those of guards that share it. -/
def Compatible (left right : Station) : Prop :=
  left.lock = right.lock → Shares left.guard right.guard

/-- Every caller is at the lock of its account, and those that hold one share it. -/
structure Sound (registry : Registry) : Prop where
  numbered : Numbered registry
  placed : ∀ station ∈ registry.stations,
    registry.lock? station.account? = some station.lock
  asked : ∀ station ∈ registry.stations,
    station.guard = registry.guardFor station.guard.ticket station.guard.scope
  excluded : registry.held.Pairwise Compatible
  tickets : (registry.stations.map (fun station => station.guard.ticket)).Nodup

namespace Sound

variable {discipline : Discipline} {registry after : Registry} {event : Event}

/-- At the start nobody is at a lock. -/
theorem start (sharedReads : Bool) : Sound { sharedReads } where
  numbered := .start sharedReads
  placed _ member := absurd member List.not_mem_nil
  asked _ member := absurd member List.not_mem_nil
  excluded := .nil
  tickets := .nil

/-- Stations are at one lock if they mean the same account. -/
theorem lock_eq_iff
    (sound : Sound registry)
    {left right : Station}
    (leftMember : left ∈ registry.stations)
    (rightMember : right ∈ registry.stations) :
    left.lock = right.lock ↔ left.account? = right.account? := by
  have leftPlaced := sound.placed left leftMember
  have rightPlaced := sound.placed right rightMember
  constructor
  · intro same
    exact sound.numbered.apart leftPlaced (same ▸ rightPlaced)
  · intro same
    rw [same, rightPlaced, Option.some.injEq] at leftPlaced
    exact leftPlaced.symm

/-- Those at a lock are those with its account: no account has two locks, and no lock two
accounts. -/
theorem guardsAt_eq
    (sound : Sound registry)
    {station : Station}
    (member : station ∈ registry.stations)
    {stations : List Station}
    (within : ∀ other ∈ stations, other ∈ registry.stations) :
    guardsAt stations station.lock = guardsOf stations station.account? := by
  rw [guardsAt, guardsOf]
  congr 1
  apply List.filter_congr
  intro other otherMember
  exact decide_eq_decide.mpr (sound.lock_eq_iff (within other otherMember) member)

/-- Callers that were there before stay at their locks. -/
theorem of_within
    (sound : Sound registry)
    {held waiting : List Station}
    (within : ∀ station ∈ held ++ waiting, station ∈ registry.stations)
    (excluded : held.Pairwise Compatible)
    (tickets : ((held ++ waiting).map (fun station => station.guard.ticket)).Nodup) :
    Sound { registry with held, waiting } where
  numbered := ⟨sound.numbered.made, sound.numbered.apart⟩
  placed station member := sound.placed station (within station member)
  asked station member := sound.asked station (within station member)
  excluded := excluded
  tickets := tickets

/-- A request adds one station behind all others. -/
theorem stations_request (sound : Sound registry) (ticket : String) (scope : LockScope) :
    (registry.request ticket scope).stations =
      registry.stations ++ [registry.station ticket scope] := by
  have looksUp := sound.numbered.lookUp scope.account?
  simp only [Registry.stations, Registry.request, looksUp.held, List.append_assoc]

/-- A request keeps the registry sound. -/
theorem request
    (sound : Sound registry)
    {ticket : String}
    {scope : LockScope}
    (fresh : ∀ station ∈ registry.stations, station.guard.ticket ≠ ticket) :
    Sound (registry.request ticket scope) := by
  have looksUp := sound.numbered.lookUp scope.account?
  have sharedReads : (registry.request ticket scope).sharedReads = registry.sharedReads :=
    looksUp.sharedReads
  have guard_eq : (registry.request ticket scope).guardFor = registry.guardFor := by
    funext ticket scope
    rw [Registry.guardFor, Registry.guardFor, sharedReads]
  refine ⟨⟨looksUp.numbered.made, looksUp.numbered.apart⟩, ?_, ?_, ?_, ?_⟩
  · rw [sound.stations_request, List.forall_mem_append, List.forall_mem_singleton]
    exact ⟨fun station before => looksUp.kept (sound.placed station before), looksUp.found⟩
  · rw [sound.stations_request, List.forall_mem_append, List.forall_mem_singleton, guard_eq]
    exact ⟨sound.asked, rfl⟩
  · exact looksUp.held.symm ▸ sound.excluded
  · rw [sound.stations_request, List.map_append, List.map_singleton, List.nodup_append]
    refine ⟨sound.tickets, List.nodup_singleton _, ?_⟩
    intro earlier member last isLast
    obtain ⟨station, stationMember, rfl⟩ := List.mem_map.mp member
    rw [List.mem_singleton.mp isLast]
    exact fresh station stationMember

/-- A caller that is granted a lock is no longer among those that wait. -/
theorem tickets_grant
    (sound : Sound registry)
    {station : Station}
    (waits : station ∈ registry.waiting) :
    ((registry.grant station).stations.map (fun other => other.guard.ticket)).Nodup := by
  have tickets := sound.tickets
  rw [Registry.stations, List.map_append, List.nodup_append] at tickets
  obtain ⟨heldTickets, waitingTickets, apart⟩ := tickets
  have waiting : station.guard.ticket ∈
      registry.waiting.map (fun other => other.guard.ticket) :=
    List.mem_map_of_mem waits
  rw [Registry.stations, Registry.grant, List.map_append, List.map_append, List.nodup_append,
    List.nodup_append]
  refine ⟨⟨heldTickets, List.nodup_singleton _, ?_⟩,
    (List.filter_sublist.map _).nodup waitingTickets, ?_⟩
  · intro ticket member last isLast
    rw [List.mem_singleton.mp isLast]
    exact apart ticket member _ waiting
  · intro ticket member later laterMember
    obtain ⟨other, otherMember, rfl⟩ := List.mem_map.mp laterMember
    obtain ⟨otherWaits, unlike⟩ := List.mem_filter.mp otherMember
    rcases List.mem_append.mp member with held | last
    · exact apart ticket held _ (List.mem_map_of_mem otherWaits)
    · rw [List.mem_singleton.mp last]
      exact Ne.symm (of_decide_eq_true unlike)

/-- A grant keeps the registry sound, since nobody holds beside an exclusive guard. -/
theorem grant
    (sound : Sound registry)
    {station : Station}
    (waits : station ∈ registry.waiting)
    (admitted : discipline.admits (guardsAt registry.held station.lock)
      (guardsAt registry.waiting station.lock) station.guard) :
    Sound (registry.grant station) := by
  refine sound.of_within ?_ ?_ (sound.tickets_grant waits)
  · intro other member
    simp only [List.mem_append, List.mem_singleton, List.mem_filter] at member
    rcases member with (held | rfl) | ⟨waiting, _⟩
    · exact List.mem_append_left _ held
    · exact List.mem_append_right _ waits
    · exact List.mem_append_right _ waiting
  · rw [List.pairwise_append]
    refine ⟨sound.excluded, List.pairwise_singleton _ _, ?_⟩
    intro holder held other last same
    rw [List.mem_singleton.mp last] at same ⊢
    refine discipline.excludes admitted holder.guard ?_
    exact List.mem_map_of_mem (List.mem_filter.mpr ⟨held, decide_eq_true same⟩)

/-- A release keeps the registry sound. -/
theorem release (sound : Sound registry) (station : Station) :
    Sound (registry.release station) := by
  have fewer : (registry.release station).stations.Sublist registry.stations :=
    List.filter_sublist.append_right _
  exact sound.of_within (fun other member => fewer.subset member)
    (sound.excluded.filter _) ((fewer.map _).nodup sound.tickets)

/-- Every step keeps the registry sound. -/
theorem step (sound : Sound registry) (step : Step discipline registry event after) :
    Sound after := by
  cases step with
  | request fresh => exact sound.request fresh
  | grant waits admitted => exact sound.grant waits admitted
  | release => exact sound.release _

end Sound

section Reached

variable {discipline : Discipline} {sharedReads : Bool} {events : List Event}
  {registry after : Registry} {event : Event}

/-- Whatever happened, the registry is sound. -/
theorem Reaches.sound (reaches : Reaches discipline sharedReads events registry) :
    Sound registry := by
  induction reaches with
  | start => exact .start sharedReads
  | step _ step inductionHypothesis => exact inductionHypothesis.step step

/-- No step changes whether readers share. -/
theorem Step.sharedReads_eq
    (sound : Sound registry)
    (step : Step discipline registry event after) :
    after.sharedReads = registry.sharedReads := by
  cases step with
  | request => exact (sound.numbered.lookUp _).sharedReads
  | grant => rfl
  | release => rfl

/-- Whether readers share was settled at the start. -/
theorem Reaches.sharedReads_eq (reaches : Reaches discipline sharedReads events registry) :
    registry.sharedReads = sharedReads := by
  induction reaches with
  | start => rfl
  | step before step inductionHypothesis =>
      rw [step.sharedReads_eq before.sound, inductionHypothesis]

/-! ## Accounts that have a lock -/

/-- A request gives its account a lock, and nothing takes it away. -/
theorem Step.keys_iff
    (sound : Sound registry)
    (step : Step discipline registry event after)
    (id : String) :
    id ∈ after.entries.keys ↔ id ∈ registry.entries.keys ∨ event.account? = some id := by
  cases step with
  | request => exact (sound.numbered.lookUp _).keys id
  | grant => exact (or_iff_left nofun).symm
  | release => exact (or_iff_left nofun).symm

/-- The accounts that have a lock are those that were requested. -/
theorem Reaches.keys_iff
    (reaches : Reaches discipline sharedReads events registry)
    (id : String) :
    id ∈ registry.entries.keys ↔ id ∈ requested events := by
  induction reaches with
  | start => exact Iff.rfl
  | step before step inductionHypothesis =>
      rw [step.keys_iff before.sound, inductionHypothesis, requested, requested,
        List.filterMap_append, List.mem_append]
      simp [List.mem_filterMap]

/-- As many accounts are tracked as were ever asked for. -/
theorem Reaches.trackedAccounts_eq (reaches : Reaches discipline sharedReads events registry) :
    registry.trackedAccounts = (requested events).dedup.length := by
  have same_ids : registry.entries.keys.Perm (requested events).dedup := by
    rw [List.perm_ext_iff_of_nodup (Dict.keys_nodup _) (List.nodup_dedup _)]
    intro id
    rw [reaches.keys_iff, List.mem_dedup]
  rw [Registry.trackedAccounts, ← Dict.length_keys]
  exact same_ids.length_eq

/-- No step forgets an account. -/
theorem Step.trackedAccounts_le
    (sound : Sound registry)
    (step : Step discipline registry event after) :
    registry.trackedAccounts ≤ after.trackedAccounts := by
  rw [Registry.trackedAccounts, Registry.trackedAccounts, ← Dict.length_keys,
    ← Dict.length_keys]
  refine (List.subperm_of_subset (Dict.keys_nodup _) ?_).length_le
  exact fun id known => (step.keys_iff sound id).mpr (.inl known)

/-! ## Guards that hold a lock -/

/-- Of two guards that hold one lock neither is exclusive. -/
theorem Sound.guards_shared (sound : Sound registry) (account : Option String) :
    (guardsOf registry.held account).Pairwise Shares := by
  rw [guardsOf, List.pairwise_map]
  refine (sound.excluded.filter _).imp_of_mem ?_
  intro left right leftMember rightMember compatible
  obtain ⟨leftHeld, leftAccount⟩ := List.mem_filter.mp leftMember
  obtain ⟨rightHeld, rightAccount⟩ := List.mem_filter.mp rightMember
  refine compatible ((sound.lock_eq_iff (List.mem_append_left _ leftHeld)
    (List.mem_append_left _ rightHeld)).mpr ?_)
  rw [of_decide_eq_true leftAccount, of_decide_eq_true rightAccount]

/-- Those that share a lock are readers, unless one has it alone. -/
theorem shared_or_single
    {guards : List Guard}
    (shared : guards.Pairwise Shares) :
    (∀ guard ∈ guards, guard.isExclusive = false) ∨ guards.length = 1 := by
  match guards, shared with
  | [], _ => exact .inl (fun _ member => absurd member List.not_mem_nil)
  | [_], _ => exact .inr rfl
  | first :: second :: rest, shared =>
      have beside := (List.pairwise_cons.mp shared).1
      refine .inl (List.forall_mem_cons.mpr ⟨(beside second List.mem_cons_self).1, ?_⟩)
      exact fun guard member => (beside guard member).2

/-- A guard that is shared reads an account, where reads are shared. -/
theorem Sound.scope_of_shared
    (sound : Sound registry)
    {account : Option String}
    {guard : Guard}
    (member : guard ∈ guardsOf registry.held account)
    (shared : guard.isExclusive = false) :
    registry.sharedReads = true ∧ ∃ id, account = some id ∧ guard.scope = .accountRead id := by
  obtain ⟨station, stationMember, rfl⟩ := List.mem_map.mp member
  obtain ⟨held, isAccount⟩ := List.mem_filter.mp stationMember
  have isAccount := of_decide_eq_true isAccount
  have asked := congrArg Guard.isExclusive (sound.asked station (List.mem_append_left _ held))
  rw [shared, Registry.guardFor, Locks.guardFor] at asked
  rw [Station.account?] at isAccount
  cases scope : station.guard.scope with
  | global =>
      rw [scope] at asked
      cases asked
  | accountWrite id =>
      rw [scope] at asked
      cases asked
  | accountRead id =>
      rw [scope] at asked isAccount
      refine ⟨?_, id, isAccount.symm, rfl⟩
      simpa [Locks.isExclusive] using asked.symm

/-- An exclusive guard is the only one at its lock. -/
theorem Sound.guards_eq_of_exclusive
    (sound : Sound registry)
    {account : Option String}
    {guard : Guard}
    (member : guard ∈ guardsOf registry.held account)
    (exclusive : guard.isExclusive = true) :
    guardsOf registry.held account = [guard] := by
  rcases shared_or_single (sound.guards_shared account) with shared | single
  · rw [shared guard member] at exclusive
    cases exclusive
  · obtain ⟨only, only_eq⟩ := List.length_eq_one_iff.mp single
    rw [only_eq, List.mem_singleton] at member
    rw [only_eq, member]

/-! ## Readers beside each other -/

/-- Where all hold a lock and read, one more reader can hold a lock. -/
theorem Reaches.join
    (reaches : Reaches discipline true events registry)
    (quiet : registry.waiting = [])
    (reads : ∀ holder ∈ registry.held, holder.guard.isExclusive = false)
    {ticket : String}
    (fresh : ∀ holder ∈ registry.held, holder.guard.ticket ≠ ticket)
    (id : String) :
    ∃ events after, Reaches discipline true events after ∧ after.waiting = [] ∧
      after.held.map Station.guard =
        registry.held.map Station.guard ++ [⟨ticket, .accountRead id, false⟩] := by
  have requests := reaches.step (@Step.request discipline registry ticket (.accountRead id) (by
    rw [Registry.stations, quiet, List.append_nil]
    exact fresh))
  have reader_guard : (registry.station ticket (.accountRead id)).guard =
      ⟨ticket, .accountRead id, false⟩ := by
    rw [Registry.station, Registry.guardFor, reaches.sharedReads_eq]
    rfl
  have held_eq : (registry.request ticket (.accountRead id)).held = registry.held :=
    (reaches.sound.numbered.lookUp (some id)).held
  have waiting_eq : (registry.request ticket (.accountRead id)).waiting =
      [registry.station ticket (.accountRead id)] := by
    rw [Registry.request, quiet]
    rfl
  generalize registry.station ticket (.accountRead id) = reader at reader_guard waiting_eq
  generalize registry.request ticket (.accountRead id) = waits at requests held_eq waiting_eq
  have admitted : discipline.admits (guardsAt waits.held reader.lock)
      (guardsAt waits.waiting reader.lock) reader.guard := by
    rw [held_eq, waiting_eq]
    apply discipline.shares
    · intro guard member
      rcases List.mem_append.mp member with held | waiting
      · obtain ⟨holder, found, rfl⟩ := List.mem_map.mp held
        exact reads holder (List.mem_filter.mp found).1
      · obtain ⟨other, found, rfl⟩ := List.mem_map.mp waiting
        rw [List.mem_singleton.mp (List.mem_filter.mp found).1, reader_guard]
    · exact List.mem_map_of_mem
        (List.mem_filter.mpr ⟨List.mem_singleton_self reader, decide_eq_true rfl⟩)
  refine ⟨_, _, requests.step (.grant (waiting_eq ▸ List.mem_singleton_self reader) admitted),
    ?_, ?_⟩
  · simp [Registry.grant, waiting_eq]
  · rw [Registry.grant, held_eq, List.map_append, List.map_singleton, reader_guard]

/-! ## Safety -/

/-- A caller waits, and nobody who waits for the same lock can be granted it. -/
structure Blocked (discipline : Discipline) (registry : Registry) (station : Station) : Prop where
  waits : station ∈ registry.waiting
  stuck : ∀ other ∈ registry.waiting, other.lock = station.lock →
    ¬∃ after, Step discipline registry (.grant other) after

/-- The guards of an account are chosen by their scope. -/
theorem guardsOf_eq_filter (stations : List Station) (account : Option String) :
    guardsOf stations account =
      (stations.map Station.guard).filter (fun guard => guard.scope.account? = account) := by
  rw [List.filter_map]
  rfl

/-- Where no guards can be shared, at most one holds a lock. -/
theorem Sound.guards_length_le_one
    (sound : Sound registry)
    {account : Option String}
    (alone : account = none ∨ registry.sharedReads = false) :
    (guardsOf registry.held account).length ≤ 1 := by
  rcases shared_or_single (sound.guards_shared account) with shared | single
  · have nobody : guardsOf registry.held account = [] := by
      rw [List.eq_nil_iff_forall_not_mem]
      intro guard member
      obtain ⟨sharedReads, id, isAccount, _⟩ := sound.scope_of_shared member (shared guard member)
      rcases alone with isGlobal | unshared
      · rw [isGlobal] at isAccount
        cases isAccount
      · rw [unshared] at sharedReads
        cases sharedReads
    rw [nobody]
    exact Nat.zero_le 1
  · exact Nat.le_of_eq single

/-- Two readers of an account can hold its lock together. -/
theorem two_readers (discipline : Discipline) (id ticket : String) :
    ∃ events registry, Reaches discipline true events registry ∧
      guardsOf registry.held (some id) =
        [⟨ticket, .accountRead id, false⟩, ⟨ticket ++ "+", .accountRead id, false⟩] := by
  have opening : Reaches discipline true [] { sharedReads := true } := .start
  have nobody : ∀ holder ∈ ([] : List Station), holder.guard.ticket ≠ ticket := nofun
  obtain ⟨_, one, reachesOne, quietOne, heldOne⟩ := opening.join rfl nofun nobody id
  rw [List.map_nil, List.nil_append] at heldOne
  have first : ∀ holder ∈ one.held, holder.guard = ⟨ticket, .accountRead id, false⟩ := by
    intro holder member
    exact List.mem_singleton.mp (heldOne ▸ List.mem_map_of_mem member)
  have unlike : ticket ≠ ticket ++ "+" := by
    intro same
    have lengths := congrArg String.length same
    rw [String.length_append] at lengths
    have positive : "+".length = 1 := rfl
    omega
  obtain ⟨events, both, reachesBoth, _, heldBoth⟩ := reachesOne.join quietOne
    (fun holder member => by rw [first holder member])
    (fun holder member => by rw [first holder member]; exact unlike) id
  refine ⟨events, both, reachesBoth, ?_⟩
  rw [guardsOf_eq_filter, heldBoth, heldOne]
  simp [LockScope.account?]

/-- What callers can rely on in a registry that events have led to. -/
structure Safe
    (discipline : Discipline)
    (sharedReads : Bool)
    (events : List Event)
    (registry : Registry) : Prop where
  /-- The callers for one account meet at one lock, and nobody else does. -/
  oneLock : ∀ left ∈ registry.stations, ∀ right ∈ registry.stations,
    left.lock = right.lock ↔ left.account? = right.account?
  global : (guardsOf registry.held none).length ≤ 1
  account : ∀ id,
    (∀ guard ∈ guardsOf registry.held (some id),
      guard.scope = .accountRead id ∧ guard.isExclusive = false) ∨
    (guardsOf registry.held (some id)).length = 1
  unshared : sharedReads = false → ∀ id, (guardsOf registry.held (some id)).length ≤ 1
  /-- A guard is exclusive if wherever it holds its lock it is alone. -/
  exclusive : ∀ guard account, guard ∈ guardsOf registry.held account →
    (guard.isExclusive = true ↔
      ∀ others other, Reaches discipline sharedReads others other →
        guard ∈ guardsOf other.held account → guardsOf other.held account = [guard])
  blocked : ∀ station, Blocked discipline registry station →
    ∃ holder ∈ registry.held, holder.lock = station.lock
  /-- Whether a request is granted is told by the callers for its own account. -/
  granted : ∀ station ∈ registry.waiting,
    (∃ after, Step discipline registry (.grant station) after) ↔
      discipline.admits (guardsOf registry.held station.account?)
        (guardsOf registry.waiting station.account?) station.guard
  tracked : registry.trackedAccounts = (requested events).dedup.length
  lasting : ∀ event after, Step discipline registry event after →
    registry.trackedAccounts ≤ after.trackedAccounts

/-- A request that is blocked is at a lock that somebody holds. -/
theorem Blocked.held
    {station : Station}
    (blocked : Blocked discipline registry station) :
    ∃ holder ∈ registry.held, holder.lock = station.lock := by
  by_contra nobody
  simp only [not_exists, not_and] at nobody
  have free : guardsAt registry.held station.lock = [] := by
    rw [guardsAt, List.map_eq_nil_iff, List.filter_eq_nil_iff]
    exact fun holder held same => nobody holder held (of_decide_eq_true same)
  have waits : station.guard ∈ guardsAt registry.waiting station.lock :=
    List.mem_map_of_mem (List.mem_filter.mpr ⟨blocked.waits, decide_eq_true rfl⟩)
  obtain ⟨guard, member, admitted⟩ := discipline.passes (List.ne_nil_of_mem waits)
  obtain ⟨other, found, rfl⟩ := List.mem_map.mp member
  obtain ⟨otherWaits, atLock⟩ := List.mem_filter.mp found
  have sameLock := of_decide_eq_true atLock
  refine blocked.stuck other otherWaits sameLock ⟨_, .grant otherWaits ?_⟩
  rw [sameLock, free]
  exact admitted

/-- Whatever callers do, and whichever of them are granted locks, they can rely on it. -/
theorem Reaches.safe (reaches : Reaches discipline sharedReads events registry) :
    Safe discipline sharedReads events registry where
  oneLock _ leftMember _ rightMember := reaches.sound.lock_eq_iff leftMember rightMember
  global := reaches.sound.guards_length_le_one (.inl rfl)
  account id := by
    refine (shared_or_single (reaches.sound.guards_shared (some id))).imp_left ?_
    intro shared guard member
    obtain ⟨_, other, same, scope⟩ := reaches.sound.scope_of_shared member (shared guard member)
    cases same
    exact ⟨scope, shared guard member⟩
  unshared isFalse id :=
    reaches.sound.guards_length_le_one (.inr (reaches.sharedReads_eq.trans isFalse))
  exclusive guard account member := by
    constructor
    · intro exclusive others other otherReaches otherMember
      exact otherReaches.sound.guards_eq_of_exclusive otherMember exclusive
    · intro alone
      by_contra shared
      rw [Bool.not_eq_true] at shared
      obtain ⟨isTrue, id, rfl, scope⟩ := reaches.sound.scope_of_shared member shared
      obtain rfl := reaches.sharedReads_eq.symm.trans isTrue
      obtain ⟨events, other, otherReaches, both⟩ := two_readers discipline id guard.ticket
      have guard_eq : guard = ⟨guard.ticket, .accountRead id, false⟩ := by
        rw [← scope, ← shared]
      have alone := alone events other otherReaches (by
        rw [both, ← guard_eq]
        exact List.mem_cons_self)
      rw [both] at alone
      exact absurd (congrArg List.length alone) (by simp)
  blocked _ blocked := blocked.held
  granted station waits := by
    have at_eq := @Sound.guardsAt_eq _ reaches.sound station (List.mem_append_right _ waits)
    rw [← at_eq (fun _ => List.mem_append_left _), ← at_eq (fun _ => List.mem_append_right _)]
    constructor
    · rintro ⟨_, _ | ⟨_, admitted⟩⟩
      exact admitted
    · exact fun admitted => ⟨_, .grant waits admitted⟩
  tracked := reaches.trackedAccounts_eq
  lasting _ _ step := step.trackedAccounts_le reaches.sound

end Reached

end TenantStore.Locking
