import Mathlib.Data.List.TakeWhile
import Mathlib.Logic.Function.Basic
import TenantStore.Proofs.Locks.Callers

namespace TenantStore

/-!
# Locks that serve callers in the order of their requests

Whatever `Locks` do is a course of events in a `Registry` whose locks are granted
in the order of requests (`exists_follows`), so that callers rely on both alike
(`locks_safe`). One request or release of `Locks` can take several of these
events. A `Line` is what a lock has in common with a registry: a lock grants the
front of its line at once, a registry grants one guard of it after the other.
-/

open Locking

/-! ## Lines -/

/-- The guards that hold a lock, and those that wait for it in order. -/
@[ext] structure Locking.Line where
  held : List Guard
  waiting : List Guard
  deriving DecidableEq

namespace Locking.Line

/-- Wait at the end of a line. -/
def join (line : Line) (guard : Guard) : Line :=
  { line with waiting := line.waiting ++ [guard] }

/-- Hold the lock no longer. -/
def leave (line : Line) (ticket : String) : Line :=
  { line with held := line.held.filter (fun guard => guard.ticket ≠ ticket) }

/-- The front of a line gets the lock. -/
def Serves (before after : Line) : Prop :=
  ∃ front, before.waiting = front ++ after.waiting ∧ after.held = before.held ++ front

end Locking.Line

namespace Lock

variable {lock : Lock} {guard : Guard}

/-- Those that wait for a lock, in order. -/
def waiting (lock : Lock) : List Guard :=
  lock.next.toList ++ lock.queue

/-- Those that hold a lock and those that wait for it. -/
def line (lock : Lock) : Line where
  held := lock.held
  waiting := lock.waiting

/-- Nobody waits for a lock that could be granted to them. -/
structure Settled (lock : Lock) : Prop where
  shared : lock.held.Pairwise Shares
  next : ∀ guard, lock.next = some guard → guard.isExclusive = true ∧
    lock.held ≠ [] ∧ ∀ holder ∈ lock.held, holder.isExclusive = false
  queue : lock.next = none → (∀ holder ∈ lock.held, holder.isExclusive = false) →
    lock.queue = []

/-- What a lock becomes that serves a line. -/
structure Answers (before : Line) (after : Lock) : Prop where
  settled : after.Settled
  serves : before.Serves after.line

/-- A lock that nobody has asked for. -/
theorem settled_of_unused : Settled {} where
  shared := .nil
  next := nofun
  queue _ _ := rfl

/-- Somebody holds a lock that others wait for. -/
theorem Settled.held_ne_nil (settled : lock.Settled) (waits : lock.waiting ≠ []) :
    lock.held ≠ [] := by
  intro free
  cases isNext : lock.next with
  | some guard => exact (settled.next guard isNext).2.1 free
  | none =>
      have queue := settled.queue isNext (by simp [free])
      exact waits (by rw [waiting, isNext, queue]; rfl)

/-- The test of a lock for readers, as a property of the guards. -/
theorem all_shared_iff {guards : List Guard} :
    guards.all (fun guard => !guard.isExclusive) = true ↔
      ∀ guard ∈ guards, guard.isExclusive = false := by
  simp

/-! ### Requests -/

/-- Where a lock cannot be shared, or others wait for it, a request goes to the queue. -/
theorem answers_queued
    (settled : lock.Settled)
    (closed : lock.next = none → ¬∀ holder ∈ lock.held, holder.isExclusive = false) :
    Answers (lock.line.join guard) { lock with queue := lock.queue ++ [guard] } where
  settled := ⟨settled.shared, settled.next, fun isNone shared => absurd shared (closed isNone)⟩
  serves := ⟨[], by simp [Line.join, line, waiting], by simp [Line.join, line]⟩

/-- Where nobody waits, a request that shares the lock with its holders gets it. -/
theorem answers_obtained
    (settled : lock.Settled)
    (isNone : lock.next = none)
    (shares : ∀ holder ∈ lock.held, Shares holder guard) :
    Answers (lock.line.join guard) { lock with held := lock.held ++ [guard] } := by
  have drained : lock.queue = [] :=
    settled.queue isNone fun holder member => (shares holder member).1
  constructor
  · refine ⟨?_, by simp [isNone], fun _ _ => drained⟩
    rw [List.pairwise_append]
    refine ⟨settled.shared, List.pairwise_singleton _ _, ?_⟩
    simpa using shares
  · exact ⟨[guard], by simp [Line.join, line, waiting, isNone, drained], rfl⟩

/-- Where nobody waits, an exclusive request waits for shared guards to go. -/
theorem answers_next
    (settled : lock.Settled)
    (isNone : lock.next = none)
    (exclusive : guard.isExclusive = true)
    (busy : lock.held ≠ [])
    (shared : ∀ holder ∈ lock.held, holder.isExclusive = false) :
    Answers (lock.line.join guard) { lock with next := some guard } := by
  have drained : lock.queue = [] := settled.queue isNone shared
  constructor
  · refine ⟨settled.shared, ?_, nofun⟩
    rintro _ ⟨⟩
    exact ⟨exclusive, busy, shared⟩
  · exact ⟨[], by simp [Line.join, line, waiting, isNone, drained],
      by simp [Line.join, line]⟩

/-- A request joins the line, and is granted if nobody stands in the way. -/
theorem answers_request (settled : lock.Settled) (guard : Guard) :
    Answers (lock.line.join guard) (lock.request guard) := by
  rw [request, isOpenTo]
  cases isNext : lock.next with
  | some other =>
      have queued : Answers (lock.line.join guard)
          { lock with queue := lock.queue ++ [guard] } :=
        answers_queued settled (by simp [isNext])
      simpa [isNext] using queued
  | none =>
      cases all : lock.held.all (fun holder => !holder.isExclusive) with
      | false =>
          have unshared := mt all_shared_iff.mpr (all ▸ Bool.false_ne_true)
          have busy : lock.held ≠ [] := fun free => unshared (by simp [free])
          have queued : Answers (lock.line.join guard)
              { lock with queue := lock.queue ++ [guard] } :=
            answers_queued settled fun _ => unshared
          simpa [isNext, busy] using queued
      | true =>
          have shared := all_shared_iff.mp all
          cases exclusive : guard.isExclusive with
          | false =>
              simpa [isNext] using answers_obtained settled isNext
                fun holder member => ⟨shared holder member, exclusive⟩
          | true =>
              by_cases busy : lock.held = []
              · have obtained : Answers (lock.line.join guard)
                    { lock with held := lock.held ++ [guard] } :=
                  answers_obtained settled isNext (by simp [busy])
                simpa [isNext, busy] using obtained
              · simpa [isNext, busy] using answers_next settled isNext exclusive busy shared

/-! ### Releases -/

/-- An exclusive guard keeps all others waiting. -/
theorem settled_of_exclusive (exclusive : guard.isExclusive = true) (queue : List Guard) :
    Settled { held := [guard], queue } where
  shared := List.pairwise_singleton _ _
  next := nofun
  queue _ shared := by
    rw [shared guard List.mem_cons_self] at exclusive
    cases exclusive

/-- A lock that nobody holds is granted to the front of its queue. -/
theorem answers_fromQueue (queue : List Guard) : Answers ⟨[], queue⟩ (fromQueue queue) := by
  have shared : ∀ guard ∈ queue.takeWhile (fun guard => !guard.isExclusive),
      guard.isExclusive = false := by
    intro guard member
    simpa using List.mem_takeWhile_imp member
  have exclusive : ∀ guard ∈ (queue.dropWhile (fun guard => !guard.isExclusive)).head?,
      guard.isExclusive = true := by
    intro guard member
    have unshared := List.head?_dropWhile_not (fun guard : Guard => !guard.isExclusive) queue
    rw [member] at unshared
    simpa using unshared
  have whole : queue.takeWhile (fun guard => !guard.isExclusive) ++
      queue.dropWhile (fun guard => !guard.isExclusive) = queue :=
    List.takeWhile_append_dropWhile
  rw [fromQueue]
  generalize queue.takeWhile (fun guard => !guard.isExclusive) = front at *
  generalize queue.dropWhile (fun guard => !guard.isExclusive) = back at *
  subst whole
  have frontShares : front.Pairwise Shares :=
    List.pairwise_of_forall_mem_list fun left leftMember right rightMember =>
      ⟨shared left leftMember, shared right rightMember⟩
  -- Behind the shared guards of the front stands an exclusive one, or nobody.
  match front, back with
  | [], [] => exact ⟨settled_of_unused, [], rfl, rfl⟩
  | [], guard :: rest =>
      exact ⟨settled_of_exclusive (exclusive guard rfl) rest, [guard], rfl, rfl⟩
  | first :: more, [] => exact ⟨⟨frontShares, nofun, fun _ _ => rfl⟩, first :: more, rfl, rfl⟩
  | first :: more, guard :: rest =>
      refine ⟨⟨frontShares, ?_, nofun⟩, first :: more, rfl, rfl⟩
      rintro _ ⟨⟩
      exact ⟨exclusive guard rfl, List.cons_ne_nil _ _, shared⟩

/-- Guards that go leave those that stay, and those that wait, as they were. -/
theorem Settled.of_remaining
    (settled : lock.Settled)
    {remaining : List Guard}
    (fewer : remaining.Sublist lock.held)
    (busy : remaining ≠ []) :
    Settled { lock with held := remaining } where
  shared := settled.shared.sublist fewer
  next guard isNext :=
    have ⟨exclusive, _, shared⟩ := settled.next guard isNext
    ⟨exclusive, busy, fun holder member => shared holder (fewer.subset member)⟩
  queue isNone shared := by
    refine settled.queue isNone ?_
    rcases shared_or_single settled.shared with allShared | single
    · exact allShared
    · have positive := List.length_pos_of_ne_nil busy
      rwa [← fewer.eq_of_length_le (by omega)]

/-- A release leaves the line, and passes the lock on if nobody else holds it. -/
theorem answers_release (settled : lock.Settled) (ticket : String) :
    Answers (lock.line.leave ticket) (lock.release ticket) := by
  have remaining_eq : lock.held.filter (fun guard => guard.ticket != ticket) =
      lock.held.filter (fun guard => guard.ticket ≠ ticket) :=
    List.filter_congr fun _ _ => (decide_not).symm
  have fewer : (lock.held.filter fun guard => guard.ticket ≠ ticket).Sublist lock.held :=
    List.filter_sublist
  rw [release, remaining_eq, Line.leave, line]
  generalize (lock.held.filter fun guard => guard.ticket ≠ ticket) = remaining at fewer
  cases remaining with
  | cons holder others =>
      exact ⟨settled.of_remaining fewer (List.cons_ne_nil _ _), [], rfl,
        (List.append_nil _).symm⟩
  | nil =>
      cases isNext : lock.next with
      | none =>
          rw [waiting, isNext]
          exact answers_fromQueue lock.queue
      | some guard =>
          rw [waiting, isNext]
          exact ⟨settled_of_exclusive (settled.next guard isNext).1 lock.queue, [guard], rfl, rfl⟩

end Lock

/-! ## Registries that grant in the order of requests -/

namespace Locking

/-- A lock is granted to those who share it with all that came before them. -/
def arrivalOrder : Discipline where
  admits held waiting request :=
    ∃ earlier later, waiting = earlier ++ request :: later ∧
      ∀ guard ∈ held ++ earlier, Shares guard request
  excludes := by
    rintro held waiting request ⟨earlier, _, _, shares⟩ holder member
    exact shares holder (List.mem_append_left _ member)
  passes := by
    intro waiting waits
    obtain ⟨first, rest, rfl⟩ := List.exists_cons_of_ne_nil waits
    exact ⟨first, List.mem_cons_self, [], rest, rfl, nofun⟩
  shares := by
    intro held waiting shared request member
    obtain ⟨earlier, later, rfl⟩ := List.append_of_mem member
    refine ⟨earlier, later, rfl, fun guard before => ⟨shared guard ?_, shared request ?_⟩⟩
    · rw [← List.append_assoc]
      exact List.mem_append_left _ before
    · exact List.mem_append_right _ member

/-- Where granting in the order of requests leads; the accounts that were requested. -/
def InOrder (sharedReads : Bool) (ids : List String) (registry : Registry) : Prop :=
  ∃ events, Reaches arrivalOrder sharedReads events registry ∧ requested events = ids

/-- The line at the lock of an account, or at the global lock. -/
def Registry.line (registry : Registry) (account : Option String) : Line where
  held := guardsOf registry.held account
  waiting := guardsOf registry.waiting account

/-- The guards of an account keep the order of their stations. -/
theorem guardsOf_append (left right : List Station) (account : Option String) :
    guardsOf (left ++ right) account = guardsOf left account ++ guardsOf right account := by
  simp only [guardsOf, List.filter_append, List.map_append]

/-- A guard is one of its own account. -/
theorem guardsOf_singleton (station : Station) (account : Option String) :
    guardsOf [station] account = if station.account? = account then [station.guard] else [] := by
  by_cases same : station.account? = account
  · simp [guardsOf, same]
  · simp [guardsOf, same]

/-- Taking a ticket out takes its guard out of every line. -/
theorem guardsOf_without (stations : List Station) (ticket : String) (account : Option String) :
    guardsOf (stations.filter fun station => station.guard.ticket ≠ ticket) account =
      (guardsOf stations account).filter (fun guard => guard.ticket ≠ ticket) := by
  simp only [guardsOf, List.filter_map, List.filter_filter, Function.comp_def, Bool.and_comm]

namespace Sound

variable {registry : Registry} {station : Station}

/-- A ticket stands at one account only. -/
theorem without_other
    (sound : Sound registry)
    (member : station ∈ registry.stations)
    {stations : List Station}
    (within : ∀ other ∈ stations, other ∈ registry.stations)
    {account : Option String}
    (unlike : account ≠ station.account?) :
    (guardsOf stations account).filter (fun guard => guard.ticket ≠ station.guard.ticket) =
      guardsOf stations account := by
  rw [List.filter_eq_self]
  intro guard guardMember
  obtain ⟨other, found, rfl⟩ := List.mem_map.mp guardMember
  obtain ⟨otherMember, isAccount⟩ := List.mem_filter.mp found
  refine decide_eq_true fun same => unlike ?_
  rw [← of_decide_eq_true isAccount,
    List.inj_on_of_nodup_map sound.tickets (within other otherMember) member same]

/-- A request changes the line that it joins and no other. -/
theorem line_request (sound : Sound registry) (ticket : String) (scope : LockScope) :
    (registry.request ticket scope).line =
      Function.update registry.line scope.account?
        ((registry.line scope.account?).join (registry.guardFor ticket scope)) := by
  have held_eq : (registry.request ticket scope).held = registry.held :=
    (sound.numbered.lookUp scope.account?).held
  have station_account : (registry.station ticket scope).account? = scope.account? := rfl
  funext account
  rw [Registry.line, held_eq, Registry.request, guardsOf_append, guardsOf_singleton,
    station_account]
  by_cases same : account = scope.account?
  · subst same
    rw [Function.update_self, if_pos rfl]
    rfl
  · rw [Function.update_of_ne same, if_neg (Ne.symm same), List.append_nil]
    rfl

/-- A grant to the first of a line moves it from those that wait to those that hold. -/
theorem line_grant
    (sound : Sound registry)
    (waits : station ∈ registry.waiting)
    {rest : List Guard}
    (first : guardsOf registry.waiting station.account? = station.guard :: rest) :
    (registry.grant station).line =
      Function.update registry.line station.account?
        ⟨guardsOf registry.held station.account? ++ [station.guard], rest⟩ := by
  funext account
  rw [Registry.line, Registry.grant, guardsOf_append, guardsOf_singleton, guardsOf_without]
  by_cases same : account = station.account?
  · have tickets : ((guardsOf registry.waiting station.account?).map Guard.ticket).Nodup := by
      rw [guardsOf, List.map_map]
      refine List.Nodup.sublist ?_ sound.tickets
      exact (List.filter_sublist.trans (List.sublist_append_right _ _)).map _
    rw [first, List.map_cons, List.nodup_cons] at tickets
    rw [same, Function.update_self, if_pos rfl, first, List.filter_cons_of_neg (by simp),
      List.filter_eq_self.mpr]
    intro guard member
    refine decide_eq_true fun same => tickets.1 ?_
    exact same ▸ List.mem_map_of_mem member
  · rw [Function.update_of_ne same, if_neg (Ne.symm same), List.append_nil,
      sound.without_other (List.mem_append_right _ waits)
        (fun _ => List.mem_append_right _) same]
    rfl

/-- A release changes the line that it leaves and no other. -/
theorem line_release
    (sound : Sound registry)
    (holds : station ∈ registry.held) :
    (registry.release station).line =
      Function.update registry.line station.account?
        ((registry.line station.account?).leave station.guard.ticket) := by
  funext account
  rw [Registry.line, Registry.release, guardsOf_without]
  by_cases same : account = station.account?
  · rw [same, Function.update_self]
    rfl
  · rw [Function.update_of_ne same,
      sound.without_other (List.mem_append_left _ holds)
        (fun _ => List.mem_append_left _) same]
    rfl

end Sound

namespace InOrder

variable {sharedReads : Bool} {ids : List String} {registry : Registry}

/-- Everything that is proved of the registry holds when it grants in order. -/
theorem sound : InOrder sharedReads ids registry → Sound registry
  | ⟨_, reaches, _⟩ => reaches.sound

theorem sharedReads_eq : InOrder sharedReads ids registry → registry.sharedReads = sharedReads
  | ⟨_, reaches, _⟩ => reaches.sharedReads_eq

/-- After a request the registry grants until nobody can be granted in order. -/
theorem request
    (inOrder : InOrder sharedReads ids registry)
    {ticket : String}
    {scope : LockScope}
    (fresh : ∀ station ∈ registry.stations, station.guard.ticket ≠ ticket) :
    InOrder sharedReads (ids ++ scope.account?.toList) (registry.request ticket scope) := by
  obtain ⟨events, reaches, rfl⟩ := inOrder
  refine ⟨_, reaches.step (.request fresh), ?_⟩
  rw [requested, List.filterMap_append]
  cases account : scope.account? <;> simp [requested, Event.account?, account]

/-- After a release the registry grants until nobody can be granted in order. -/
theorem release
    (inOrder : InOrder sharedReads ids registry)
    {station : Station}
    (holds : station ∈ registry.held) :
    InOrder sharedReads ids (registry.release station) := by
  obtain ⟨events, reaches, rfl⟩ := inOrder
  exact ⟨_, reaches.step (.release holds), by simp [requested, Event.account?]⟩

/-- The first that waits at a lock is granted it. -/
theorem grant
    (inOrder : InOrder sharedReads ids registry)
    {account : Option String}
    {guard : Guard}
    {rest : List Guard}
    (first : (registry.line account).waiting = guard :: rest)
    (shares : ∀ holder ∈ (registry.line account).held, Shares holder guard) :
    ∃ after, InOrder sharedReads ids after ∧ after.entries = registry.entries ∧
      after.line = Function.update registry.line account
        ⟨(registry.line account).held ++ [guard], rest⟩ := by
  have member : guard ∈ (registry.line account).waiting := first ▸ List.mem_cons_self
  obtain ⟨station, found, rfl⟩ := List.mem_map.mp member
  obtain ⟨waits, isAccount⟩ := List.mem_filter.mp found
  obtain rfl := of_decide_eq_true isAccount
  obtain ⟨events, reaches, rfl⟩ := inOrder
  have at_eq := @Sound.guardsAt_eq _ reaches.sound station (List.mem_append_right _ waits)
  have admitted : arrivalOrder.admits (guardsAt registry.held station.lock)
      (guardsAt registry.waiting station.lock) station.guard := by
    rw [at_eq (fun _ => List.mem_append_left _), at_eq (fun _ => List.mem_append_right _)]
    exact ⟨[], rest, first, by rwa [List.append_nil]⟩
  exact ⟨_, ⟨_, reaches.step (.grant waits admitted), by simp [requested, Event.account?]⟩, rfl,
    reaches.sound.line_grant waits first⟩

/-- The front of the line at a lock is granted it, if all that hold it then share it. -/
theorem serves
    (inOrder : InOrder sharedReads ids registry)
    {account : Option String}
    {line : Line}
    (serves : (registry.line account).Serves line)
    (shares : line.held.Pairwise Shares) :
    ∃ after, InOrder sharedReads ids after ∧ after.entries = registry.entries ∧
      after.line = Function.update registry.line account line := by
  obtain ⟨front, waiting, held⟩ := serves
  -- The guards at the front are granted the lock one after the other, each with
  -- those before it among the holders.
  induction front generalizing registry with
  | nil =>
      have unchanged : line = registry.line account :=
        Line.ext (by rw [held, List.append_nil]) (by rw [waiting, List.nil_append])
      exact ⟨registry, inOrder, rfl, by rw [unchanged, Function.update_eq_self]⟩
  | cons guard front inductionHypothesis =>
      have guardShares : ∀ holder ∈ (registry.line account).held, Shares holder guard := by
        rw [held, List.pairwise_append] at shares
        exact fun holder member => shares.2.2 holder member guard List.mem_cons_self
      obtain ⟨next, nextInOrder, next_entries, next_line⟩ := inOrder.grant waiting guardShares
      have next_account := congrFun next_line account
      rw [Function.update_self] at next_account
      obtain ⟨after, afterInOrder, after_entries, after_line⟩ :=
        inductionHypothesis nextInOrder (by rw [next_account]; rfl)
          (by rw [next_account, held, List.append_assoc, List.singleton_append])
      refine ⟨after, afterInOrder, after_entries.trans next_entries, ?_⟩
      rw [after_line, next_line, Function.update_idem]

end InOrder

end Locking

/-! ## What locks do -/

namespace Locks

/-- The lock of an account, or the global lock. -/
def lockAt (locks : Locks) : Option String → Lock
  | none => locks.global
  | some id => (locks.accounts.get? id).getD {}

/-- The guards of all that hold a lock or wait for one. -/
def guards (locks : Locks) : List Guard :=
  (locks.global :: locks.accounts.values).flatMap (fun lock => lock.held ++ lock.waiting)

/-- Locks that callers have used; the accounts whose locks were requested. -/
inductive Arises (sharedReads : Bool) : List String → Locks → Prop where
  | start : Arises sharedReads [] { sharedReads }
  | request
      {ids : List String}
      {locks : Locks}
      (arises : Arises sharedReads ids locks)
      (ticket : String)
      (scope : LockScope)
      (fresh : ∀ guard ∈ locks.guards, guard.ticket ≠ ticket) :
      Arises sharedReads (ids ++ scope.account?.toList) (locks.request ticket scope)
  | release
      {ids : List String}
      {locks : Locks}
      (arises : Arises sharedReads ids locks)
      (guard : Guard)
      (holds : guard ∈ locks.held) :
      Arises sharedReads ids (locks.release guard).1

variable {locks : Locks} {scope : LockScope} {lock : Lock}

/-- The lock of a scope is that of its account, or the global one. -/
theorem lockOf_eq (locks : Locks) (scope : LockScope) :
    locks.lockOf scope = locks.lockAt scope.account? := by
  rw [lockOf]
  cases scope.account? <;> rfl

/-- Setting a lock changes no other one. -/
theorem lockAt_setLock (locks : Locks) (scope : LockScope) (lock : Lock) :
    (locks.setLock scope lock).lockAt = Function.update locks.lockAt scope.account? lock := by
  funext account
  rw [setLock]
  cases scope.account? with
  | none => cases account <;> rfl
  | some id =>
      cases account with
      | none => rfl
      | some other =>
          by_cases same : id = other
          · simp [lockAt, same]
          · simp [lockAt, same, Function.update_of_ne, Ne.symm same]

/-- A lock that is set is tracked from then on. -/
theorem mem_keys_setLock (id : String) :
    id ∈ (locks.setLock scope lock).accounts.keys ↔
      id ∈ locks.accounts.keys ∨ scope.account? = some id := by
  rw [setLock]
  cases scope.account? with
  | none => exact (or_iff_left nofun).symm
  | some other => simp only [Dict.mem_keys_insert, Option.some.injEq]

section Counted

variable (locks : Locks) (scope : LockScope) (number : Nat)

theorem accounts_countObtained :
    (locks.countObtained scope number).accounts = locks.accounts := by
  rw [countObtained]
  cases scope.account? <;> rfl

/-- Counting does not touch the locks. -/
theorem lockAt_countObtained :
    (locks.countObtained scope number).lockAt = locks.lockAt := by
  rw [countObtained]
  cases scope.account? <;> rfl

theorem sharedReads_countObtained :
    (locks.countObtained scope number).sharedReads = locks.sharedReads := by
  rw [countObtained]
  cases scope.account? <;> rfl

end Counted

/-- A request changes the lock of its scope alone. -/
theorem lockAt_request (locks : Locks) (ticket : String) (scope : LockScope) :
    (locks.request ticket scope).lockAt = Function.update locks.lockAt scope.account?
      ((locks.lockAt scope.account?).request (locks.guardFor ticket scope)) := by
  rw [request, lockAt_countObtained, lockAt_setLock, lockOf_eq]

/-- A release changes the lock of its guard alone. -/
theorem lockAt_release (locks : Locks) (guard : Guard) :
    (locks.release guard).1.lockAt = Function.update locks.lockAt guard.scope.account?
      ((locks.lockAt guard.scope.account?).release guard.ticket) := by
  rw [release, lockAt_countObtained, lockAt_setLock, lockOf_eq]

/-- A request has its account tracked. -/
theorem mem_keys_request {ticket id : String} :
    id ∈ (locks.request ticket scope).accounts.keys ↔
      id ∈ locks.accounts.keys ∨ scope.account? = some id := by
  rw [request, accounts_countObtained, mem_keys_setLock]

/-- A release has no account forgotten. -/
theorem mem_keys_release {guard : Guard} {id : String} :
    id ∈ (locks.release guard).1.accounts.keys ↔
      id ∈ locks.accounts.keys ∨ guard.scope.account? = some id := by
  rw [release, accounts_countObtained, mem_keys_setLock]

/-- Whoever is at a lock is among the guards. -/
theorem mem_guards
    {guard : Guard}
    (account : Option String)
    (member : guard ∈ (locks.lockAt account).held ++ (locks.lockAt account).waiting) :
    guard ∈ locks.guards := by
  refine List.mem_flatMap.mpr ⟨locks.lockAt account, ?_, member⟩
  cases account with
  | none => exact List.mem_cons_self
  | some id =>
      cases found : locks.accounts.get? id with
      | none =>
          rw [lockAt, found] at member
          exact absurd member List.not_mem_nil
      | some lock =>
          rw [lockAt, found]
          exact List.mem_cons_of_mem _ (Dict.mem_values_iff.mpr ⟨id, found⟩)

/-- Whoever holds holds some lock. -/
theorem exists_lockAt_of_held {guard : Guard} (holds : guard ∈ locks.held) :
    ∃ account, guard ∈ (locks.lockAt account).held := by
  rcases List.mem_append.mp holds with global | member
  · exact ⟨none, global⟩
  · obtain ⟨lock, lockMember, held⟩ := List.mem_flatMap.mp member
    obtain ⟨id, found⟩ := Dict.mem_values_iff.mp lockMember
    exact ⟨some id, by rwa [lockAt, found]⟩

variable {sharedReads : Bool} {ids : List String}

/-- The mode of the locks is the one that they began with. -/
theorem Arises.sharedReads_eq (arises : Arises sharedReads ids locks) :
    locks.sharedReads = sharedReads := by
  induction arises with
  | start => rfl
  | @request _ locks _ _ scope _ inductionHypothesis =>
      rw [Locks.request, sharedReads_countObtained, ← inductionHypothesis, setLock]
      cases scope.account? <;> rfl
  | @release _ locks _ guard _ inductionHypothesis =>
      rw [Locks.release, sharedReads_countObtained, ← inductionHypothesis, setLock]
      cases guard.scope.account? <;> rfl

/-- All locks are settled if the one that changes is. -/
theorem settled_update
    {lockAt : Option String → Lock}
    (settled : ∀ account, (lockAt account).Settled)
    (changed : Option String)
    (lockSettled : lock.Settled)
    (account : Option String) :
    (Function.update lockAt changed lock account).Settled := by
  by_cases same : account = changed
  · rwa [same, Function.update_self]
  · rw [Function.update_of_ne same]
    exact settled account

/-- No lock keeps anybody waiting who could have it. -/
theorem Arises.settled (arises : Arises sharedReads ids locks) :
    ∀ account, (locks.lockAt account).Settled := by
  induction arises with
  | start => rintro (_ | _) <;> exact Lock.settled_of_unused
  | request _ _ _ _ inductionHypothesis =>
      rw [lockAt_request]
      exact settled_update inductionHypothesis _
        (Lock.answers_request (inductionHypothesis _) _).settled
  | release _ _ _ inductionHypothesis =>
      rw [lockAt_release]
      exact settled_update inductionHypothesis _
        (Lock.answers_release (inductionHypothesis _) _).settled

end Locks

/-! ## Locks follow a registry -/

namespace Locking

variable {sharedReads : Bool} {ids : List String} {registry : Registry} {locks : Locks}

/-- A registry that has come to the line that a lock serves comes to what the lock becomes. -/
theorem InOrder.answers
    (inOrder : InOrder sharedReads ids registry)
    {account : Option String}
    {line : Line}
    (line_eq : registry.line = Function.update (Lock.line ∘ locks.lockAt) account line)
    {lock : Lock}
    (answers : Lock.Answers line lock) :
    ∃ after, InOrder sharedReads ids after ∧ after.entries = registry.entries ∧
      after.line = Lock.line ∘ Function.update locks.lockAt account lock := by
  have served : (registry.line account).Serves lock.line := by
    rw [line_eq, Function.update_self]
    exact answers.serves
  obtain ⟨after, afterInOrder, entries_eq, after_line⟩ :=
    inOrder.serves served answers.settled.shared
  refine ⟨after, afterInOrder, entries_eq, ?_⟩
  rw [after_line, line_eq, Function.update_idem, Function.comp_update]

/-- A registry has the accounts and the lines that locks have. -/
structure Follows (registry : Registry) (locks : Locks) : Prop where
  keys : ∀ id, id ∈ registry.entries.keys ↔ id ∈ locks.accounts.keys
  line : registry.line = Lock.line ∘ locks.lockAt

namespace Follows

/-- Registry and locks track the same accounts. -/
theorem trackedAccounts_eq (follows : Follows registry locks) :
    registry.trackedAccounts = locks.trackedAccounts := by
  have same_ids : registry.entries.keys.Perm locks.accounts.keys :=
    (List.perm_ext_iff_of_nodup (Dict.keys_nodup _) (Dict.keys_nodup _)).mpr follows.keys
  rw [Registry.trackedAccounts, Locks.trackedAccounts, ← Dict.length_keys, ← Dict.length_keys]
  exact same_ids.length_eq

/-- The guards that the registry sees holding are those of the lock. -/
theorem held_eq (follows : Follows registry locks) (account : Option String) :
    guardsOf registry.held account = (locks.lockAt account).held :=
  congrArg Line.held (congrFun follows.line account)

/-- The guards that the registry sees waiting are those of the lock, in their order. -/
theorem waiting_eq (follows : Follows registry locks) (account : Option String) :
    guardsOf registry.waiting account = (locks.lockAt account).waiting :=
  congrArg Line.waiting (congrFun follows.line account)

/-- A ticket that is new to the locks is new to the registry. -/
theorem fresh
    (follows : Follows registry locks)
    {ticket : String}
    (fresh : ∀ guard ∈ locks.guards, guard.ticket ≠ ticket) :
    ∀ station ∈ registry.stations, station.guard.ticket ≠ ticket := by
  intro station member
  refine fresh station.guard (Locks.mem_guards station.account? ?_)
  rw [← follows.held_eq, ← follows.waiting_eq, ← guardsOf_append]
  exact List.mem_map_of_mem (List.mem_filter.mpr ⟨member, decide_eq_true rfl⟩)

/-- A request to the locks is one to the registry, with the grants that follow from it. -/
theorem request
    (follows : Follows registry locks)
    (inOrder : InOrder sharedReads ids registry)
    (arises : Locks.Arises sharedReads ids locks)
    {ticket : String}
    (scope : LockScope)
    (fresh : ∀ guard ∈ locks.guards, guard.ticket ≠ ticket) :
    ∃ after, InOrder sharedReads (ids ++ scope.account?.toList) after ∧
      Follows after (locks.request ticket scope) := by
  have requested : InOrder sharedReads (ids ++ scope.account?.toList)
      (registry.request ticket scope) := inOrder.request (follows.fresh fresh)
  have guard_eq : registry.guardFor ticket scope = locks.guardFor ticket scope := by
    rw [Registry.guardFor, inOrder.sharedReads_eq, ← arises.sharedReads_eq]
    rfl
  have line_eq := inOrder.sound.line_request ticket scope
  rw [follows.line, guard_eq] at line_eq
  obtain ⟨after, afterInOrder, entries_eq, after_line⟩ :=
    requested.answers line_eq (Lock.answers_request (arises.settled scope.account?) _)
  refine ⟨after, afterInOrder, fun id => ?_, by rw [after_line, Locks.lockAt_request]⟩
  rw [entries_eq, Locks.mem_keys_request, ← follows.keys id]
  exact (inOrder.sound.numbered.lookUp scope.account?).keys id

/-- A release at the locks is one at the registry, with the grants that follow from it. -/
theorem release
    (follows : Follows registry locks)
    (inOrder : InOrder sharedReads ids registry)
    (arises : Locks.Arises sharedReads ids locks)
    {guard : Guard}
    (holds : guard ∈ locks.held) :
    ∃ after, InOrder sharedReads ids after ∧ Follows after (locks.release guard).1 := by
  obtain ⟨account, held⟩ := Locks.exists_lockAt_of_held holds
  rw [← follows.held_eq] at held
  obtain ⟨station, found, rfl⟩ := List.mem_map.mp held
  obtain ⟨stationHolds, _⟩ := List.mem_filter.mp found
  have line_eq := inOrder.sound.line_release stationHolds
  rw [follows.line] at line_eq
  obtain ⟨after, afterInOrder, entries_eq, after_line⟩ :=
    (inOrder.release stationHolds).answers line_eq
      (Lock.answers_release (arises.settled station.account?) _)
  refine ⟨after, afterInOrder, fun id => ?_, by rw [after_line, Locks.lockAt_release]; rfl⟩
  rw [entries_eq, Locks.mem_keys_release, ← follows.keys id]
  refine (or_iff_left_of_imp fun isAccount => ?_).symm
  have placed := inOrder.sound.placed station (List.mem_append_left _ stationHolds)
  rw [Station.account?, isAccount] at placed
  exact Dict.mem_keys_iff.mpr ⟨station.lock, placed⟩

end Follows

/-- Locks that callers use are at every point where a registry can be. -/
theorem exists_follows (arises : Locks.Arises sharedReads ids locks) :
    ∃ registry, InOrder sharedReads ids registry ∧ Follows registry locks := by
  induction arises with
  | start =>
      refine ⟨{ sharedReads }, ⟨[], .start, rfl⟩, fun _ => Iff.rfl, ?_⟩
      funext account
      cases account <;> rfl
  | request arises _ scope fresh inductionHypothesis =>
      obtain ⟨registry, inOrder, follows⟩ := inductionHypothesis
      exact follows.request inOrder arises scope fresh
  | release arises _ holds inductionHypothesis =>
      obtain ⟨registry, inOrder, follows⟩ := inductionHypothesis
      exact follows.release inOrder arises holds

/--
Callers can rely on every registry that their events lead to. Locks in use stand
where a registry stands that grants in the order of requests: the same callers
hold each lock and wait for it, and the same accounts have one, so callers can
rely on locks alike. No lock is free while somebody waits for it.
-/
theorem locks_safe (discipline : Discipline) (sharedReads : Bool) :
    (∀ events registry,
      Reaches discipline sharedReads events registry →
      Safe discipline sharedReads events registry) ∧
    ∀ ids locks,
      Locks.Arises sharedReads ids locks →
      (∃ events registry,
        Reaches arrivalOrder sharedReads events registry ∧
        requested events = ids ∧
        Safe arrivalOrder sharedReads events registry ∧
        Follows registry locks) ∧
      locks.trackedAccounts = ids.dedup.length ∧
      ∀ account, (locks.lockAt account).waiting ≠ [] → (locks.lockAt account).held ≠ [] := by
  refine ⟨fun _ _ reaches => reaches.safe, fun ids locks arises => ?_⟩
  obtain ⟨registry, ⟨events, reaches, requested_eq⟩, follows⟩ := exists_follows arises
  refine ⟨⟨events, registry, reaches, requested_eq, reaches.safe, follows⟩, ?_, ?_⟩
  · rw [← follows.trackedAccounts_eq, reaches.trackedAccounts_eq, requested_eq]
  · exact fun account => (arises.settled account).held_ne_nil

/-- Two readers hold a lock for which a writer waits; a lock that was released is kept. -/
theorem locks_safe_overlapping :
    ∃ events registry,
      Reaches arrivalOrder true events registry ∧
      requested events = ["x", "x", "x", "y"] ∧
      registry.line (some "x") =
        ⟨[⟨"a", .accountRead "x", false⟩, ⟨"b", .accountRead "x", false⟩],
          [⟨"c", .accountWrite "x", true⟩]⟩ ∧
      registry.line (some "y") = ⟨[], []⟩ ∧
      registry.trackedAccounts = 2 ∧
      Safe arrivalOrder true events registry := by
  have unused : Locks.Arises true [] { sharedReads := true } := .start
  have read := unused.request "a" (.accountRead "x") (by decide)
  have shared := read.request "b" (.accountRead "x") (by decide)
  have awaited := shared.request "c" (.accountWrite "x") (by decide)
  have other := awaited.request "d" (.accountWrite "y") (by decide)
  have released := other.release ⟨"d", .accountWrite "y", true⟩ (by decide)
  obtain ⟨⟨events, registry, reaches, requested_eq, safe, follows⟩, _, _⟩ :=
    (locks_safe arrivalOrder true).2 _ _ released
  refine ⟨events, registry, reaches, requested_eq, ?_, ?_, ?_, safe⟩
  · rw [follows.line]
    decide
  · rw [follows.line]
    decide
  · rw [follows.trackedAccounts_eq]
    decide

end Locking

end TenantStore
