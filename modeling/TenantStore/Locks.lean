import TenantStore.Dict
import TenantStore.Text.Decimal
import TenantStore.Text.Quoted

namespace TenantStore

/-!
# Advisory locks

Callers bracket their transactions with locks: one global lock, and one lock
for each account, which comes into being with the first request for it and
stays. A lock is held by one exclusive guard or by any number of shared ones.

Requests are served in the order in which they are made. An exclusive request
that meets shared guards is the next to get the lock, and keeps later requests
waiting until the shared guards are gone; when an exclusive guard goes, the
shared requests at the front of the queue get the lock together.
-/

/-- What a guard locks. -/
inductive LockScope where
  | global
  | accountRead (id : String)
  | accountWrite (id : String)
  deriving Repr, DecidableEq

namespace LockScope

/-- The account that a scope belongs to. -/
def account? : LockScope → Option String
  | .global => none
  | .accountRead id => some id
  | .accountWrite id => some id

/-- The wording of a scope. -/
def text : LockScope → String
  | .global => "global"
  | .accountRead id => "account " ++ id ++ " (read)"
  | .accountWrite id => "account " ++ id ++ " (write)"

/-- A scope in diagnostic output. -/
def diagnostic : LockScope → String
  | .global => "Global"
  | .accountRead id => "AccountRead(" ++ Text.quoted id ++ ")"
  | .accountWrite id => "AccountWrite(" ++ Text.quoted id ++ ")"

end LockScope

/-- A truth value in diagnostic output. -/
def showFlag (flag : Bool) : String :=
  if flag then "true" else "false"

/-- A request for a lock, or the hold on it. -/
structure Guard where
  /-- Tells the guards of a registry apart. -/
  ticket : String
  scope : LockScope
  isExclusive : Bool
  deriving Repr, DecidableEq

namespace Guard

/-- A guard in diagnostic output. -/
def diagnostic (guard : Guard) : String :=
  "LockGuard \x7b scope: " ++ guard.scope.diagnostic ++ ", exclusive: "
    ++ showFlag guard.isExclusive ++ " \x7d"

end Guard

/-- One lock: who holds it and who waits for it. -/
structure Lock where
  held : List Guard := []
  /-- An exclusive request that waits for shared guards to go. -/
  next : Option Guard := none
  /-- Later requests, in order. -/
  queue : List Guard := []
  deriving Repr, DecidableEq

namespace Lock

/-- Whether a request can be granted at once. -/
def isOpenTo (lock : Lock) (guard : Guard) : Bool :=
  if guard.isExclusive then
    lock.held.isEmpty && lock.next.isNone
  else
    lock.held.all (fun holder => !holder.isExclusive) && lock.next.isNone

/-- Request a lock: hold it, or wait for it. -/
def request (lock : Lock) (guard : Guard) : Lock :=
  if lock.isOpenTo guard then
    { lock with held := lock.held ++ [guard] }
  else if guard.isExclusive && lock.next.isNone
      && lock.held.all (fun holder => !holder.isExclusive) then
    { lock with next := some guard }
  else
    { lock with queue := lock.queue ++ [guard] }

/-- The lock that nobody holds, once the front of the queue has got it. -/
def fromQueue (queue : List Guard) : Lock :=
  let shared := queue.takeWhile (fun guard => !guard.isExclusive)
  match shared, queue.dropWhile (fun guard => !guard.isExclusive) with
  | [], guard :: rest => { held := [guard], queue := rest }
  | shared, guard :: rest =>
      { held := shared, next := some guard, queue := rest }
  | shared, [] => { held := shared }

/-- The lock after one of its guards is gone. -/
def release (lock : Lock) (ticket : String) : Lock :=
  let remaining := lock.held.filter (fun guard => guard.ticket != ticket)
  if remaining.isEmpty then
    match lock.next with
    | some guard => { held := [guard], queue := lock.queue }
    | none => fromQueue lock.queue
  else
    { lock with held := remaining }

/-- The guards that hold a lock now and did not before. -/
def newlyHeld (before after : Lock) : List Guard :=
  after.held.filter (fun guard => !before.held.contains guard)

end Lock

/-- The global lock and the locks of accounts. -/
structure Locks where
  /-- Whether several readers may hold the lock of an account together. -/
  sharedReads : Bool
  global : Lock := {}
  accounts : Dict Lock := ∅
  /-- How often the global lock was obtained. -/
  globalCount : Nat := 0
  /-- How often the lock of an account was obtained. -/
  accountCount : Nat := 0
  deriving Repr, DecidableEq

namespace Locks

/-- Whether a guard of a scope shuts out all others. -/
def isExclusive (locks : Locks) : LockScope → Bool
  | .accountRead _ => !locks.sharedReads
  | _ => true

/-- The lock of a scope. -/
def lockOf (locks : Locks) (scope : LockScope) : Lock :=
  match scope.account? with
  | none => locks.global
  | some id => (locks.accounts.get? id).getD {}

/-- Put a lock in the place of a scope. -/
def setLock (locks : Locks) (scope : LockScope) (lock : Lock) : Locks :=
  match scope.account? with
  | none => { locks with global := lock }
  | some id => { locks with accounts := locks.accounts.insert id lock }

/-- Count guards that have been obtained. -/
def countObtained (locks : Locks) (scope : LockScope) (number : Nat) : Locks :=
  match scope.account? with
  | none => { locks with globalCount := locks.globalCount + number }
  | some _ => { locks with accountCount := locks.accountCount + number }

/-- The guard of a request. -/
def guardFor (locks : Locks) (ticket : String) (scope : LockScope) : Guard where
  ticket := ticket
  scope := scope
  isExclusive := locks.isExclusive scope

/-- Request the lock of a scope. -/
def request (locks : Locks) (ticket : String) (scope : LockScope) : Locks :=
  let before := locks.lockOf scope
  let after := before.request (locks.guardFor ticket scope)
  (locks.setLock scope after).countObtained scope
    (Lock.newlyHeld before after).length

/-- The guards that are held. -/
def held (locks : Locks) : List Guard :=
  locks.global.held ++ locks.accounts.values.flatMap Lock.held

/-- The guard that is held under a ticket. -/
def heldBy? (locks : Locks) (ticket : String) : Option Guard :=
  locks.held.find? (fun guard => guard.ticket = ticket)

/-- Release a guard that is held; the guards that are obtained by it. -/
def release (locks : Locks) (guard : Guard) : Locks × List Guard :=
  let before := locks.lockOf guard.scope
  let after := before.release guard.ticket
  let obtained := Lock.newlyHeld before after
  ((locks.setLock guard.scope after).countObtained guard.scope obtained.length,
    obtained)

/-- How many accounts have ever been locked. -/
def trackedAccounts (locks : Locks) : Nat :=
  locks.accounts.size

/-- The locks in diagnostic output. -/
def diagnostic (locks : Locks) : String :=
  "LockRegistry \x7b accounts: " ++ Text.showNat locks.trackedAccounts
    ++ ", shared_reads: " ++ showFlag locks.sharedReads ++ " \x7d"

end Locks

end TenantStore
