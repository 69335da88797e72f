namespace TenantStore

/-!
# Metrics

How long stores take to write accounts and to obtain locks. A `Collector`
counts and adds up; a `Sample` is one measurement on its way to whatever draws
the distributions.
-/

/-- What is measured. -/
inductive Measure where
  | persistence
  | globalLock
  | accountLock
  deriving Repr, DecidableEq

namespace Measure

/-- The measures in the order in which they are reported. -/
def all : List Measure :=
  [.persistence, .globalLock, .accountLock]

/-- The name of the distribution of a measure. -/
def name : Measure → String
  | .persistence => "store.persistence.duration_ms"
  | .globalLock => "store.lock.global.acquire_ms"
  | .accountLock => "store.lock.account.acquire_ms"

/-- What the distribution of a measure shows. -/
def description : Measure → String
  | .persistence => "Store persistence duration in milliseconds"
  | .globalLock => "Global lock acquisition duration in milliseconds"
  | .accountLock => "Account lock acquisition duration in milliseconds"

end Measure

/-- How often something was measured, and how long it took in all. -/
structure Tally where
  count : UInt64 := 0
  micros : UInt64 := 0
  deriving Repr, DecidableEq

/-- Count one more measurement; what is shorter than a microsecond is dropped. -/
def Tally.add (tally : Tally) (nanos : Nat) : Tally where
  count := tally.count + 1
  micros := tally.micros + UInt64.ofNat (nanos / 1000)

/-- A tally for each measure. -/
structure Collector where
  persistence : Tally := {}
  globalLock : Tally := {}
  accountLock : Tally := {}
  deriving Repr, DecidableEq

namespace Collector

/-- The tally of a measure. -/
def tally (collector : Collector) : Measure → Tally
  | .persistence => collector.persistence
  | .globalLock => collector.globalLock
  | .accountLock => collector.accountLock

/-- Take a measurement into account. -/
def add (collector : Collector) (measure : Measure) (nanos : Nat) : Collector :=
  match measure with
  | .persistence =>
      { collector with persistence := collector.persistence.add nanos }
  | .globalLock =>
      { collector with globalLock := collector.globalLock.add nanos }
  | .accountLock =>
      { collector with accountLock := collector.accountLock.add nanos }

end Collector

/-- One measurement. -/
structure Sample where
  measure : Measure
  nanos : Nat
  deriving Repr, DecidableEq

/-- A measurement in milliseconds. -/
def Sample.millis (sample : Sample) : Float :=
  let seconds := Float.ofNat (sample.nanos / 1000000000)
  let rest := Float.ofNat (sample.nanos % 1000000000)
  (seconds + rest / 1000000000.0) * 1000.0

end TenantStore
