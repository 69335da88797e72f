import TenantStore.Json.Fields
import TenantStore.Text.Decimal

namespace TenantStore

/-!
# Points in time

Milliseconds since the start of 1970. Zero stands for a time that was never
recorded.
-/

/-- A point in time. -/
structure Timestamp where
  millis : UInt64
  deriving Repr, DecidableEq

namespace Timestamp

/-- The time that was never recorded. -/
def zero : Timestamp :=
  ⟨0⟩

instance : Inhabited Timestamp :=
  ⟨zero⟩

/-- Whether the time was never recorded. -/
def isZero (time : Timestamp) : Bool :=
  time.millis = 0

/-- The number of milliseconds as text. -/
def text (time : Timestamp) : String :=
  Text.showNat time.millis.toNat

/-- A timestamp is written as its number of milliseconds. -/
def toJson (time : Timestamp) : Json :=
  .nat time.millis.toNat

/-- The timestamp that a document spells. -/
def ofJson? (json : Json) : Option Timestamp :=
  json.uint64?.map Timestamp.mk

end Timestamp

end TenantStore
