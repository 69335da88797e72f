import TenantStore.Json.Parser
import TenantStore.Json.Printer
import TenantStore.Problem
import TenantStore.Relational.Table
import TenantStore.Timestamp

namespace TenantStore.TableEngine

/-!
# Values in cells

How numbers, times and documents are written into cells, and how values are
read back. Reading is strict about the kind of a cell and the range of a
number; only a document may be absent, as null or as an empty text, and then
stands for its default.
-/

open Relational (Cell Row)

/-! ## Writing -/

/-- A number of 64 bits, if it fits a cell. -/
def wideCell (number : WideNumber) (value : UInt64) : Except Problem Cell :=
  if value.toNat < 0x8000000000000000 then
    .ok (.integer value.toNat)
  else
    .error (.tooWide number value)

/-- A time. -/
def timeCell (time : Timestamp) : Except Problem Cell :=
  wideCell .timestamp time.millis

/-- A number of 32 bits. -/
def shortCell (value : UInt32) : Cell :=
  .integer value.toNat

/-- A document. -/
def documentCell (json : Json) : Cell :=
  .text json.compactText

/-! ## Reading -/

/-- The text in a column. -/
def readText (row : Row) (column : String) : Option String :=
  (row.cell column).text?

/-- The truth value in a column. -/
def readFlag (row : Row) (column : String) : Option Bool :=
  (row.cell column).flag?

/-- The integer in a column. -/
def readInteger (row : Row) (column : String) : Option Int :=
  (row.cell column).integer?

/-- The natural number in a column, below a bound. -/
def readNatBelow (bound : Nat) (row : Row) (column : String) : Option Nat :=
  match readInteger row column with
  | some (.ofNat value) => if value < bound then some value else none
  | _ => none

/-- The number of 32 bits in a column. -/
def readShort (row : Row) (column : String) : Option UInt32 :=
  (readNatBelow UInt32.size row column).map UInt32.ofNat

/-- The number of 64 bits in a column. -/
def readWide (row : Row) (column : String) : Option UInt64 :=
  (readNatBelow 0x8000000000000000 row column).map UInt64.ofNat

/-- The time in a column. -/
def readTime (row : Row) (column : String) : Option Timestamp :=
  (readWide row column).map Timestamp.mk

/-- The document in a column. -/
def readDocument
    (read : Json → Option α)
    (default : α)
    (row : Row)
    (column : String) :
    Option α :=
  match row.cell column with
  | .null => some default
  | .text text =>
      if text.isEmpty then some default else (Json.ofText? text).bind read
  | _ => none

/-- The list of texts in a column. -/
def readTexts (row : Row) (column : String) : Option (List String) :=
  readDocument Json.texts? [] row column

end TenantStore.TableEngine
