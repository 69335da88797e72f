import TenantStore.Address
import TenantStore.Text.Utf8

namespace TenantStore.TableEngine.Binary

/-!
# Binary cells of old databases

Old databases kept some texts, lists of texts and addresses in a binary form:
a text as its length in eight bytes, least first, and its UTF-8 bytes; a list
as its length and its items; an address as its 4 or 16 bytes. Bytes behind a
value are ignored.
-/

/-- The number of some bytes, the least first. -/
def number : List UInt8 → Nat
  | [] => 0
  | byte :: rest => byte.toNat + 256 * number rest

/-- A length, and the bytes behind it. -/
def readLength (bytes : List UInt8) : Option (Nat × List UInt8) :=
  if 8 ≤ bytes.length then
    some (number (bytes.take 8), bytes.drop 8)
  else
    none

/-- A text, and the bytes behind it. -/
def readText (bytes : List UInt8) : Option (String × List UInt8) := do
  let (length, rest) ← readLength bytes
  if length ≤ rest.length then
    let text ← Text.textOfBytes? (rest.take length)
    some (text, rest.drop length)
  else
    none

/-- A number of texts, and the bytes behind them. -/
def readItems : Nat → Nat → List UInt8 → Option (List String × List UInt8)
  | _, 0, bytes => some ([], bytes)
  | 0, _ + 1, _ => none
  | fuel + 1, count + 1, bytes => do
      let (item, rest) ← readText bytes
      let (items, rest) ← readItems fuel count rest
      some (item :: items, rest)

/-- The text that some bytes encode. -/
def text? (bytes : List UInt8) : Option String :=
  (readText bytes).map (·.1)

/-- The list of texts that some bytes encode. -/
def texts? (bytes : List UInt8) : Option (List String) := do
  let (count, rest) ← readLength bytes
  (readItems bytes.length count rest).map (·.1)

/--
The address that some bytes are, or none for no bytes. An IPv6 address that
carries an IPv4 address stands for the latter. An address of any other length
is not known.
-/
def address? (bytes : List UInt8) : Option (Option Address) :=
  match bytes with
  | [] => some none
  | [a, b, c, d] => some (some (.v4 a b c d))
  | bytes =>
      if bytes.length = 16 then
        (Address.ofGroupsUnmapped? (Address.groupsOfBytes bytes)).map some
      else
        none

end TenantStore.TableEngine.Binary
