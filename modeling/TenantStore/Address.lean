import TenantStore.Text.Decimal

namespace TenantStore

/-!
# Internet addresses

IPv4 addresses as four octets, IPv6 addresses as eight groups of sixteen bits,
with their usual text forms. The text of an IPv6 address compresses the first
longest run of at least two zero groups, and shows the last two groups of an
address that carries an IPv4 address in the IPv4 form.
-/

/-- The eight groups of an IPv6 address. -/
structure AddressGroups where
  values : List UInt16
  length_eq : values.length = 8
  deriving Repr, DecidableEq

/-- An internet address. -/
inductive Address where
  | v4 (a b c d : UInt8)
  | v6 (groups : AddressGroups)
  deriving Repr, DecidableEq

namespace Address

/-- The address `0.0.0.0`. -/
def unspecified : Address :=
  .v4 0 0 0 0

/-! ## Reading -/

/-- The value of a decimal digit. -/
def decimalDigit? (char : Char) : Option Nat :=
  if char.isDigit then some (char.toNat - '0'.toNat) else none

/-- The value of a hexadecimal digit in either case. -/
def hexDigit? (char : Char) : Option Nat :=
  if char.isDigit then
    some (char.toNat - '0'.toNat)
  else if 'a' ≤ char && char ≤ 'f' then
    some (char.toNat - 'a'.toNat + 10)
  else if 'A' ≤ char && char ≤ 'F' then
    some (char.toNat - 'A'.toNat + 10)
  else
    none

/-- The values of the digits at the start of a text, and the rest. -/
def takeDigits (digit? : Char → Option Nat) :
    List Char →
    List Nat × List Char
  | [] => ([], [])
  | char :: rest =>
      match digit? char with
      | none => ([], char :: rest)
      | some value =>
          (value :: (takeDigits digit? rest).1, (takeDigits digit? rest).2)

/-- The number of a list of digits to some base. -/
def valueOf (base : Nat) (digits : List Nat) : Nat :=
  digits.foldl (fun number digit => number * base + digit) 0

/-- One octet: one to three digits without a leading zero, at most 255. -/
def readOctet (chars : List Char) : Option (UInt8 × List Char) :=
  match takeDigits decimalDigit? chars with
  | ([], _) => none
  | (digits, rest) =>
      let value := valueOf 10 digits
      if digits.length ≤ 3 && !(digits.head? = some 0 && digits.length > 1)
          && value < 256 then
        some (UInt8.ofNat value, rest)
      else
        none

/-- An octet after a point. -/
def readNextOctet : List Char → Option (UInt8 × List Char)
  | '.' :: rest => readOctet rest
  | _ => none

/-- Four octets with points between them. -/
def readQuad
    (chars : List Char) :
    Option ((UInt8 × UInt8 × UInt8 × UInt8) × List Char) := do
  let (a, rest) ← readOctet chars
  let (b, rest) ← readNextOctet rest
  let (c, rest) ← readNextOctet rest
  let (d, rest) ← readNextOctet rest
  some ((a, b, c, d), rest)

/-- One group: one to four hexadecimal digits. -/
def readGroup (chars : List Char) : Option (UInt16 × List Char) :=
  match takeDigits hexDigit? chars with
  | ([], _) => none
  | (digits, rest) =>
      if digits.length ≤ 4 then
        some (UInt16.ofNat (valueOf 16 digits), rest)
      else
        none

/-- The text behind the colon that separates a group from the one before it. -/
def afterSeparator? (first : Bool) (chars : List Char) : Option (List Char) :=
  if first then
    some chars
  else
    match chars with
    | ':' :: rest => some rest
    | _ => none

/-- The group that two octets make. -/
def groupOfOctets (high low : UInt8) : UInt16 :=
  UInt16.ofNat (high.toNat * 256 + low.toNat)

/-- What a reader of groups found. -/
structure GroupRun where
  groups : List UInt16
  /-- Whether the run ends in an address of IPv4 form. -/
  endsInQuad : Bool
  rest : List Char
  deriving Repr

/--
As many groups as there are, up to a limit. While at least two groups are
missing, an address of IPv4 form may stand for the last two.
-/
def readGroups : Nat → Bool → List Char → GroupRun
  | 0, _, chars => ⟨[], false, chars⟩
  | limit + 1, first, chars =>
      match (afterSeparator? first chars).bind
          (fun rest => if limit = 0 then none else readQuad rest) with
      | some ((a, b, c, d), rest) =>
          ⟨[groupOfOctets a b, groupOfOctets c d], true, rest⟩
      | none =>
          match (afterSeparator? first chars).bind readGroup with
          | none => ⟨[], false, chars⟩
          | some (group, rest) =>
              let others := readGroups limit false rest
              ⟨group :: others.groups, others.endsInQuad, others.rest⟩

/-- The IPv6 address with the given groups, if there are eight. -/
def ofGroups? (values : List UInt16) : Option Address :=
  if length_eq : values.length = 8 then
    some (.v6 ⟨values, length_eq⟩)
  else
    none

/-- An IPv6 address at the start of a text, and the rest. -/
def readGroupForm (chars : List Char) : Option (Address × List Char) :=
  let head := readGroups 8 true chars
  if head.groups.length = 8 then
    (ofGroups? head.groups).map (·, head.rest)
  else if head.endsInQuad then
    none
  else
    match head.rest with
    | ':' :: ':' :: rest =>
        let tail := readGroups (7 - head.groups.length) true rest
        let zeros :=
          List.replicate (8 - head.groups.length - tail.groups.length) 0
        (ofGroups? (head.groups ++ zeros ++ tail.groups)).map (·, tail.rest)
    | _ => none

/-- An address at the start of a text, and the rest. -/
def read (chars : List Char) : Option (Address × List Char) :=
  match readQuad chars with
  | some ((a, b, c, d), rest) => some (.v4 a b c d, rest)
  | none => readGroupForm chars

/-- The address that a text spells. -/
def ofText? (text : String) : Option Address :=
  match read text.toList with
  | some (address, []) => some address
  | _ => none

/-! ## Writing -/

/-- Four octets with points between them. -/
def quadChars (a b c d : UInt8) : List Char :=
  Text.decimal a.toNat ++ '.' :: Text.decimal b.toNat
    ++ '.' :: Text.decimal c.toNat ++ '.' :: Text.decimal d.toNat

/-- Groups in hexadecimal with colons between them. -/
def groupChars : List UInt16 → List Char
  | [] => []
  | [last] => Nat.toDigits 16 last.toNat
  | first :: second :: rest =>
      Nat.toDigits 16 first.toNat ++ ':' :: groupChars (second :: rest)

/-- How many zero groups a list starts with. -/
def zeroRun : List UInt16 → Nat
  | [] => 0
  | group :: rest => if group = 0 then zeroRun rest + 1 else 0

/-- Start and length of the first longest run of zero groups. -/
def longestZeroRun : List UInt16 → Nat × Nat
  | [] => (0, 0)
  | group :: rest =>
      let here := zeroRun (group :: rest)
      let (start, length) := longestZeroRun rest
      if here ≥ length then (0, here) else (start + 1, length)

/-- The octets of an IPv4 address that an IPv6 address carries. -/
def carriedQuad? : List UInt16 → Option (UInt8 × UInt8 × UInt8 × UInt8)
  | [0, 0, 0, 0, 0, 0xFFFF, high, low] =>
      some (UInt8.ofNat (high.toNat / 256), UInt8.ofNat (high.toNat % 256),
        UInt8.ofNat (low.toNat / 256), UInt8.ofNat (low.toNat % 256))
  | _ => none

/-- The text of an IPv6 address. -/
def groupFormChars (groups : List UInt16) : List Char :=
  match carriedQuad? groups with
  | some (a, b, c, d) => "::ffff:".toList ++ quadChars a b c d
  | none =>
      let (start, length) := longestZeroRun groups
      if length > 1 then
        groupChars (groups.take start) ++ ':' :: ':'
          :: groupChars (groups.drop (start + length))
      else
        groupChars groups

/-- The characters of an address. -/
def chars : Address → List Char
  | .v4 a b c d => quadChars a b c d
  | .v6 groups => groupFormChars groups.values

/-- The text of an address. -/
def text (address : Address) : String :=
  String.ofList address.chars

/-! ## Raw bytes -/

/-- The groups of a list of bytes, two bytes each. -/
def groupsOfBytes : List UInt8 → List UInt16
  | high :: low :: rest => groupOfOctets high low :: groupsOfBytes rest
  | _ => []

/-- An IPv6 address, or the IPv4 address that it carries. -/
def ofGroupsUnmapped? (values : List UInt16) : Option Address :=
  match carriedQuad? values with
  | some (a, b, c, d) => some (.v4 a b c d)
  | none => ofGroups? values

end Address

end TenantStore
