namespace TenantStore.Text

/-!
# Reading bytes as UTF-8

A document may hold bytes that are part of no encoded character. Reading it
gives a list of glyphs, in which such a byte leaves a gap instead of ending
the reading.
-/

/-- A character of a document, or `none` for a byte that belongs to none. -/
abbrev Glyph := Option Char

/-- The six payload bits of a continuation byte. -/
def continuation? (byte : UInt8) : Option Nat :=
  if 0x80 ≤ byte.toNat && byte.toNat < 0xC0 then
    some (byte.toNat - 0x80)
  else
    none

/-- The character of a code point that is at least `least` and no surrogate. -/
def scalar? (least code : Nat) : Option Char :=
  if least ≤ code && code.isValidChar then
    some (Char.ofNat code)
  else
    none

/-- The character encoded at the start of a list of bytes, and the rest. -/
def decodeHead? : List UInt8 → Option (Char × List UInt8)
  | [] => none
  | first :: rest =>
      let lead := first.toNat
      if lead < 0x80 then
        some (Char.ofNat lead, rest)
      else if 0xC0 ≤ lead && lead < 0xE0 then
        match rest with
        | b :: rest => do
            let b ← continuation? b
            let char ← scalar? 0x80 ((lead - 0xC0) * 0x40 + b)
            some (char, rest)
        | [] => none
      else if 0xE0 ≤ lead && lead < 0xF0 then
        match rest with
        | b :: c :: rest => do
            let b ← continuation? b
            let c ← continuation? c
            let char ← scalar? 0x800 ((lead - 0xE0) * 0x1000 + b * 0x40 + c)
            some (char, rest)
        | _ => none
      else if 0xF0 ≤ lead && lead < 0xF8 then
        match rest with
        | b :: c :: d :: rest => do
            let b ← continuation? b
            let c ← continuation? c
            let d ← continuation? d
            let char ← scalar? 0x10000
              ((lead - 0xF0) * 0x40000 + b * 0x1000 + c * 0x40 + d)
            some (char, rest)
        | _ => none
      else
        none

/-- Glyphs of the bytes that at most `fuel` steps reach. -/
def decodeSteps : Nat → List UInt8 → List Glyph
  | 0, _ => []
  | fuel + 1, bytes =>
      match bytes with
      | [] => []
      | _ :: others =>
          match decodeHead? bytes with
          | some (char, rest) => some char :: decodeSteps fuel rest
          | none => none :: decodeSteps fuel others

/-- The glyphs of a document that need not be well-formed UTF-8. -/
def glyphsOfBytes (bytes : ByteArray) : List Glyph :=
  match String.fromUTF8? bytes with
  | some text => text.toList.map some
  | none => decodeSteps bytes.size bytes.toList

/-- The text of a list of bytes, if it is well-formed UTF-8. -/
def textOfBytes? (bytes : List UInt8) : Option String :=
  String.fromUTF8? ⟨bytes.toArray⟩

end TenantStore.Text
