import TenantStore.Json
import TenantStore.Text.Decimal
import TenantStore.Text.Utf8

namespace TenantStore.Json

/-!
# Reading JSON

Each reader takes the glyphs that are left and answers what it read together
with the glyphs behind it, or `none` when the document is malformed there. The
readers of values count down a fuel; `parse` gives them twice the length of the
document, which always suffices, because a value is at least one glyph long.
-/

open Text (Glyph)

/-- Blanks that may stand between the tokens of a document. -/
def isGap : Glyph → Bool
  | some char => char = ' ' || char = '\n' || char = '\t' || char = '\r'
  | none => false

/-- The glyphs from the next token on. -/
def skipGaps (glyphs : List Glyph) : List Glyph :=
  glyphs.dropWhile isGap

/-! ## Numbers -/

/-- The digits at the start of a list of glyphs, and the rest. -/
def takeDigits : List Glyph → List Char × List Glyph
  | some char :: rest =>
      if char.isDigit then
        ((char :: (takeDigits rest).1), (takeDigits rest).2)
      else
        ([], some char :: rest)
  | glyphs => ([], glyphs)

/-- At least one digit. -/
def readDigits (glyphs : List Glyph) : Option (List Char × List Glyph) :=
  match takeDigits glyphs with
  | ([], _) => none
  | found => some found

/-- The whole part of a number: a zero alone, or digits without leading zero. -/
def readWhole : List Glyph → Option (List Char × List Glyph)
  | some '0' :: rest => some (['0'], rest)
  | glyphs => readDigits glyphs

/-- The fraction of a number with its point, empty when there is none. -/
def readFraction : List Glyph → Option (List Char × List Glyph)
  | some '.' :: rest => do
      let (digits, rest) ← readDigits rest
      some ('.' :: digits, rest)
  | glyphs => some ([], glyphs)

/-- Digits after an optional sign. -/
def readSigned : List Glyph → Option (List Char × List Glyph)
  | some '+' :: rest => do
      let (digits, rest) ← readDigits rest
      some ('+' :: digits, rest)
  | some '-' :: rest => do
      let (digits, rest) ← readDigits rest
      some ('-' :: digits, rest)
  | glyphs => readDigits glyphs

/-- The exponent of a number with its mark, empty when there is none. -/
def readExponent : List Glyph → Option (List Char × List Glyph)
  | some 'e' :: rest => do
      let (digits, rest) ← readSigned rest
      some ('e' :: digits, rest)
  | some 'E' :: rest => do
      let (digits, rest) ← readSigned rest
      some ('E' :: digits, rest)
  | glyphs => some ([], glyphs)

/-- The number of a sign, a whole part, a fraction and an exponent. -/
def numeralOf
    (negative : Bool)
    (whole fraction exponent : List Char) :
    Numeral :=
  let value := Text.natOfDigits whole
  if fraction.isEmpty && exponent.isEmpty && !(negative && value = 0) then
    .integer (if negative then -value else value)
  else
    .decimal (String.ofList
      ((if negative then ['-'] else []) ++ whole ++ fraction ++ exponent))

/-- A number after its sign. -/
def readMagnitude
    (negative : Bool)
    (glyphs : List Glyph) :
    Option (Json × List Glyph) := do
  let (whole, rest) ← readWhole glyphs
  let (fraction, rest) ← readFraction rest
  let (exponent, rest) ← readExponent rest
  some (.number (numeralOf negative whole fraction exponent), rest)

/-- A number. -/
def readNumber : List Glyph → Option (Json × List Glyph)
  | some '-' :: rest => readMagnitude true rest
  | glyphs => readMagnitude false glyphs

/-! ## Strings -/

/-- What one character or escape of a string literal stands for. -/
inductive Piece where
  /-- A character. -/
  | char (value : Char)
  /-- One half of a surrogate pair, as a UTF-16 code unit. -/
  | half (unit : Nat)
  /-- A byte that is part of no character. -/
  | stray
  deriving Repr, DecidableEq

/-- The value of a hexadecimal digit. -/
def hexDigit? (char : Char) : Option Nat :=
  if '0' ≤ char && char ≤ '9' then
    some (char.toNat - '0'.toNat)
  else if 'a' ≤ char && char ≤ 'f' then
    some (char.toNat - 'a'.toNat + 10)
  else if 'A' ≤ char && char ≤ 'F' then
    some (char.toNat - 'A'.toNat + 10)
  else
    none

/-- The code unit that four hexadecimal digits spell. -/
def codeUnit? (a b c d : Glyph) : Option Nat := do
  let a ← (← a) |> hexDigit?
  let b ← (← b) |> hexDigit?
  let c ← (← c) |> hexDigit?
  let d ← (← d) |> hexDigit?
  some (((a * 16 + b) * 16 + c) * 16 + d)

/-- What a code unit stands for on its own. -/
def Piece.ofUnit (unit : Nat) : Piece :=
  if 0xD800 ≤ unit && unit < 0xE000 then
    .half unit
  else
    .char (Char.ofNat unit)

/-- The character behind a backslash and a letter. -/
def escaped? : Char → Option Char
  | '"' => some '"'
  | '\\' => some '\\'
  | '/' => some '/'
  | 'b' => some '\x08'
  | 'f' => some '\x0c'
  | 'n' => some '\n'
  | 'r' => some '\r'
  | 't' => some '\t'
  | _ => none

/-- The rest of a string literal, up to its closing quote. -/
def readPieces : List Glyph → Option (List Piece × List Glyph)
  | [] => none
  | none :: rest => do
      let (pieces, rest) ← readPieces rest
      some (.stray :: pieces, rest)
  | some '"' :: rest => some ([], rest)
  | some '\\' :: some 'u' :: a :: b :: c :: d :: rest => do
      let unit ← codeUnit? a b c d
      let (pieces, rest) ← readPieces rest
      some (.ofUnit unit :: pieces, rest)
  | some '\\' :: some letter :: rest => do
      let char ← escaped? letter
      let (pieces, rest) ← readPieces rest
      some (.char char :: pieces, rest)
  | some '\\' :: _ => none
  | some char :: rest =>
      if char.toNat < 0x20 then
        none
      else do
        let (pieces, rest) ← readPieces rest
        some (.char char :: pieces, rest)

/-- The character of a surrogate pair. -/
def pairedChar (high low : Nat) : Char :=
  Char.ofNat (0x10000 + (high - 0xD800) * 0x400 + (low - 0xDC00))

/-- The text of a string literal, if its pieces spell one. -/
def spell? : List Piece → Option (List Char)
  | [] => some []
  | .char char :: rest => (spell? rest).map (char :: ·)
  | .half high :: .half low :: rest =>
      if high < 0xDC00 && 0xDC00 ≤ low then
        (spell? rest).map (pairedChar high low :: ·)
      else
        none
  | _ => none

/-- The content of a string literal after its opening quote. -/
def readText (glyphs : List Glyph) : Option (Option String × List Glyph) := do
  let (pieces, rest) ← readPieces glyphs
  some ((spell? pieces).map String.ofList, rest)

/-! ## Values -/

mutual

/-- A value, after blanks. -/
def readValue : Nat → List Glyph → Option (Json × List Glyph)
  | 0, _ => none
  | fuel + 1, glyphs =>
      match skipGaps glyphs with
      | some '"' :: rest => do
          let (text, rest) ← readText rest
          some (.string text, rest)
      | some '[' :: rest =>
          match skipGaps rest with
          | some ']' :: rest => some (.array [], rest)
          | _ => do
              let (items, rest) ← readItems fuel rest
              some (.array items, rest)
      | some '{' :: rest =>
          match skipGaps rest with
          | some '}' :: rest => some (.object [], rest)
          | _ => do
              let (members, rest) ← readMembers fuel rest
              some (.object members, rest)
      | some 'n' :: some 'u' :: some 'l' :: some 'l' :: rest =>
          some (.null, rest)
      | some 't' :: some 'r' :: some 'u' :: some 'e' :: rest =>
          some (.bool true, rest)
      | some 'f' :: some 'a' :: some 'l' :: some 's' :: some 'e' :: rest =>
          some (.bool false, rest)
      | glyphs => readNumber glyphs

/-- The items of an array that is not empty, up to its closing bracket. -/
def readItems : Nat → List Glyph → Option (List Json × List Glyph)
  | 0, _ => none
  | fuel + 1, glyphs => do
      let (item, rest) ← readValue fuel glyphs
      match skipGaps rest with
      | some ']' :: rest => some ([item], rest)
      | some ',' :: rest => do
          let (items, rest) ← readItems fuel rest
          some (item :: items, rest)
      | _ => none

/-- The members of an object that is not empty, up to its closing brace. -/
def readMembers :
    Nat →
    List Glyph →
    Option (List (Option String × Json) × List Glyph)
  | 0, _ => none
  | fuel + 1, glyphs =>
      match skipGaps glyphs with
      | some '"' :: rest => do
          let (key, rest) ← readText rest
          match skipGaps rest with
          | some ':' :: rest => do
              let (value, rest) ← readValue fuel rest
              match skipGaps rest with
              | some '}' :: rest => some ([(key, value)], rest)
              | some ',' :: rest => do
                  let (members, rest) ← readMembers fuel rest
                  some ((key, value) :: members, rest)
              | _ => none
          | _ => none
      | _ => none

end

/-- The document that the glyphs spell, with nothing but blanks around it. -/
def parse? (glyphs : List Glyph) : Option Json :=
  match readValue (2 * glyphs.length + 2) glyphs with
  | some (json, rest) => if (skipGaps rest).isEmpty then some json else none
  | none => none

/-- The document of a text. -/
def ofText? (text : String) : Option Json :=
  parse? (text.toList.map some)

/-- The document of a file's bytes. -/
def ofBytes? (bytes : ByteArray) : Option Json :=
  parse? (Text.glyphsOfBytes bytes)

end TenantStore.Json
