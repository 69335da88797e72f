import TenantStore.Toml.Moment
import TenantStore.Toml.Number

namespace TenantStore.Toml

/-!
# Reading configuration documents

A document consists of lines, each of which is empty, or gives a value to a
key, or is the header of a table. Comments run from a number sign to the end of
a line. `Toml.parse?` reads the lines, and `Toml.ofSections?` builds the table.
-/

/-! ## Blanks and comments -/

/-- What follows the blanks inside a line. -/
def skipGaps (chars : List Char) : List Char :=
  chars.dropWhile isGap

/-- What follows a comment, if there is one. -/
def skipComment : List Char → List Char
  | '#' :: rest => rest.dropWhile isPlain
  | chars => chars

/-- What follows the end of a line or of the document, after a comment. -/
def afterLine? (chars : List Char) : Option (List Char) :=
  match skipComment (skipGaps chars) with
  | [] => some []
  | rest => afterLineEnd? rest

/-- What follows blanks, comments and line ends, as they stand in arrays. -/
def skipLines : Nat → List Char → List Char
  | 0, chars => chars
  | fuel + 1, chars =>
      let rest := skipComment (skipGaps chars)
      match afterLineEnd? rest with
      | some rest => skipLines fuel rest
      | none => rest

/-! ## Keys -/

/-- Whether a character may stand in a key without quotes. -/
def isKeyChar (char : Char) : Bool :=
  char.isAlphanum || char = '_' || char = '-'

/-- One part of a key. -/
def readKeyPart : List Char → Option (String × List Char)
  | '"' :: rest => readLineText '"' rest
  | '\'' :: rest => readLineText '\'' rest
  | chars =>
      match chars.takeWhile isKeyChar with
      | [] => none
      | part => some (String.ofList part, chars.dropWhile isKeyChar)

/-- The parts of a key, with dots and blanks between them. -/
def readKeyParts : Nat → List Char → Option (List String × List Char)
  | 0, _ => none
  | fuel + 1, chars => do
      let (part, rest) ← readKeyPart (skipGaps chars)
      match skipGaps rest with
      | '.' :: rest => do
          let (parts, rest) ← readKeyParts fuel rest
          some (part :: parts, rest)
      | rest => some ([part], rest)

/-- How deeply values can be nested, and how many parts a key can have. -/
def maxDepth : Nat :=
  79

/-- A key: its parts before the last dot, and the last part. -/
def readKey (chars : List Char) : Option (List String × String × List Char) := do
  let (parts, rest) ← readKeyParts maxDepth chars
  let key ← parts.getLast?
  some (parts.dropLast, key, rest)

/-! ## Values -/

mutual

/-- A value; `depth` says how deeply values in it can be nested. -/
def readValue : Nat → Nat → List Char → Option (Toml × List Char)
  | 0, _, _ => none
  | fuel + 1, depth, chars =>
      match chars with
      | '"' :: rest => do
          let (value, rest) ← readText '"' rest
          some (.text value, rest)
      | '\'' :: rest => do
          let (value, rest) ← readText '\'' rest
          some (.text value, rest)
      | '[' :: rest =>
          match depth with
          | 0 => none
          | depth + 1 => do
              let (items, rest) ← readItems fuel depth rest
              some (.array items, rest)
      | '\x7b' :: rest =>
          match depth with
          | 0 => none
          | depth + 1 => do
              let (lines, rest) ← readInline fuel depth rest
              let value ← ofLines? lines
              some (value, rest)
      | 't' :: 'r' :: 'u' :: 'e' :: rest => some (.bool true, rest)
      | 'f' :: 'a' :: 'l' :: 's' :: 'e' :: rest => some (.bool false, rest)
      | chars =>
          match readMoment chars with
          | some read => some read
          | none => readNumber chars

/-- The items of an array, up to its closing bracket. -/
def readItems : Nat → Nat → List Char → Option (List Toml × List Char)
  | 0, _, _ => none
  | fuel + 1, depth, chars =>
      match skipLines chars.length chars with
      | ']' :: rest => some ([], rest)
      | chars => do
          let (item, rest) ← readValue fuel depth chars
          match skipLines rest.length rest with
          | ']' :: rest => some ([item], rest)
          | ',' :: rest => do
              let (items, rest) ← readItems fuel depth rest
              some (item :: items, rest)
          | _ => none

/-- The lines of a table between braces, up to its closing brace. -/
def readInline : Nat → Nat → List Char → Option (List Line × List Char)
  | 0, _, _ => none
  | fuel + 1, depth, chars =>
      match skipGaps chars with
      | '\x7d' :: rest => some ([], rest)
      | chars => readPairs fuel depth chars

/-- At least one line of a table between braces, up to its closing brace. -/
def readPairs : Nat → Nat → List Char → Option (List Line × List Char)
  | 0, _, _ => none
  | fuel + 1, depth, chars => do
      let (path, key, rest) ← readKey chars
      let rest ← after? '=' rest
      let (value, rest) ← readValue fuel depth (skipGaps rest)
      let line := { path := path, key := key, value := value }
      match skipGaps rest with
      | '\x7d' :: rest => some ([line], rest)
      | ',' :: rest => do
          let (lines, rest) ← readPairs fuel depth rest
          some (line :: lines, rest)
      | _ => none

end

/-! ## Lines -/

/-- A line that gives a value to a key. -/
def readLine (chars : List Char) : Option (Line × List Char) := do
  let (path, key, rest) ← readKey chars
  let rest ← after? '=' rest
  let (value, rest) ← readValue (2 * rest.length + 2) maxDepth (skipGaps rest)
  let rest ← afterLine? rest
  some ({ path := path, key := key, value := value }, rest)

/-- A header, after its first bracket. -/
def readHeader (chars : List Char) : Option (Header × List Char) :=
  match chars with
  | '[' :: chars => do
      let (path, key, rest) ← readKey chars
      let rest ← after? ']' rest
      let rest ← after? ']' rest
      let rest ← afterLine? rest
      some ({ path := path, key := key, repeats := true }, rest)
  | chars => do
      let (path, key, rest) ← readKey chars
      let rest ← after? ']' rest
      let rest ← afterLine? rest
      some ({ path := path, key := key, repeats := false }, rest)

/-- What the lines of a document say: those before any header, and sections. -/
structure Outline where
  lines : List Line
  sections : List Section

/-- An outline with a line before it. -/
def Outline.addLine (line : Line) (outline : Outline) : Outline :=
  { outline with lines := line :: outline.lines }

/-- An outline with a header before it, to which its first lines belong. -/
def Outline.addHeader (header : Header) (outline : Outline) : Outline where
  lines := []
  sections := { header := header, lines := outline.lines } :: outline.sections

/-- The lines of a document. -/
def readOutline : Nat → List Char → Option Outline
  | 0, _ => none
  | fuel + 1, chars =>
      match skipGaps chars with
      | [] => some { lines := [], sections := [] }
      | '[' :: rest => do
          let (header, rest) ← readHeader rest
          let outline ← readOutline fuel rest
          some (outline.addHeader header)
      | chars =>
          match chars.head? with
          | some '#' => do
              let rest ← afterLine? chars
              readOutline fuel rest
          | some '\n' => readOutline fuel (skipLineEnd chars)
          | some '\r' => do
              let rest ← afterLineEnd? chars
              readOutline fuel rest
          | _ => do
              let (line, rest) ← readLine chars
              let outline ← readOutline fuel rest
              some (outline.addLine line)

/-- The text without the mark that may stand at its beginning. -/
def skipMark : List Char → List Char
  | '\uFEFF' :: rest => rest
  | chars => chars

/-- The table that a document spells. -/
def parse? (document : String) : Option Entries := do
  let chars := skipMark document.toList
  let outline ← readOutline (chars.length + 1) chars
  ofSections? outline.lines outline.sections

end TenantStore.Toml
