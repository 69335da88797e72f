import TenantStore.Json
import TenantStore.Text.Decimal

namespace TenantStore.Json

/-!
# Writing JSON

Two layouts: `compact` writes no blanks at all, `pretty` puts every item on a
line of its own, indented by two blanks a level.
-/

/-- A hexadecimal digit in lower case. -/
def hexDigit (value : Nat) : Char :=
  if value < 10 then
    Char.ofNat ('0'.toNat + value)
  else
    Char.ofNat ('a'.toNat + (value - 10))

/-- How a string literal writes one character. -/
def writeChar (char : Char) : List Char :=
  match char with
  | '"' => ['\\', '"']
  | '\\' => ['\\', '\\']
  | '\x08' => ['\\', 'b']
  | '\x0c' => ['\\', 'f']
  | '\n' => ['\\', 'n']
  | '\r' => ['\\', 'r']
  | '\t' => ['\\', 't']
  | other =>
      if other.toNat < 0x20 then
        ['\\', 'u', '0', '0', hexDigit (other.toNat / 16),
          hexDigit (other.toNat % 16)]
      else
        [other]

/-- A string literal. A text that could not be read is written as empty. -/
def writeText (text : Option String) : List Char :=
  '"' :: (text.getD "").toList.flatMap writeChar ++ ['"']

/-- A number. -/
def writeNumeral : Numeral → List Char
  | .integer value => Text.signedDecimal value
  | .decimal spelling => spelling.toList

/-- Write lists with a separator between them. -/
def joinWith (separator : List Char) : List (List Char) → List Char
  | [] => []
  | [last] => last
  | first :: second :: rest =>
      first ++ separator ++ joinWith separator (second :: rest)

mutual

/-- A document without blanks. -/
def compact : Json → List Char
  | .null => "null".toList
  | .bool true => "true".toList
  | .bool false => "false".toList
  | .number numeral => writeNumeral numeral
  | .string text => writeText text
  | .array items => '[' :: joinWith [','] (compactItems items) ++ [']']
  | .object members =>
      '\x7b' :: joinWith [','] (compactMembers members) ++ ['\x7d']

/-- The items of an array without blanks. -/
def compactItems : List Json → List (List Char)
  | [] => []
  | item :: rest => compact item :: compactItems rest

/-- The members of an object without blanks. -/
def compactMembers : List (Option String × Json) → List (List Char)
  | [] => []
  | (key, value) :: rest =>
      (writeText key ++ ':' :: compact value) :: compactMembers rest

end

/-- The blanks in front of a line at some depth. -/
def indent (depth : Nat) : List Char :=
  List.replicate (2 * depth) ' '

/-- A bracketed list with one entry a line. -/
def writeBlock
    (opening closing : Char)
    (depth : Nat)
    (entries : List (List Char)) :
    List Char :=
  if entries.isEmpty then
    [opening, closing]
  else
    opening ::
      joinWith [','] (entries.map (fun entry => '\n' :: indent (depth + 1) ++ entry))
      ++ '\n' :: indent depth ++ [closing]

mutual

/-- An indented document at some depth. -/
def prettyAt (depth : Nat) : Json → List Char
  | .array items => writeBlock '[' ']' depth (prettyItems (depth + 1) items)
  | .object members =>
      writeBlock '\x7b' '\x7d' depth (prettyMembers (depth + 1) members)
  | .null => "null".toList
  | .bool true => "true".toList
  | .bool false => "false".toList
  | .number numeral => writeNumeral numeral
  | .string text => writeText text

/-- The items of an indented array. -/
def prettyItems (depth : Nat) : List Json → List (List Char)
  | [] => []
  | item :: rest => prettyAt depth item :: prettyItems depth rest

/-- The members of an indented object. -/
def prettyMembers
    (depth : Nat) :
    List (Option String × Json) →
    List (List Char)
  | [] => []
  | (key, value) :: rest =>
      (writeText key ++ ':' :: ' ' :: prettyAt depth value)
        :: prettyMembers depth rest

end

/-- The compact text of a document. -/
def compactText (json : Json) : String :=
  String.ofList (compact json)

/-- The indented text of a document. -/
def prettyText (json : Json) : String :=
  String.ofList (prettyAt 0 json)

end TenantStore.Json
