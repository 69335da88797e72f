import TenantStore.Relational.Database
import TenantStore.Text.Case

namespace TenantStore.Relational

/-!
# Column declarations

The words behind the name of a column, such as `TEXT NOT NULL DEFAULT ''`:
its type, and then what may stand in it.
-/

/-- A word of a declaration, or a text between quotes. -/
inductive Word where
  | plain (word : String)
  | quoted (text : String)
  deriving Repr, DecidableEq

/-- The text of a quoted word, in which a quote is written twice. -/
def readQuoted : List Char → List Char × List Char
  | [] => ([], [])
  | '\'' :: '\'' :: rest =>
      ('\'' :: (readQuoted rest).1, (readQuoted rest).2)
  | '\'' :: rest => ([], rest)
  | char :: rest => (char :: (readQuoted rest).1, (readQuoted rest).2)

/-- The words of a declaration. -/
def readWords : Nat → List Char → List Word
  | 0, _ => []
  | fuel + 1, chars =>
      match chars.dropWhile (· = ' ') with
      | [] => []
      | '\'' :: rest =>
          let (text, rest) := readQuoted rest
          .quoted (String.ofList text) :: readWords fuel rest
      | chars =>
          .plain (String.ofList (chars.takeWhile (· != ' ')))
            :: readWords fuel (chars.dropWhile (· != ' '))

/-- A word in upper case; a quoted text is no word. -/
def Word.key : Word → String
  | .plain word => String.ofList (word.toList.map Char.toUpper)
  | .quoted _ => ""

/-- The words with which the type of a declaration ends. -/
def constraintWords : List String :=
  ["PRIMARY", "NOT", "NULL", "UNIQUE", "DEFAULT", "CHECK", "COLLATE",
    "REFERENCES", "CONSTRAINT", "GENERATED", "AS"]

/-- Whether a list of characters stands somewhere in another one. -/
def occursIn (part : List Char) : List Char → Bool
  | [] => part.isEmpty
  | head :: rest =>
      part.isPrefixOf (head :: rest) || occursIn part rest

/-- The affinity of a type. -/
def Affinity.ofType (type : String) : Affinity :=
  let chars := type.toList.map Char.toUpper
  let mentions := fun part : String => occursIn part.toList chars
  if mentions "INT" then .numbers
  else if mentions "CHAR" || mentions "CLOB" || mentions "TEXT" then .texts
  else if mentions "BLOB" || chars.isEmpty then .free
  else .numbers

/-- The value that a word of a declaration spells. -/
def Word.value : Word → Cell
  | .quoted text => .text text
  | .plain word =>
      match integerOfText? word with
      | some number => .integer number
      | none => .null

/-- Take the words behind a type into account. -/
def Column.constrain (type : String) (column : Column) : List Word → Column
  | [] => column
  | word :: rest =>
      let column :=
        match word.key, rest with
        | "PRIMARY", _ =>
            { column with
              isUnique := true
              primary := true
              showsNumber := type = "INTEGER" }
        | "UNIQUE", _ => { column with isUnique := true }
        | "NOT", _ => { column with required := true }
        | "DEFAULT", value :: _ => { column with default := value.value }
        | _, _ => column
      column.constrain type rest

/-- The column of a name and a declaration. -/
def Column.ofDeclaration (name declaration : String) : Column :=
  let words := readWords (declaration.length + 1) declaration.toList
  let isType := fun word : Word => !constraintWords.contains word.key
  let type := " ".intercalate ((words.takeWhile isType).map Word.key)
  Column.constrain type { name := name, affinity := .ofType type }
    (words.dropWhile isType)

/-- Split a list of characters at the commas. -/
def splitAtCommas (chars : List Char) : List (List Char) :=
  chars.foldr
    (fun char parts =>
      match char, parts with
      | ',', parts => [] :: parts
      | char, part :: rest => (char :: part) :: rest
      | char, [] => [[char]])
    [[]]

/-- The columns of an index, whose collations are left aside. -/
def indexColumns (text : String) : List String :=
  (splitAtCommas text.toList).map (fun part =>
    String.ofList
      (((part.dropWhile (· = ' ')).takeWhile (· != ' ')).filter (· != '"')))

end TenantStore.Relational
