import TenantStore.Text.Decimal
import TenantStore.Toml

namespace TenantStore.Toml

/-!
# Texts in configuration documents

A text is written in one of four forms. Between double quotes escapes stand
for characters, between single quotes every character stands for itself, and
either kind of quotes may be tripled, after which a text may hold line ends.
`writeText` picks the first form in which a text needs no escape.
-/

/-! ## Characters -/

/-- A blank inside a line. -/
def isGap (char : Char) : Bool :=
  char = ' ' || char = '\t'

/-- A character that is neither a control character nor `DEL`, or is a tab. -/
def isPlain (char : Char) : Bool :=
  char = '\t' || (0x20 ≤ char.toNat && char.toNat != 0x7F)

/-- The rest after a line end. -/
def afterLineEnd? : List Char → Option (List Char)
  | '\n' :: rest => some rest
  | '\r' :: '\n' :: rest => some rest
  | _ => none

/-- Leave out a line end. -/
def skipLineEnd (chars : List Char) : List Char :=
  (afterLineEnd? chars).getD chars

/-- What stands before the rest of some characters. -/
def before (chars rest : List Char) : String :=
  String.ofList (chars.take (chars.length - rest.length))

/-- The value of a hexadecimal digit. -/
def hexValue? (char : Char) : Option Nat :=
  if '0' ≤ char && char ≤ '9' then
    some (char.toNat - '0'.toNat)
  else if 'a' ≤ char && char ≤ 'f' then
    some (char.toNat - 'a'.toNat + 10)
  else if 'A' ≤ char && char ≤ 'F' then
    some (char.toNat - 'A'.toNat + 10)
  else
    none

/-- The character of a code point that hexadecimal digits spell. -/
def charOfHex? (digits : List Char) : Option Char := do
  let values ← digits.mapM hexValue?
  let code := values.foldl (fun code value => code * 16 + value) 0
  if code.isValidChar then some (Char.ofNat code) else none

/-- The character behind a backslash and a letter. -/
def escaped? : Char → Option Char
  | 'b' => some '\x08'
  | 't' => some '\t'
  | 'n' => some '\n'
  | 'f' => some '\x0c'
  | 'r' => some '\r'
  | '"' => some '"'
  | '\\' => some '\\'
  | _ => none

/-! ## Reading -/

/-- What a form of texts ends with, and what may stand in it. -/
structure TextForm where
  quote : Char
  /-- Whether a backslash starts an escape. -/
  escapes : Bool
  /-- Whether the quotes are tripled. -/
  tripled : Bool
  deriving Repr, DecidableEq

/-- Whether a backslash at the end of a line, perhaps before blanks, is next. -/
def continuesLine (rest : List Char) : Bool :=
  (afterLineEnd? (rest.dropWhile isGap)).isSome

/--
The text up to the closing quotes, and what follows them. While `skipping`,
blanks and line ends are left out; that is what a backslash at the end of a
line starts. Up to two quotes next to tripled closing quotes belong to the
text.
-/
def readBody (form : TextForm) (skipping : Bool) :
    List Char →
    Option (List Char × List Char)
  | [] => none
  | char :: rest =>
      if form.tripled && char = '\n' then do
        let (body, rest) ← readBody form skipping rest
        some (if skipping then body else '\n' :: body, rest)
      else if form.tripled && char = '\r' && rest.head? = some '\n' then
        readBody form skipping rest
      else if skipping && isGap char then
        readBody form true rest
      else if char = form.quote then
        if !form.tripled then
          some ([], rest)
        else
          match rest with
          | second :: third :: others =>
              if second = form.quote && third = form.quote then
                some
                  ((others.take 2).takeWhile (· = form.quote),
                    others.drop ((others.take 2).takeWhile (· = form.quote)).length)
              else do
                let (body, rest) ← readBody form false (second :: third :: others)
                some (char :: body, rest)
          | _ => none
      else if form.escapes && char = '\\' then
        if form.tripled && continuesLine rest then
          readBody form true rest
        else
          match rest with
          | 'u' :: a :: b :: c :: d :: others => do
              let value ← charOfHex? [a, b, c, d]
              let (body, rest) ← readBody form false others
              some (value :: body, rest)
          | 'U' :: a :: b :: c :: d :: e :: f :: g :: h :: others => do
              let value ← charOfHex? [a, b, c, d, e, f, g, h]
              let (body, rest) ← readBody form false others
              some (value :: body, rest)
          | letter :: others => do
              let value ← escaped? letter
              let (body, rest) ← readBody form false others
              some (value :: body, rest)
          | [] => none
      else if isPlain char then do
        let (body, rest) ← readBody form false rest
        some (char :: body, rest)
      else
        none

/-- A text on one line, after its opening quote. -/
def readLineText (quote : Char) (chars : List Char) :
    Option (String × List Char) := do
  let form := { quote := quote, escapes := quote = '"', tripled := false }
  let (body, rest) ← readBody form false chars
  some (String.ofList body, rest)

/-- A text that may hold line ends, after its opening quotes. -/
def readBlockText (quote : Char) (chars : List Char) :
    Option (String × List Char) := do
  let form := { quote := quote, escapes := quote = '"', tripled := true }
  let (body, rest) ← readBody form false (skipLineEnd chars)
  some (String.ofList body, rest)

/-- A text in any form, after its first quote. -/
def readText (quote : Char) : List Char → Option (String × List Char)
  | second :: third :: rest =>
      if second = quote && third = quote then
        readBlockText quote rest
      else
        readLineText quote (second :: third :: rest)
  | rest => readLineText quote rest

/-! ## Writing -/

/-- A control character that every form has to escape. -/
def mustEscape (char : Char) : Bool :=
  !isPlain char && char != '\n'

/-- The length of the longest run of a character. -/
def longestRun (char : Char) (chars : List Char) : Nat :=
  (chars.foldl
    (fun (current, longest) next =>
      let current := if next = char then current + 1 else 0
      (current, max current longest))
    (0, 0)).2

/-- A hexadecimal digit in upper case. -/
def hexDigit (value : Nat) : Char :=
  if value < 10 then
    Char.ofNat ('0'.toNat + value)
  else
    Char.ofNat ('A'.toNat + (value - 10))

/-- How a character is escaped. -/
def escapeOf (char : Char) : List Char :=
  match char with
  | '\x08' => ['\\', 'b']
  | '\t' => ['\\', 't']
  | '\n' => ['\\', 'n']
  | '\x0c' => ['\\', 'f']
  | '\r' => ['\\', 'r']
  | '"' => ['\\', '"']
  | '\\' => ['\\', '\\']
  | other =>
      ['\\', 'u', '0', '0', hexDigit (other.toNat / 16), hexDigit (other.toNat % 16)]

/--
The characters of a text between double quotes. Between tripled quotes line
ends stand for themselves, and so do quotes, of which every third in a row is
escaped; `quotes` counts those just before.
-/
def writeBody (tripled : Bool) (quotes : Nat) : List Char → List Char
  | [] => []
  | char :: rest =>
      if tripled && char = '\n' then
        char :: writeBody tripled 0 rest
      else if tripled && char = '"' && quotes < 2 then
        char :: writeBody tripled (quotes + 1) rest
      else if char = '"' || char = '\\' || char = '\t' || char = '\n'
          || mustEscape char then
        escapeOf char ++ writeBody tripled 0 rest
      else
        char :: writeBody tripled 0 rest

/-- A text with the opening and closing marks of a form around it. -/
def enclose (form : TextForm) (text : List Char) : List Char :=
  let marks := List.replicate (if form.tripled then 3 else 1) form.quote
  let start := if form.tripled && text.contains '\n' then ['\n'] else []
  let body := if form.escapes then writeBody form.tripled 0 text else text
  marks ++ start ++ body ++ marks

/-- The form that a text is written in. -/
def formOf (text : List Char) : TextForm :=
  let hasLineEnd := text.contains '\n'
  let hasBackslash := text.contains '\\'
  let doubleQuotes := longestRun '"' text
  let singleQuotes := longestRun '\'' text
  let escapes := text.any mustEscape
  if !escapes && !hasBackslash && doubleQuotes = 0 && !hasLineEnd then
    { quote := '"', escapes := true, tripled := false }
  else if !escapes && singleQuotes = 0 && !hasLineEnd then
    { quote := '\'', escapes := false, tripled := false }
  else if !escapes && !hasBackslash && doubleQuotes ≤ 2 then
    { quote := '"', escapes := true, tripled := true }
  else if !escapes && singleQuotes ≤ 2 then
    { quote := '\'', escapes := false, tripled := true }
  else
    { quote := '"', escapes := true, tripled := hasLineEnd }

/-- The written form of a text. -/
def writeText (text : String) : String :=
  String.ofList (enclose (formOf text.toList) text.toList)

end TenantStore.Toml
