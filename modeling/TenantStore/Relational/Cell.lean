import TenantStore.Text.Decimal

namespace TenantStore.Relational

/-!
# Cells

What a row holds in a column, and how a column changes what it is given: a
column for texts turns numbers into their digits, a column for numbers turns
the digits of an integer into the integer.
-/

/-- What a row holds in a column. -/
inductive Cell where
  | null
  | integer (value : Int)
  | text (value : String)
  | blob (bytes : List UInt8)
  deriving Repr, DecidableEq

namespace Cell

instance : Inhabited Cell :=
  ⟨.null⟩

/-- A truth value, as one or zero. -/
def flag (value : Bool) : Cell :=
  .integer (if value then 1 else 0)

/-- Whether a cell holds nothing. -/
def isNull : Cell → Bool
  | .null => true
  | _ => false

/-- The text of a cell that holds one. -/
def text? : Cell → Option String
  | .text value => some value
  | _ => none

/-- The integer of a cell that holds one. -/
def integer? : Cell → Option Int
  | .integer value => some value
  | _ => none

/-- Any integer but zero is true. -/
def flag? (cell : Cell) : Option Bool :=
  cell.integer?.map (· != 0)

/-- Whether two cells hold equal values; an absent value equals none. -/
def sameValue (left right : Cell) : Bool :=
  !left.isNull && left = right

end Cell

/-! ## Integers in texts -/

/-- Blanks that may surround the digits of a number. -/
def isDigitGap (char : Char) : Bool :=
  char = ' ' || (9 ≤ char.toNat && char.toNat ≤ 13)

/-- A text without such blanks at its ends. -/
def trimDigits (chars : List Char) : List Char :=
  ((chars.dropWhile isDigitGap).reverse.dropWhile isDigitGap).reverse

/-- A sign, if there is one, and what follows it. -/
def readSign : List Char → Bool × List Char
  | '-' :: rest => (true, rest)
  | '+' :: rest => (false, rest)
  | chars => (false, chars)

/-- The power of ten that an exponent at the end of a number stands for. -/
def readPower : List Char → Option Int
  | [] => some 0
  | mark :: rest =>
      if mark = 'e' || mark = 'E' then
        let (negative, digits) := readSign rest
        if digits.isEmpty || !digits.all Char.isDigit then
          none
        else
          let value : Int := Text.natOfDigits digits
          some (if negative then -value else value)
      else
        none

/-- The digits of a fraction, and what follows them. -/
def readPlaces : List Char → List Char × List Char
  | '.' :: rest => (rest.takeWhile Char.isDigit, rest.dropWhile Char.isDigit)
  | chars => ([], chars)

/-- A number of digits times a power of ten, if that is an integer. -/
def scale? (number : Nat) (power : Int) : Option Nat :=
  if number = 0 then
    some 0
  else if 0 ≤ power then
    if power.toNat ≤ 18 then some (number * Nat.pow 10 power.toNat) else none
  else
    let divisor := Nat.pow 10 (min (-power).toNat (Nat.toDigits 10 number).length)
    if number % divisor = 0 then some (number / divisor) else none

/-- The bounds of the integers that a cell can hold. -/
def fitsCell (value : Int) : Bool :=
  -0x8000000000000000 ≤ value && value < 0x8000000000000000

/--
The integer that a decimal number spells: digits with an optional sign, an
optional fraction and an optional exponent, where the value is an integer.
-/
def integerOfText? (text : String) : Option Int := do
  let (negative, unsigned) := readSign (trimDigits text.toList)
  let whole := unsigned.takeWhile Char.isDigit
  let (places, rest) := readPlaces (unsigned.dropWhile Char.isDigit)
  let power ← readPower rest
  if whole.isEmpty && places.isEmpty then
    none
  else
    let magnitude ←
      scale? (Text.natOfDigits (whole ++ places)) (power - places.length)
    let value : Int := if negative then -magnitude else magnitude
    if fitsCell value then some value else none

/-! ## Affinity -/

/-- Which kind of values a column prefers. -/
inductive Affinity where
  /-- Any value as it is. -/
  | free
  | texts
  | numbers
  deriving Repr, DecidableEq

/-- What a column of an affinity stores when it is given a cell. -/
def Affinity.store : Affinity → Cell → Cell
  | .texts, .integer value => .text (Text.showInt value)
  | .numbers, .text value =>
      match integerOfText? value with
      | some number => .integer number
      | none => .text value
  | _, cell => cell

end TenantStore.Relational
