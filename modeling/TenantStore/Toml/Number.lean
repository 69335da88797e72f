import TenantStore.Toml.Text

namespace TenantStore.Toml

/-!
# Numbers in configuration documents

Single underscores may stand between the digits of a number. Integers have 64
bits, and may be written to base ten, or without a sign to base sixteen, eight
or two. A decimal number is kept as it was written.
-/

/-- Whether a character is a digit to some base. -/
def isDigitTo (base : Nat) (char : Char) : Bool :=
  (hexValue? char).any (· < base)

/-- Further digits, with single underscores before them, and what follows. -/
def readMoreDigits (base : Nat) : List Char → List Char × List Char
  | [] => ([], [])
  | char :: rest =>
      if isDigitTo base char then
        let (digits, rest) := readMoreDigits base rest
        (char :: digits, rest)
      else if char = '_' && (rest.head?).any (isDigitTo base) then
        readMoreDigits base rest
      else
        ([], char :: rest)

/-- At least one digit, and what follows. -/
def readDigits (base : Nat) : List Char → Option (List Char × List Char)
  | [] => none
  | char :: rest =>
      if isDigitTo base char then
        let (digits, rest) := readMoreDigits base rest
        some (char :: digits, rest)
      else
        none

/-- The number that digits spell. -/
def numberTo (base : Nat) (digits : List Char) : Nat :=
  digits.foldl (fun number digit => number * base + (hexValue? digit).getD 0) 0

/-- Whether a number is negative, and what follows its sign. -/
def readSign : List Char → Bool × List Char
  | '-' :: rest => (true, rest)
  | '+' :: rest => (false, rest)
  | chars => (false, chars)

/-- The digits of a whole number, which starts with a zero only if it is zero. -/
def readWhole : List Char → Option (List Char × List Char)
  | '0' :: rest => some (['0'], rest)
  | chars => readDigits 10 chars

/-! ## Integers -/

/-- An integer, if it has 64 bits. -/
def integer? (value : Int) : Option Toml :=
  if -0x8000000000000000 ≤ value && value < 0x8000000000000000 then
    some (.integer value)
  else
    none

/-- An integer to a base other than ten. -/
def readBased (base : Nat) (chars : List Char) : Option (Toml × List Char) := do
  let (digits, rest) ← readDigits base chars
  let value ← integer? (numberTo base digits)
  some (value, rest)

/-- An integer. -/
def readInteger : List Char → Option (Toml × List Char)
  | '0' :: 'x' :: rest => readBased 16 rest
  | '0' :: 'o' :: rest => readBased 8 rest
  | '0' :: 'b' :: rest => readBased 2 rest
  | chars => do
      let (negative, rest) := readSign chars
      let (digits, rest) ← readWhole rest
      let magnitude : Int := numberTo 10 digits
      let value ← integer? (if negative then -magnitude else magnitude)
      some (value, rest)

/-! ## Decimal numbers -/

/-- The digits of a fraction behind a point, if there is one. -/
def readFraction : List Char → Option (List Char × List Char)
  | '.' :: rest => readDigits 10 rest
  | chars => some ([], chars)

/-- The power of ten behind an exponent mark, if there is one. -/
def readExponent : List Char → Option (Option Int × List Char)
  | [] => some (none, [])
  | mark :: rest =>
      if mark = 'e' || mark = 'E' then do
        let (negative, rest) := readSign rest
        let (digits, rest) ← readDigits 10 rest
        let power : Int := numberTo 10 digits
        some (some (if negative then -power else power), rest)
      else
        some (none, mark :: rest)

/--
Whether a positive number of digits times a power of ten is too large for a
binary number of 64 bits: whether it is at least half a step above the greatest
of them.
-/
def isTooLarge (digits : List Char) (power : Int) : Bool :=
  let significand := numberTo 10 digits
  let length := (Nat.toDigits 10 significand).length
  if significand = 0 || power + length ≤ 300 then
    false
  else if 400 ≤ power + length then
    true
  else
    let limit := Nat.pow 2 1024 - Nat.pow 2 970
    if 0 ≤ power then
      limit ≤ significand * Nat.pow 10 power.toNat
    else
      limit * Nat.pow 10 (-power).toNat ≤ significand

/-- A number with a fraction or an exponent. -/
def readDecimal (chars : List Char) : Option (Toml × List Char) := do
  let (negative, rest) := readSign chars
  let (whole, rest) ← readWhole rest
  let (fraction, rest) ← readFraction rest
  let (power, rest) ← readExponent rest
  if fraction.isEmpty && power.isNone then
    none
  else if !negative
      && isTooLarge (whole ++ fraction) (power.getD 0 - fraction.length) then
    none
  else
    some (.decimal (before chars rest), rest)

/-- Infinity, or what is no number. -/
def readSpecial (chars : List Char) : Option (Toml × List Char) :=
  match (readSign chars).2 with
  | 'i' :: 'n' :: 'f' :: rest =>
      some (.decimal (before chars rest), rest)
  | 'n' :: 'a' :: 'n' :: rest =>
      some (.decimal (before chars rest), rest)
  | _ => none

/-- A number. -/
def readNumber (chars : List Char) : Option (Toml × List Char) :=
  match readDecimal chars, readSpecial chars with
  | some read, _ => some read
  | none, some read => some read
  | none, none => readInteger chars

end TenantStore.Toml
