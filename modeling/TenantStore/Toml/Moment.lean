import TenantStore.Toml.Text

namespace TenantStore.Toml

/-!
# Dates and times in configuration documents

A moment is a date, a time of day, or both with an optional offset. The parts
have to exist in the calendar and on the clock. What is read here is only how
far a moment goes; it is kept as it was written.
-/

/-- A given number of digits, and what follows them. -/
def readFixed (count : Nat) (chars : List Char) : Option (Nat × List Char) :=
  let digits := chars.take count
  if digits.length = count && digits.all Char.isDigit then
    some (Text.natOfDigits digits, chars.drop count)
  else
    none

/-- Two digits that spell a number between bounds. -/
def readPart (least most : Nat) (chars : List Char) : Option (Nat × List Char) := do
  let (value, rest) ← readFixed 2 chars
  if least ≤ value && value ≤ most then some (value, rest) else none

/-- The rest after a given character. -/
def after? (expected : Char) : List Char → Option (List Char)
  | [] => none
  | char :: rest => if char = expected then some rest else none

/-- Whether a year has a leap day. -/
def isLeapYear (year : Nat) : Bool :=
  year % 4 = 0 && (year % 100 != 0 || year % 400 = 0)

/-- The number of days of a month. -/
def daysIn (year month : Nat) : Nat :=
  if month = 2 then
    if isLeapYear year then 29 else 28
  else if [4, 6, 9, 11].contains month then
    30
  else
    31

/-- What follows a date. -/
def afterDate? (chars : List Char) : Option (List Char) := do
  let (year, rest) ← readFixed 4 chars
  let rest ← after? '-' rest
  let (month, rest) ← readPart 1 12 rest
  let rest ← after? '-' rest
  let (_, rest) ← readPart 1 (daysIn year month) rest
  some rest

/-- What follows a fraction of a second, if there is one. -/
def skipFraction (chars : List Char) : List Char :=
  match chars with
  | '.' :: digit :: rest =>
      if digit.isDigit then rest.dropWhile Char.isDigit else chars
  | _ => chars

/-- What follows an hour and a minute. -/
def afterMinute? (chars : List Char) : Option (List Char) := do
  let (_, rest) ← readPart 0 23 chars
  let rest ← after? ':' rest
  let (_, rest) ← readPart 0 59 rest
  some rest

/-- What follows a time of day; a minute may have a leap second. -/
def afterTime? (chars : List Char) : Option (List Char) := do
  let rest ← afterMinute? chars
  let rest ← after? ':' rest
  let (_, rest) ← readPart 0 60 rest
  some (skipFraction rest)

/-- What follows the offset of a time zone. -/
def afterOffset? : List Char → Option (List Char)
  | 'Z' :: rest => some rest
  | 'z' :: rest => some rest
  | '+' :: rest => afterMinute? rest
  | '-' :: rest => afterMinute? rest
  | _ => none

/-- What follows the time of day behind a date, if there is one. -/
def skipTime (chars : List Char) : List Char :=
  match chars with
  | mark :: rest =>
      if mark = 'T' || mark = 't' || mark = ' ' then
        match afterTime? rest with
        | some rest => (afterOffset? rest).getD rest
        | none => chars
      else
        chars
  | [] => []

/-- What follows a moment. -/
def afterMoment? (chars : List Char) : Option (List Char) :=
  match afterDate? chars with
  | some rest => some (skipTime rest)
  | none => afterTime? chars

/-- A moment. -/
def readMoment (chars : List Char) : Option (Toml × List Char) := do
  let rest ← afterMoment? chars
  some (.moment (before chars rest), rest)

end TenantStore.Toml
