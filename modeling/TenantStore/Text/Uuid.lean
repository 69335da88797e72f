namespace TenantStore.Text

/-!
# Random identifiers

An identifier of 128 bits, of which six say that the others are random, in the
usual form: hexadecimal digits in five groups.
-/

/-- A number as a given count of hexadecimal digits. -/
def fixedHex (count number : Nat) : String :=
  let digits := Nat.toDigits 16 number
  String.ofList (List.replicate (count - digits.length) '0' ++ digits)

/-- The identifier of two random numbers. -/
def uuid (high low : UInt64) : String :=
  let first := high.toNat
  let second := low.toNat
  "-".intercalate [
    fixedHex 8 (first / 0x100000000),
    fixedHex 4 (first / 0x10000 % 0x10000),
    fixedHex 4 (0x4000 + first % 0x1000),
    fixedHex 4 (0x8000 + second / 0x1000000000000 % 0x4000),
    fixedHex 12 (second % 0x1000000000000)
  ]

end TenantStore.Text
