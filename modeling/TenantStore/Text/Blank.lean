namespace TenantStore.Text

/-!
# White space

The characters with the Unicode property `White_Space`, and texts without such
characters at their ends.
-/

/-- Whether a character is white space. -/
def isBlank (char : Char) : Bool :=
  let code := char.toNat
  (9 ≤ code && code ≤ 13) || code = 0x20 || code = 0x85 || code = 0xA0
    || code = 0x1680 || (0x2000 ≤ code && code ≤ 0x200A) || code = 0x2028
    || code = 0x2029 || code = 0x202F || code = 0x205F || code = 0x3000

/-- Drop what satisfies a test from both ends of a list. -/
def stripWhere (test : Char → Bool) (chars : List Char) : List Char :=
  ((chars.dropWhile test).reverse.dropWhile test).reverse

/-- Text without white space at its ends. -/
def trim (text : String) : String :=
  String.ofList (stripWhere isBlank text.toList)

end TenantStore.Text
