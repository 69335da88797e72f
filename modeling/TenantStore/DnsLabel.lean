import TenantStore.Text.Blank
import TenantStore.Text.Decimal

namespace TenantStore.DnsLabel

/-!
# DNS labels

A label consists of 1 to 63 characters from `a-z`, `0-9` and the dash, and has
no dash at its ends. `ofName` turns any name into a label; `unused` picks one
that no other peer has.
-/

/-- The greatest length of a label. -/
def maxLength : Nat :=
  63

/-- Whether a character may stand inside a label. -/
def isLabelChar (char : Char) : Bool :=
  ('a' ≤ char && char ≤ 'z') || char.isDigit || char = '-'

/-- Whether a text is a label. -/
def isLabel (text : String) : Bool :=
  let chars := text.toList
  chars.length ≤ maxLength && chars.all isLabelChar
    && chars.head?.any (· != '-') && chars.getLast?.any (· != '-')

/-- The character of a label for a character of a name. -/
def labelChar (char : Char) : Char :=
  let lower := char.toLower
  if isLabelChar lower then lower else '-'

/-- A list without the dashes at its end. -/
def dropLastDashes (chars : List Char) : List Char :=
  (chars.reverse.dropWhile (· = '-')).reverse

/-- The usable characters of a name, cut to the length of a label. -/
def usableChars (name : List Char) : List Char :=
  let trimmed := dropLastDashes ((name.map labelChar).dropWhile (· = '-'))
  dropLastDashes (trimmed.take maxLength)

/-- The label for a name without usable characters. -/
def fallback : String :=
  "peer"

/-- The label of a name. -/
def ofName (name : String) : String :=
  match usableChars name.toList with
  | [] => fallback
  | chars => String.ofList chars

/-- A label with a number behind it, cut so that both fit. -/
def numbered (base : String) (number : Nat) : String :=
  let suffix := '-' :: Text.decimal number
  String.ofList (base.toList.take (maxLength - suffix.length) ++ suffix)

/-- The first numbered label, from a number on, that is not taken. -/
def firstFree (base : String) (taken : List String) : Nat → Nat → String
  | 0, number => numbered base number
  | fuel + 1, number =>
      if taken.contains (numbered base number) then
        firstFree base taken fuel (number + 1)
      else
        numbered base number

/--
A label for a name that is not taken: the label of the name, or else that label
with the least number behind it that makes it free. Among one more numbers than
there are taken labels, one is free.
-/
def unused (name : String) (taken : List String) : String :=
  let base := ofName name
  if taken.contains base then
    firstFree base taken taken.length 1
  else
    base

end TenantStore.DnsLabel
