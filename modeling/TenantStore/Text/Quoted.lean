import TenantStore.Text.Case
import TenantStore.Text.UnprintableTable

namespace TenantStore.Text

/-!
# Quoted text

The form in which diagnostic output shows a text: between double quotes, with
quotes, backslashes, line ends and every character without a picture of its
own spelled out.
-/

/-- Digits of a number to base sixteen, in lower case. -/
def hexDigits (number : Nat) : List Char :=
  Nat.toDigits 16 number

/-- How quoted text shows one character. -/
def quotedChar (char : Char) : List Char :=
  match char with
  | '\x00' => ['\\', '0']
  | '\t' => ['\\', 't']
  | '\n' => ['\\', 'n']
  | '\r' => ['\\', 'r']
  | '"' => ['\\', '"']
  | '\\' => ['\\', '\\']
  | other =>
      if inRanges unprintableRanges other.toNat then
        ['\\', 'u', '\x7b'] ++ hexDigits other.toNat ++ ['\x7d']
      else
        [other]

/-- A text between double quotes. -/
def quoted (text : String) : String :=
  String.ofList ('"' :: text.toList.flatMap quotedChar ++ ['"'])

end TenantStore.Text
