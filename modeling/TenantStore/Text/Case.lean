import TenantStore.Text.CaseTable

namespace TenantStore.Text

/-!
# Letter case

Three ways to forget case, from the coarsest data to the finest:

* `equalIgnoringCase` folds the ASCII letters only;
* `equalNoCase` does the same, but reads no further than the first NUL of
  each text and then asks for equal lengths, which is how database columns
  with a case-insensitive collation compare;
* `upperCase` and `lowerCase` are the full mappings of the Unicode standard,
  in which `ß` becomes `SS` and a capital sigma becomes `ς` at the end of a
  word and `σ` elsewhere.
-/

/-- Text with its ASCII letters in lower case. -/
def lowerAscii (text : String) : String :=
  String.ofList (text.toList.map Char.toLower)

/-- Equality of texts up to the case of ASCII letters. -/
def equalIgnoringCase (left right : String) : Bool :=
  left.toList.map Char.toLower = right.toList.map Char.toLower

/-- The part of a text before its first NUL, with ASCII letters in lower case. -/
def foldedHead (text : String) : List Char :=
  (text.toList.takeWhile (· != '\x00')).map Char.toLower

/-- Equality under the case-insensitive collation of database columns. -/
def equalNoCase (left right : String) : Bool :=
  left.utf8ByteSize = right.utf8ByteSize && foldedHead left = foldedHead right

/-- Whether a code point lies in one of the given ranges. -/
def inRanges (ranges : List (Nat × Nat)) (code : Nat) : Bool :=
  ranges.any (fun range => range.1 ≤ code && code ≤ range.2)

/-- The code point that the first fitting range maps a code point to. -/
def shiftIn? (code : Nat) : List ShiftedRange → Option Nat
  | [] => none
  | (first, last, step, shift) :: rest =>
      if first ≤ code && code ≤ last && (code - first) % step = 0 then
        some (Int.toNat (code + shift))
      else
        shiftIn? code rest

/-- The mapping of one character by a pair of tables. -/
def mapChar
    (ranges : List ShiftedRange)
    (expansions : List (Nat × List Nat))
    (char : Char) :
    List Char :=
  match expansions.lookup char.toNat with
  | some codes => codes.map Char.ofNat
  | none =>
      match shiftIn? char.toNat ranges with
      | some code => [Char.ofNat code]
      | none => [char]

/-- Upper case of one character, which may take several characters. -/
def upperChar (char : Char) : List Char :=
  if char.toNat < 128 then
    [char.toUpper]
  else
    mapChar upperRanges upperExpansions char

/-- Lower case of one character away from its context. -/
def lowerChar (char : Char) : List Char :=
  if char.toNat < 128 then
    [char.toLower]
  else
    mapChar lowerRanges lowerExpansions char

/-- Whether the nearest character that counts is a letter with case. -/
def startsWithCased (chars : List Char) : Bool :=
  match chars.dropWhile (fun char => inRanges caseIgnorableRanges char.toNat) with
  | [] => false
  | char :: _ => inRanges casedRanges char.toNat

/-- Lower case of a text whose earlier part, reversed, is known. -/
def lowerAfter (before : List Char) : List Char → List Char
  | [] => []
  | char :: rest =>
      let mapped :=
        if char = 'Σ' then
          [if startsWithCased before && !startsWithCased rest then 'ς' else 'σ']
        else
          lowerChar char
      mapped ++ lowerAfter (char :: before) rest

/-- Upper case of a text. -/
def upperCase (text : String) : String :=
  String.ofList (text.toList.flatMap upperChar)

/-- Lower case of a text. -/
def lowerCase (text : String) : String :=
  String.ofList (lowerAfter [] text.toList)

/-! ## ASCII text -/

/-- Whether a text consists of ASCII characters. -/
def isAscii (text : String) : Bool :=
  text.toList.all (fun char => char.toNat < 128)

/-- On ASCII text the full upper case is the ASCII upper case. -/
theorem upperCase_of_isAscii {text : String} (ascii : isAscii text) :
    upperCase text = String.ofList (text.toList.map Char.toUpper) := by
  unfold isAscii at ascii
  unfold upperCase
  congr 1
  generalize text.toList = chars at ascii
  induction chars with
  | nil => rfl
  | cons head tail inductionHypothesis =>
      simp only [List.all_cons, Bool.and_eq_true, decide_eq_true_eq] at ascii
      simp [upperChar, ascii.1, inductionHypothesis ascii.2]

theorem lowerAfter_of_ascii
    (before : List Char)
    {chars : List Char}
    (ascii : chars.all (fun char => char.toNat < 128)) :
    lowerAfter before chars = chars.map Char.toLower := by
  induction chars generalizing before with
  | nil => rfl
  | cons head tail inductionHypothesis =>
      simp only [List.all_cons, Bool.and_eq_true, decide_eq_true_eq] at ascii
      have notSigma : head ≠ 'Σ' := by
        rintro rfl
        exact absurd ascii.1 (by decide)
      simp [lowerAfter, notSigma, lowerChar, ascii.1,
        inductionHypothesis (head :: before) ascii.2]

/-- On ASCII text the full lower case is the ASCII lower case. -/
theorem lowerCase_of_isAscii {text : String} (ascii : isAscii text) :
    lowerCase text = lowerAscii text := by
  unfold lowerCase lowerAscii
  rw [lowerAfter_of_ascii [] ascii]

end TenantStore.Text
