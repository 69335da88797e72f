import TenantStore.Json.Parser
import TenantStore.Json.Printer
import TenantStore.Proofs.Text.Decimal

namespace TenantStore.Json

/-!
# Written tokens read back

String literals and integers are read back as they were written, whatever
follows them. What follows an integer must not go on like a number.
-/

open Text (Glyph)

/-- The glyphs of some characters. -/
def glyphs (chars : List Char) : List Glyph :=
  chars.map some

@[simp] theorem glyphs_nil : glyphs [] = [] :=
  rfl

@[simp] theorem glyphs_cons (char : Char) (chars : List Char) :
    glyphs (char :: chars) = some char :: glyphs chars :=
  rfl

@[simp] theorem glyphs_append (left right : List Char) :
    glyphs (left ++ right) = glyphs left ++ glyphs right :=
  List.map_append

/-! ## String literals -/

theorem hexDigit?_hexDigit {digit : Nat} (small : digit < 16) :
    hexDigit? (hexDigit digit) = some digit := by
  have all : ∀ digit : Fin 16, hexDigit? (hexDigit digit.val) = some digit.val := by
    decide
  exact all ⟨digit, small⟩

/-- Control characters are read back from the escapes they are written as. -/
theorem readPieces_escape
    {char : Char}
    (control : char.toNat < 0x20)
    (rest : List Glyph) :
    readPieces (some '\\' :: some 'u' :: some '0' :: some '0' ::
        some (hexDigit (char.toNat / 16)) :: some (hexDigit (char.toNat % 16)) ::
        rest) =
      (readPieces rest).map (fun read => (.char char :: read.1, read.2)) := by
  have high : hexDigit? (hexDigit (char.toNat / 16)) = some (char.toNat / 16) :=
    hexDigit?_hexDigit (by omega)
  have low : hexDigit? (hexDigit (char.toNat % 16)) = some (char.toNat % 16) :=
    hexDigit?_hexDigit (by omega)
  have unit :
      codeUnit? (some '0') (some '0') (some (hexDigit (char.toNat / 16)))
        (some (hexDigit (char.toNat % 16))) = some char.toNat := by
    have zero : hexDigit? '0' = some 0 := by decide
    simp only [codeUnit?, zero, high, low, Option.bind_eq_bind, Option.bind_some,
      Option.some.injEq]
    omega
  have piece : Piece.ofUnit char.toNat = .char char := by
    simp only [Piece.ofUnit, Char.ofNat_toNat]
    rw [if_neg]
    simp only [Bool.and_eq_true, decide_eq_true_eq]
    omega
  rw [readPieces, unit]
  cases readPieces rest <;> simp [piece]

/-- A character is read back from the letter that it is escaped by. -/
theorem readPieces_letter
    {letter char : Char}
    (notUnicode : letter ≠ 'u')
    (escapes : escaped? letter = some char)
    (rest : List Glyph) :
    readPieces (some '\\' :: some letter :: rest) =
      (readPieces rest).map (fun read => (.char char :: read.1, read.2)) := by
  rw [readPieces]
  · rw [escapes, Option.map_eq_bind]
    rfl
  · intro _ _ _ _ _ _ unicode
    exact notUnicode unicode

/-- A character that needs no escape is read back as it is. -/
theorem readPieces_plain
    {char : Char}
    (notQuote : char ≠ '"')
    (notEscape : char ≠ '\\')
    (noControl : ¬char.toNat < 0x20)
    (rest : List Glyph) :
    readPieces (some char :: rest) =
      (readPieces rest).map (fun read => (.char char :: read.1, read.2)) := by
  rw [readPieces]
  · rw [if_neg noControl, Option.map_eq_bind]
    rfl
  · exact notQuote
  · intro _ _ _ _ _ _ escape
    exact notEscape escape
  · intro _ _ _ escape
    exact notEscape escape
  · exact notEscape

/-- A character is read back as it was written. -/
theorem readPieces_writeChar (char : Char) (rest : List Glyph) :
    readPieces (glyphs (writeChar char) ++ rest) =
      (readPieces rest).map (fun read => (.char char :: read.1, read.2)) := by
  unfold writeChar
  split
  · exact readPieces_letter (by decide) rfl rest
  · exact readPieces_letter (by decide) rfl rest
  · exact readPieces_letter (by decide) rfl rest
  · exact readPieces_letter (by decide) rfl rest
  · exact readPieces_letter (by decide) rfl rest
  · exact readPieces_letter (by decide) rfl rest
  · exact readPieces_letter (by decide) rfl rest
  · rename_i notQuote notEscape _ _ _ _ _
    split
    · rename_i control
      exact readPieces_escape control rest
    · rename_i noControl
      exact readPieces_plain notQuote notEscape noControl rest

theorem readPieces_written (chars : List Char) (rest : List Glyph) :
    readPieces (glyphs (chars.flatMap writeChar) ++ some '"' :: rest) =
      some (chars.map .char, rest) := by
  induction chars with
  | nil => rfl
  | cons head tail inductionHypothesis =>
      rw [List.flatMap_cons, glyphs_append, List.append_assoc,
        readPieces_writeChar, inductionHypothesis]
      rfl

theorem spell?_chars (chars : List Char) :
    spell? (chars.map .char) = some chars := by
  induction chars with
  | nil => rfl
  | cons head tail inductionHypothesis =>
      rw [List.map_cons, spell?, inductionHypothesis]
      rfl

/-- The content of a string literal is read back as the text it was written for. -/
theorem readText_written (text : String) (rest : List Glyph) :
    readText (glyphs (text.toList.flatMap writeChar) ++ some '"' :: rest) =
      some (some text, rest) := by
  simp only [readText, readPieces_written, Option.bind_eq_bind, Option.bind_some,
    spell?_chars, Option.map_some, String.ofList_toList]

/-! ## Integers -/

/-- What follows a value does not go on like a number. -/
def Stops : List Glyph → Prop
  | some char :: _ =>
      char.isDigit = false ∧ char ≠ '.' ∧ char ≠ 'e' ∧ char ≠ 'E'
  | _ => True

theorem takeDigits_written
    {digits : List Char}
    (allDigits : ∀ char ∈ digits, char.isDigit = true)
    {rest : List Glyph}
    (stops : Stops rest) :
    takeDigits (glyphs digits ++ rest) = (digits, rest) := by
  induction digits with
  | nil =>
      rw [glyphs_nil, List.nil_append, takeDigits.eq_def]
      split
      · rw [if_neg]
        simp [stops.1]
      · rfl
  | cons head tail inductionHypothesis =>
      have headDigit : head.isDigit = true := allDigits head List.mem_cons_self
      rw [glyphs_cons, List.cons_append, takeDigits, if_pos headDigit,
        inductionHypothesis (fun char member =>
          allDigits char (List.mem_cons_of_mem _ member))]

theorem readWhole_decimal (number : Nat) {rest : List Glyph} (stops : Stops rest) :
    readWhole (glyphs (Text.decimal number) ++ rest) =
      some (Text.decimal number, rest) := by
  rcases Nat.eq_zero_or_pos number with rfl | positive
  · rw [Text.decimal_zero]
    rfl
  · rw [readWhole.eq_def]
    split
    · rename_i shape
      cases digits : Text.decimal number with
      | nil => exact absurd digits (Text.decimal_ne_nil number)
      | cons head tail =>
          rw [digits, glyphs_cons, List.cons_append] at shape
          have headZero : head = '0' :=
            Option.some.inj (List.cons.inj shape).1
          exact absurd (headZero ▸ digits) (Text.decimal_ne_zero_cons positive tail)
    · rw [readDigits, takeDigits_written
        (fun char => Text.isDigit_of_mem_decimal) stops]
      cases digits : Text.decimal number with
      | nil => exact absurd digits (Text.decimal_ne_nil number)
      | cons head tail => rfl

theorem readFraction_of_stops {rest : List Glyph} (stops : Stops rest) :
    readFraction rest = some ([], rest) := by
  rw [readFraction.eq_def]
  split
  · exact absurd rfl stops.2.1
  · rfl

theorem readExponent_of_stops {rest : List Glyph} (stops : Stops rest) :
    readExponent rest = some ([], rest) := by
  rw [readExponent.eq_def]
  split
  · exact absurd rfl stops.2.2.1
  · exact absurd rfl stops.2.2.2
  · rfl

theorem readMagnitude_decimal
    (negative : Bool)
    (number : Nat)
    (positive : negative = true → number ≠ 0)
    {rest : List Glyph}
    (stops : Stops rest) :
    readMagnitude negative (glyphs (Text.decimal number) ++ rest) =
      some (.int (if negative then -number else number), rest) := by
  have numeral :
      numeralOf negative (Text.decimal number) [] [] =
        .integer (if negative then -number else number) := by
    rw [numeralOf, Text.natOfDigits_decimal]
    cases negative
    · rfl
    · simp [positive rfl]
  simp only [readMagnitude, readWhole_decimal number stops, Option.bind_eq_bind,
    Option.bind_some, readFraction_of_stops stops, readExponent_of_stops stops,
    numeral]
  rfl

/-- An integer is read back as it was written. -/
theorem readNumber_integer (value : Int) {rest : List Glyph} (stops : Stops rest) :
    readNumber (glyphs (writeNumeral (.integer value)) ++ rest) =
      some (.int value, rest) := by
  cases value with
  | ofNat number =>
      rw [writeNumeral, Text.signedDecimal, readNumber.eq_def]
      split
      · rename_i shape
        cases digits : Text.decimal number with
        | nil => exact absurd digits (Text.decimal_ne_nil number)
        | cons head tail =>
            rw [digits, glyphs_cons, List.cons_append] at shape
            have headMinus : head = '-' := Option.some.inj (List.cons.inj shape).1
            have headDigit : head.isDigit = true :=
              Text.isDigit_of_mem_decimal (digits ▸ List.mem_cons_self)
            rw [headMinus] at headDigit
            cases headDigit
      · rw [readMagnitude_decimal false number (fun claim => by cases claim) stops]
        rfl
  | negSucc number =>
      rw [writeNumeral, Text.signedDecimal, glyphs_cons, List.cons_append,
        readNumber, readMagnitude_decimal true (number + 1) (by simp) stops]
      rfl

end TenantStore.Json
