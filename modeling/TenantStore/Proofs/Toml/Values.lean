import TenantStore.Proofs.Text.Decimal
import TenantStore.Proofs.Toml.Texts
import TenantStore.Toml.Parser

namespace TenantStore.Toml

/-!
# Values at the end of a line

A value that is written at the end of a line is read back from there, and the
reading stops at the line end (`Spells`). Digits could be the start of a date or
of a time of day, which the line end tells apart from numbers.
-/

/-- Characters that stand for a value at the end of a line. -/
structure Spells (spelling : List Char) (value : Toml) : Prop where
  starts : ∀ char, spelling.head? = some char → isGap char = false
  reads : ∀ fuel depth rest,
    readValue (fuel + 1) depth (spelling ++ '\n' :: rest) = some (value, '\n' :: rest)

/-! ## Texts and truth values -/

/-- A text stands for itself in the form that it is written in. -/
theorem spells_writeText (text : String) : Spells (writeText text).toList (.text text) := by
  have suits := suits_formOf text.toList
  have written (rest : List Char) := @readText_enclose _ _ suits ('\n' :: rest)
  rw [writeText, String.toList_ofList]
  rcases suits.quote_eq with quote | quote
  · rw [quote] at written
    obtain ⟨chars, chars_eq, _⟩ := written [] (by simp)
    refine ⟨by simp [chars_eq, isGap], fun fuel depth rest => ?_⟩
    obtain ⟨same, same_eq, read⟩ := written rest (by simp)
    rw [same_eq, List.cons_append, readValue]
    simp [read]
  · rw [quote] at written
    obtain ⟨chars, chars_eq, _⟩ := written [] (by simp)
    refine ⟨by simp [chars_eq, isGap], fun fuel depth rest => ?_⟩
    obtain ⟨same, same_eq, read⟩ := written rest (by simp)
    rw [same_eq, List.cons_append, readValue]
    simp [read]

theorem spells_true : Spells "true".toList (.bool true) := by
  refine ⟨by simp [isGap], fun fuel depth rest => ?_⟩
  simp only [String.reduceToList, List.cons_append, List.nil_append]
  rw [readValue]

theorem spells_false : Spells "false".toList (.bool false) := by
  refine ⟨by simp [isGap], fun fuel depth rest => ?_⟩
  simp only [String.reduceToList, List.cons_append, List.nil_append]
  rw [readValue]

/-! ## Moments -/

section Moments

variable {digits : List Char} (allDigits : ∀ char ∈ digits, char.isDigit = true)

include allDigits

/-- Digits and a line end hold no sign between digits. -/
theorem after?_digits
    {expected : Char}
    (noDigit : expected.isDigit = false)
    (notLineEnd : expected ≠ '\n')
    (rest : List Char) :
    after? expected (digits ++ '\n' :: rest) = none := by
  cases digits with
  | nil => exact if_neg (Ne.symm notLineEnd)
  | cons digit others =>
      refine if_neg ?_
      rintro rfl
      exact absurd (allDigits digit List.mem_cons_self) (by simp [noDigit])

/-- A number of digits is taken from those before a line end, if there are enough. -/
theorem readFixed_digits
    {count : Nat}
    {rest : List Char}
    {read : Nat × List Char}
    (found : readFixed count (digits ++ '\n' :: rest) = some read) :
    ∃ others, (∀ char ∈ others, char.isDigit = true) ∧ read.2 = others ++ '\n' :: rest := by
  simp only [readFixed, Bool.and_eq_true, decide_eq_true_eq, Option.ite_none_right_eq_some,
    Option.some.injEq] at found
  obtain ⟨⟨enough, takenDigits⟩, rfl⟩ := found
  by_cases within : count ≤ digits.length
  · refine ⟨digits.drop count, fun char member => allDigits char (List.mem_of_mem_drop member), ?_⟩
    exact List.drop_append_of_le_length within
  · have lineEnd : '\n' ∈ (digits ++ '\n' :: rest).take count := by
      obtain ⟨more, count_eq⟩ : ∃ more, count = digits.length + (more + 1) :=
        ⟨count - digits.length - 1, by omega⟩
      rw [count_eq, List.take_append]
      simp
    exact absurd (List.all_eq_true.mp takenDigits _ lineEnd) (by decide)

theorem readPart_digits
    {least most : Nat}
    {rest : List Char}
    {read : Nat × List Char}
    (found : readPart least most (digits ++ '\n' :: rest) = some read) :
    ∃ others, (∀ char ∈ others, char.isDigit = true) ∧ read.2 = others ++ '\n' :: rest := by
  unfold readPart at found
  cases fixed : readFixed 2 (digits ++ '\n' :: rest) with
  | none => simp [fixed] at found
  | some part =>
      obtain ⟨_, same⟩ : _ ∧ part = read := by simpa [fixed] using found
      exact same ▸ readFixed_digits allDigits fixed

/-- Digits before a line end are no moment. -/
theorem readMoment_digits (rest : List Char) : readMoment (digits ++ '\n' :: rest) = none := by
  have noDate : afterDate? (digits ++ '\n' :: rest) = none := by
    unfold afterDate?
    cases found : readFixed 4 (digits ++ '\n' :: rest) with
    | none => rfl
    | some read =>
        obtain ⟨others, othersDigits, others_eq⟩ := readFixed_digits allDigits found
        simp [others_eq, after?_digits othersDigits]
  have noMinute : afterMinute? (digits ++ '\n' :: rest) = none := by
    unfold afterMinute?
    cases found : readPart 0 23 (digits ++ '\n' :: rest) with
    | none => rfl
    | some read =>
        obtain ⟨others, othersDigits, others_eq⟩ := readPart_digits allDigits found
        simp [others_eq, after?_digits othersDigits]
  rw [readMoment, afterMoment?, noDate]
  simp [afterTime?, noMinute]

end Moments

/-! ## Numbers -/

/-- A decimal digit means the same to base ten. -/
theorem hexValue?_digit {char : Char} (digit : char.isDigit = true) :
    hexValue? char = some (char.toNat - '0'.toNat) :=
  if_pos digit

/-- What begins with a digit does not begin with anything else. -/
theorem cons_ne_of_isDigit
    {digit other : Char}
    (isDigit : digit.isDigit = true)
    (noDigit : other.isDigit = false)
    (left right : List Char) :
    digit :: left ≠ other :: right := by
  intro same
  rw [(List.cons.inj same).1, noDigit] at isDigit
  exact Bool.false_ne_true isDigit

theorem isDigitTo_digit {char : Char} (digit : char.isDigit = true) :
    isDigitTo 10 char = true := by
  have range := Text.isDigit_range digit
  simp only [isDigitTo, hexValue?_digit digit, Option.any_some, decide_eq_true_eq]
  have : '0'.toNat = 48 := rfl
  omega

theorem numberTo_digits {digits : List Char} (allDigits : ∀ char ∈ digits, char.isDigit = true) :
    numberTo 10 digits = Text.natOfDigits digits := by
  have from_start (start : Nat) :
      digits.foldl (fun number digit => number * 10 + (hexValue? digit).getD 0) start =
        digits.foldl (fun number digit => number * 10 + (digit.toNat - '0'.toNat)) start := by
    induction digits generalizing start with
    | nil => rfl
    | cons digit others inductionHypothesis =>
        obtain ⟨isDigit, othersDigits⟩ := List.forall_mem_cons.mp allDigits
        rw [List.foldl_cons, List.foldl_cons, hexValue?_digit isDigit]
        exact inductionHypothesis othersDigits _
  exact from_start 0

theorem readMoreDigits_digits
    {digits : List Char}
    (allDigits : ∀ char ∈ digits, char.isDigit = true)
    (rest : List Char) :
    readMoreDigits 10 (digits ++ '\n' :: rest) = (digits, '\n' :: rest) := by
  induction digits with
  | nil => rfl
  | cons digit others inductionHypothesis =>
      obtain ⟨isDigit, othersDigits⟩ := List.forall_mem_cons.mp allDigits
      rw [List.cons_append, readMoreDigits, if_pos (isDigitTo_digit isDigit),
        inductionHypothesis othersDigits]

section Decimals

variable (number : Nat) (rest : List Char)

theorem readWhole_decimal :
    readWhole (Text.decimal number ++ '\n' :: rest) =
      some (Text.decimal number, '\n' :: rest) := by
  rcases Nat.eq_zero_or_pos number with rfl | positive
  · rw [Text.decimal_zero]
    rfl
  · have allDigits : ∀ char ∈ Text.decimal number, char.isDigit = true :=
      fun _ member => Text.isDigit_of_mem_decimal member
    have notZero := Text.decimal_ne_zero_cons positive
    cases digits : Text.decimal number with
    | nil => exact absurd digits (Text.decimal_ne_nil number)
    | cons digit others =>
        rw [digits] at allDigits notZero
        obtain ⟨isDigit, othersDigits⟩ := List.forall_mem_cons.mp allDigits
        rw [List.cons_append, readWhole, readDigits, if_pos (isDigitTo_digit isDigit),
          readMoreDigits_digits othersDigits]
        intro _ same
        rw [(List.cons.inj same).1] at notZero
        exact notZero others rfl

/-- No sign and no letter stands in front of the digits of a number. -/
theorem readSign_decimal :
    readSign (Text.decimal number ++ '\n' :: rest) =
      (false, Text.decimal number ++ '\n' :: rest) := by
  cases digits : Text.decimal number with
  | nil => rfl
  | cons digit others =>
      have isDigit := Text.isDigit_of_mem_decimal (digits ▸ List.mem_cons_self)
      rw [List.cons_append, readSign]
      · exact fun _ => cons_ne_of_isDigit isDigit (by decide) _ _
      · exact fun _ => cons_ne_of_isDigit isDigit (by decide) _ _

/-- A number without a fraction and an exponent is no decimal one. -/
theorem readDecimal_decimal : readDecimal (Text.decimal number ++ '\n' :: rest) = none := by
  unfold readDecimal
  rw [readSign_decimal]
  simp [readWhole_decimal, readFraction, readExponent]

theorem readSpecial_decimal : readSpecial (Text.decimal number ++ '\n' :: rest) = none := by
  unfold readSpecial
  rw [readSign_decimal]
  cases digits : Text.decimal number with
  | nil => rfl
  | cons digit others =>
      have isDigit := Text.isDigit_of_mem_decimal (digits ▸ List.mem_cons_self)
      simp only [List.cons_append]
      split
      · rename_i same
        exact absurd same (cons_ne_of_isDigit isDigit (by decide) _ _)
      · rename_i same
        exact absurd same (cons_ne_of_isDigit isDigit (by decide) _ _)
      · rfl

/-- The mark of a base other than ten would follow a zero. -/
theorem decimal_ne_based {mark : Char} (notLineEnd : mark ≠ '\n') (others : List Char) :
    Text.decimal number ++ '\n' :: rest ≠ '0' :: mark :: others := by
  intro same
  rcases Nat.eq_zero_or_pos number with rfl | positive
  · rw [Text.decimal_zero] at same
    exact notLineEnd (List.cons.inj (List.cons.inj same).2).1.symm
  · cases digits : Text.decimal number with
    | nil => exact Text.decimal_ne_nil number digits
    | cons digit digitsLeft =>
        rw [digits] at same
        exact Text.decimal_ne_zero_cons positive digitsLeft
          (digits.trans (by rw [(List.cons.inj same).1]))

omit rest in
theorem integer?_nat (small : number < 0x8000000000000000) :
    integer? number = some (.integer number) := by
  rw [integer?, if_pos]
  simp only [Bool.and_eq_true, decide_eq_true_eq]
  omega

/-- An integer of 64 bits is read back from its digits. -/
theorem readInteger_decimal {number : Nat} (small : number < 0x8000000000000000) :
    readInteger (Text.decimal number ++ '\n' :: rest) =
      some (.integer number, '\n' :: rest) := by
  unfold readInteger
  split
  · rename_i same
    exact absurd same (decimal_ne_based number rest (by decide) _)
  · rename_i same
    exact absurd same (decimal_ne_based number rest (by decide) _)
  · rename_i same
    exact absurd same (decimal_ne_based number rest (by decide) _)
  · have value : numberTo 10 (Text.decimal number) = number := by
      rw [numberTo_digits (fun _ member => Text.isDigit_of_mem_decimal member),
        Text.natOfDigits_decimal]
    rw [readSign_decimal]
    refine Option.bind_eq_some_iff.mpr ⟨_, readWhole_decimal number rest, ?_⟩
    exact Option.bind_eq_some_iff.mpr ⟨_, value.symm ▸ integer?_nat number small, rfl⟩

end Decimals

/-- Digits stand for the number that they spell, if it has 64 bits. -/
theorem spells_decimal {number : Nat} (small : number < 0x8000000000000000) :
    Spells (Text.decimal number) (.integer number) := by
  have allDigits : ∀ char ∈ Text.decimal number, char.isDigit = true :=
    fun _ member => Text.isDigit_of_mem_decimal member
  have moment := readMoment_digits allDigits
  have decimalNumber := readDecimal_decimal number
  have special := readSpecial_decimal number
  have integer := fun rest => readInteger_decimal rest small
  cases digits : Text.decimal number with
  | nil => exact absurd digits (Text.decimal_ne_nil number)
  | cons digit others =>
      rw [digits] at allDigits moment decimalNumber special integer
      have isDigit := allDigits digit List.mem_cons_self
      have noGap : isGap digit = false := by
        simp only [isGap, Bool.or_eq_false_iff, decide_eq_false_iff_not]
        constructor <;> rintro rfl <;> exact absurd isDigit (by decide)
      refine ⟨by simp [noGap], fun fuel depth rest => ?_⟩
      rw [List.cons_append, readValue]
      · rw [← List.cons_append, moment, readNumber, decimalNumber, special, integer]
      · exact fun _ => cons_ne_of_isDigit isDigit (by decide) _ _
      · exact fun _ => cons_ne_of_isDigit isDigit (by decide) _ _
      · exact fun _ => cons_ne_of_isDigit isDigit (by decide) _ _
      · exact fun _ => cons_ne_of_isDigit isDigit (by decide) _ _
      · exact fun _ => cons_ne_of_isDigit isDigit (by decide) _ _
      · exact fun _ => cons_ne_of_isDigit isDigit (by decide) _ _

end TenantStore.Toml
