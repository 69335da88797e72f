import TenantStore.Text.Decimal

namespace TenantStore.Text

/-!
# Digits read back

What is written in digits is read back as the same number: there is at least
one digit, and none of them is a leading zero unless the number is zero.
-/

/-- The decimal digits are next to each other. -/
theorem isDigit_range {char : Char} (digit : char.isDigit = true) :
    48 ≤ char.toNat ∧ char.toNat ≤ 57 := by
  simp only [Char.isDigit, Bool.and_eq_true, decide_eq_true_eq] at digit
  exact digit

/-- A decimal number has a digit. -/
theorem decimal_ne_nil (number : Nat) : decimal number ≠ [] :=
  Nat.toDigits_ne_nil

/-- A decimal number consists of digits. -/
theorem isDigit_of_mem_decimal
    {number : Nat}
    {char : Char}
    (member : char ∈ decimal number) :
    char.isDigit = true :=
  Nat.isDigit_of_mem_toDigits (by decide) (by decide) member

/-- A number is read back from its digits. -/
theorem natOfDigits_decimal (number : Nat) :
    natOfDigits (decimal number) = number := by
  have read := @Nat.ofDigitChars_ten_toDigits number
  rw [Nat.ofDigitChars_eq_foldl] at read
  rw [natOfDigits, decimal]
  simpa only [Nat.mul_comm] using read

/-- Only zero is written as zero. -/
theorem digitChar_ne_zero {digit : Nat} (positive : 0 < digit) (small : digit < 16) :
    Nat.digitChar digit ≠ '0' := by
  have all : ∀ digit : Fin 16, 0 < digit.val → Nat.digitChar digit.val ≠ '0' := by
    decide
  exact all ⟨digit, small⟩ positive

/-- The digits of a positive number have no leading zero. -/
theorem toDigits_ne_zero_cons
    {base : Nat}
    (large : 1 < base)
    (small : base ≤ 16)
    {number : Nat}
    (positive : 0 < number)
    (rest : List Char) :
    Nat.toDigits base number ≠ '0' :: rest := by
  induction number using Nat.strongRecOn generalizing rest with
  | ind number inductionHypothesis =>
      rw [Nat.toDigits_eq_if large]
      split
      · rename_i single
        intro same
        exact digitChar_ne_zero positive (by omega) (List.cons.inj same).1
      · rename_i several
        have quotientPositive : 0 < number / base := Nat.div_pos (by omega) (by omega)
        have quotientSmaller : number / base < number := Nat.div_lt_self positive large
        intro same
        cases digits : Nat.toDigits base (number / base) with
        | nil => exact Nat.toDigits_ne_nil digits
        | cons head tail =>
            rw [digits, List.cons_append] at same
            have headZero : head = '0' := (List.cons.inj same).1
            exact inductionHypothesis (number / base) quotientSmaller
              quotientPositive tail (headZero ▸ digits)

/-- A positive number has no zero in front. -/
theorem decimal_ne_zero_cons
    {number : Nat}
    (positive : 0 < number)
    (rest : List Char) :
    decimal number ≠ '0' :: rest :=
  toDigits_ne_zero_cons (by decide) (by decide) positive rest

theorem decimal_zero : decimal 0 = ['0'] :=
  Nat.toDigits_zero 10

end TenantStore.Text
