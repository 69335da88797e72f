import TenantStore.Toml.Text

namespace TenantStore.Toml

/-!
# Texts read back from documents

A text is read back from any of the forms that it is written in, whatever
follows it but another quote (`readText_enclose`). Between tripled quotes a
quote belongs to the text as long as no three of them stand in a row, which is
what the escapes see to, and what is asked of a text that is written without.
-/

/-! ## Characters and escapes -/

theorem ne_of_isPlain {char : Char} (plain : isPlain char = true) :
    char ≠ '\n' ∧ char ≠ '\r' := by
  constructor <;> rintro rfl <;> exact absurd plain (by decide)

theorem isPlain_of_not_mustEscape {char : Char}
    (free : mustEscape char = false)
    (notLineEnd : char ≠ '\n') :
    isPlain char = true := by
  simpa [mustEscape, notLineEnd] using free

/-- The characters that have to be escaped are few. -/
theorem toNat_lt_of_mustEscape {char : Char} (control : mustEscape char = true) :
    char.toNat < 128 := by
  simp only [mustEscape, isPlain, Bool.and_eq_true, Bool.not_eq_true', Bool.or_eq_false_iff,
    Bool.and_eq_false_iff, decide_eq_false_iff_not, bne_eq_false_iff_eq] at control
  omega

theorem toNat_lt_of_special
    {char : Char}
    (special : (char = '"' || char = '\\' || char = '\t' || char = '\n' || mustEscape char) =
      true) :
    char.toNat < 128 := by
  simp only [Bool.or_eq_true, decide_eq_true_eq] at special
  rcases special with (((rfl | rfl) | rfl) | rfl) | control
  · decide
  · decide
  · decide
  · decide
  · exact toNat_lt_of_mustEscape control

/-- A character is read back from its code in hexadecimal digits. -/
theorem charOfHex?_code {char : Char} (small : char.toNat < 128) :
    charOfHex? ['0', '0', hexDigit (char.toNat / 16), hexDigit (char.toNat % 16)] =
      some char := by
  have all : ∀ code : Fin 128,
      charOfHex? ['0', '0', hexDigit (code.val / 16), hexDigit (code.val % 16)] =
        some (Char.ofNat code.val) := by
    decide +kernel
  rw [all ⟨char.toNat, small⟩, Char.ofNat_toNat]

/-- What a reading found, with a character in front. -/
def withFirst (char : Char) (read : Option (List Char × List Char)) :
    Option (List Char × List Char) :=
  read.map (fun found => (char :: found.1, found.2))

section Body

variable {form : TextForm}

/-- A plain character stands for itself. -/
theorem readBody_plain
    {char : Char}
    (plain : isPlain char = true)
    (notQuote : char ≠ form.quote)
    (notEscape : form.escapes = true → char ≠ '\\')
    (rest : List Char) :
    readBody form false (char :: rest) = withFirst char (readBody form false rest) := by
  obtain ⟨notLineEnd, notReturn⟩ := ne_of_isPlain plain
  have noEscape : (form.escapes && decide (char = '\\')) = false := by
    cases escapes : form.escapes with
    | false => rfl
    | true => simp [notEscape escapes]
  rw [readBody.eq_def]
  simp only
  rw [if_neg (by simp [notLineEnd]), if_neg (by simp [notReturn]), if_neg (by simp),
    if_neg notQuote, if_neg (by simp [noEscape]), if_pos plain, withFirst, Option.map_eq_bind]
  rfl

/-- A line end stands for itself between tripled quotes. -/
theorem readBody_lineEnd (tripled : form.tripled = true) (rest : List Char) :
    readBody form false ('\n' :: rest) = withFirst '\n' (readBody form false rest) := by
  rw [readBody.eq_def]
  simp only
  rw [if_pos (by simp [tripled]), withFirst, Option.map_eq_bind]
  rfl

section Quotes

variable (plain : isPlain form.quote = true)

include plain

/-- A quote closes a text on one line. -/
theorem readBody_close_line (line : form.tripled = false) (rest : List Char) :
    readBody form false (form.quote :: rest) = some ([], rest) := by
  obtain ⟨notLineEnd, notReturn⟩ := ne_of_isPlain plain
  rw [readBody.eq_def]
  simp only
  rw [if_neg (by simp [line]), if_neg (by simp [line]), if_neg (by simp), if_pos trivial,
    if_pos (by simp [line])]

/-- Between tripled quotes the two characters behind a quote decide what it means. -/
theorem readBody_quote (tripled : form.tripled = true) (second third : Char)
    (others : List Char) :
    readBody form false (form.quote :: second :: third :: others) =
      if second = form.quote ∧ third = form.quote then
        some ((others.take 2).takeWhile (· = form.quote),
          others.drop ((others.take 2).takeWhile (· = form.quote)).length)
      else
        withFirst form.quote (readBody form false (second :: third :: others)) := by
  obtain ⟨notLineEnd, notReturn⟩ := ne_of_isPlain plain
  rw [readBody.eq_def]
  simp only
  rw [if_neg (by simp [notLineEnd]), if_neg (by simp [notReturn]), if_neg (by simp),
    if_pos trivial, if_neg (by simp [tripled]), withFirst, Option.map_eq_bind]
  simp only [Bool.and_eq_true, decide_eq_true_eq]
  rfl

end Quotes

section Escapes

variable (escapes : form.escapes = true) (quote : form.quote = '"')

include escapes quote

/-- A character is read back from the letter that it is escaped by. -/
theorem readBody_letter
    {letter char : Char}
    (notCode : letter ≠ 'u' ∧ letter ≠ 'U')
    (visible : isGap letter = false ∧ letter ≠ '\n' ∧ letter ≠ '\r')
    (found : escaped? letter = some char)
    (rest : List Char) :
    readBody form false ('\\' :: letter :: rest) = withFirst char (readBody form false rest) := by
  have goesOn : continuesLine (letter :: rest) = false := by
    rw [continuesLine, List.dropWhile_cons_of_neg (by simp [visible.1]), afterLineEnd?]
    · rfl
    · exact fun _ same => visible.2.1 (List.cons.inj same).1
    · exact fun _ same => visible.2.2 (List.cons.inj same).1
  rw [readBody.eq_def]
  simp only
  rw [if_neg (by simp), if_neg (by simp), if_neg (by simp), if_neg (by simp [quote]),
    if_pos (by simp [escapes]), goesOn, if_neg (by simp)]
  split
  · rename_i same
    exact absurd (List.cons.inj same).1 notCode.1
  · rename_i same
    exact absurd (List.cons.inj same).1 notCode.2
  · rename_i same
    obtain ⟨rfl, rfl⟩ := List.cons.inj same
    rw [found, withFirst, Option.map_eq_bind]
    rfl
  · rename_i same
    cases same

/-- A character is read back from its code. -/
theorem readBody_code {char : Char} (small : char.toNat < 128) (rest : List Char) :
    readBody form false (['\\', 'u', '0', '0', hexDigit (char.toNat / 16),
        hexDigit (char.toNat % 16)] ++ rest) =
      withFirst char (readBody form false rest) := by
  simp only [List.cons_append, List.nil_append]
  rw [readBody.eq_def]
  simp only
  rw [if_neg (by simp), if_neg (by simp), if_neg (by simp), if_neg (by simp [quote]),
    if_pos (by simp [escapes]), if_neg (by simp [continuesLine, isGap, afterLineEnd?]),
    charOfHex?_code small, withFirst, Option.map_eq_bind]
  rfl

/-- A character is read back from its escape. -/
theorem readBody_escapeOf {char : Char} (small : char.toNat < 128) (rest : List Char) :
    readBody form false (escapeOf char ++ rest) = withFirst char (readBody form false rest) := by
  unfold escapeOf
  split
  · exact readBody_letter escapes quote (by decide) (by decide) rfl rest
  · exact readBody_letter escapes quote (by decide) (by decide) rfl rest
  · exact readBody_letter escapes quote (by decide) (by decide) rfl rest
  · exact readBody_letter escapes quote (by decide) (by decide) rfl rest
  · exact readBody_letter escapes quote (by decide) (by decide) rfl rest
  · exact readBody_letter escapes quote (by decide) (by decide) rfl rest
  · exact readBody_letter escapes quote (by decide) (by decide) rfl rest
  · exact readBody_code escapes quote small rest

end Escapes

end Body

/-! ## Quotes in written texts -/

/-- On one line, and after two quotes anyway, the next quote is escaped. -/
theorem head?_writeBody (text : List Char) {tripled : Bool} {quotes : Nat}
    (full : tripled = true → 2 ≤ quotes) :
    (writeBody tripled quotes text).head? ≠ some '"' := by
  cases text with
  | nil => simp [writeBody]
  | cons char others =>
      have noRoom : ¬ (tripled = true ∧ quotes < 2) :=
        fun both => Nat.not_lt.mpr (full both.1) both.2
      rw [writeBody]
      split
      · rename_i lineEnd
        obtain ⟨_, rfl⟩ : tripled = true ∧ char = '\n' := by simpa using lineEnd
        simp
      · rw [if_neg (by simp_all)]
        split
        · unfold escapeOf
          split <;> simp
        · rename_i ordinary
          simp only [Bool.or_eq_true, decide_eq_true_eq, not_or] at ordinary
          simpa using ordinary.1.1.1.1

/-! ## Texts on one line -/

/-- Between double quotes any text is read back. -/
theorem readBody_writeBody_line (quotes : Nat) (text rest : List Char) :
    readBody ⟨'"', true, false⟩ false (writeBody false quotes text ++ '"' :: rest) =
      some (text, rest) := by
  induction text generalizing quotes with
  | nil => exact @readBody_close_line ⟨'"', true, false⟩ rfl rfl rest
  | cons char others inductionHypothesis =>
      rw [writeBody, if_neg (by simp), if_neg (by simp)]
      split
      · rename_i special
        rw [List.append_assoc, readBody_escapeOf rfl rfl (toNat_lt_of_special special),
          inductionHypothesis]
        rfl
      · rename_i ordinary
        simp only [Bool.or_eq_true, decide_eq_true_eq, not_or, Bool.not_eq_true] at ordinary
        obtain ⟨⟨⟨⟨notQuote, notEscape⟩, _⟩, notLineEnd⟩, free⟩ := ordinary
        rw [List.cons_append, readBody_plain (isPlain_of_not_mustEscape free notLineEnd) notQuote
          (fun _ => notEscape), inductionHypothesis]
        rfl

/-- Between single quotes a plain text without such quotes is read back. -/
theorem readBody_literal_line
    {text : List Char}
    (plain : ∀ char ∈ text, isPlain char = true ∧ char ≠ '\'')
    (rest : List Char) :
    readBody ⟨'\'', false, false⟩ false (text ++ '\'' :: rest) = some (text, rest) := by
  induction text with
  | nil => exact @readBody_close_line ⟨'\'', false, false⟩ rfl rfl rest
  | cons char others inductionHypothesis =>
      obtain ⟨⟨isPlain, notQuote⟩, othersPlain⟩ := List.forall_mem_cons.mp plain
      rw [List.cons_append, readBody_plain isPlain notQuote (by simp),
        inductionHypothesis othersPlain]
      rfl

/-! ## Texts between tripled quotes -/

/-- What some characters before three closing quotes are read as. -/
def ReadsTo (form : TextForm) (written body : List Char) : Prop :=
  ∀ rest, rest.head? ≠ some form.quote →
    readBody form false (written ++ form.quote :: form.quote :: form.quote :: rest) =
      some (body, rest)

namespace ReadsTo

variable {form : TextForm} {written body other : List Char}

theorem unique (reads : ReadsTo form written body) (again : ReadsTo form written other) :
    body = other := by
  have same := (reads [] (by simp)).symm.trans (again [] (by simp))
  exact (Prod.mk.inj (Option.some.inj same)).1

/-- Three quotes close the text, and up to two quotes before them belong to it. -/
theorem replicate
    (plain : isPlain form.quote = true)
    (tripled : form.tripled = true)
    {extra : Nat}
    (few : extra ≤ 2) :
    ReadsTo form (List.replicate extra form.quote) (List.replicate extra form.quote) := by
  intro rest apart
  have closes : List.replicate extra form.quote ++
        form.quote :: form.quote :: form.quote :: rest =
      form.quote :: form.quote :: form.quote :: (List.replicate extra form.quote ++ rest) := by
    have three : ∀ chars : List Char, form.quote :: form.quote :: form.quote :: chars =
        List.replicate 3 form.quote ++ chars := fun _ => rfl
    rw [three, three, ← List.append_assoc, ← List.append_assoc,
      List.replicate_append_replicate, List.replicate_append_replicate, Nat.add_comm]
  have ends : ∀ count, (rest.take count).takeWhile (· = form.quote) = [] := by
    intro count
    cases rest with
    | nil => simp
    | cons char others =>
        have unlike : char ≠ form.quote := by simpa using apart
        cases count <;> simp [unlike]
  have taken : ((List.replicate extra form.quote ++ rest).take 2).takeWhile
      (· = form.quote) = List.replicate extra form.quote := by
    rw [List.take_append, List.take_of_length_le (by simpa using few),
      List.takeWhile_append_of_pos (by simp), ends, List.append_nil]
  rw [closes, readBody_quote plain tripled, if_pos ⟨rfl, rfl⟩, taken, List.drop_left]

/-- A character that is read on its own stands in front. -/
theorem cons
    {char : Char}
    (reads : ReadsTo form written body)
    (unit : List Char)
    (first : ∀ rest, readBody form false (unit ++ rest) =
      withFirst char (readBody form false rest)) :
    ReadsTo form (unit ++ written) (char :: body) := by
  intro rest apart
  rw [List.append_assoc, first, reads rest apart]
  rfl

/-- A quote belongs to the text if no two more follow at once. -/
theorem quote
    (plain : isPlain form.quote = true)
    (tripled : form.tripled = true)
    (reads : ReadsTo form written body)
    (apart : ¬ [form.quote, form.quote] <+: written) :
    ReadsTo form (form.quote :: written) (form.quote :: body) := by
  rcases written with _ | ⟨second, _ | ⟨third, others⟩⟩
  · rw [reads.unique (replicate plain tripled (Nat.zero_le 2))]
    exact replicate plain tripled (by decide : 1 ≤ 2)
  · by_cases isQuote : second = form.quote
    · rw [isQuote] at reads ⊢
      rw [reads.unique (replicate plain tripled (by decide : 1 ≤ 2))]
      exact replicate plain tripled (Nat.le_refl 2)
    · intro rest restApart
      have inside := reads rest restApart
      simp only [List.cons_append, List.nil_append] at inside ⊢
      rw [readBody_quote plain tripled, if_neg (fun both => isQuote both.1), inside]
      rfl
  · have single : ¬ (second = form.quote ∧ third = form.quote) := by
      rintro ⟨rfl, rfl⟩
      exact apart (by simp)
    intro rest restApart
    have inside := reads rest restApart
    simp only [List.cons_append] at inside ⊢
    rw [readBody_quote plain tripled, if_neg single, inside]
    rfl

end ReadsTo

/-! ### With escapes -/

/-- After a quote no two more follow at once. -/
theorem not_prefix_writeBody (text : List Char) {quotes : Nat} (some : 1 ≤ quotes) :
    ¬ ['"', '"'] <+: writeBody true quotes text := by
  cases text with
  | nil => simp [writeBody]
  | cons char others =>
      rw [writeBody]
      split
      · rename_i lineEnd
        obtain rfl : char = '\n' := by simpa using lineEnd
        simp
      · split
        · intro isPrefix
          obtain ⟨_, next⟩ := List.cons_prefix_cons.mp isPrefix
          obtain ⟨rest, same⟩ := next
          exact head?_writeBody others (fun _ => Nat.succ_le_succ some) (by rw [← same]; rfl)
        · split
          · unfold escapeOf
            split <;> simp
          · rename_i ordinary
            simp only [Bool.or_eq_true, decide_eq_true_eq, not_or] at ordinary
            simp [Ne.symm ordinary.1.1.1.1]

/-- Between tripled double quotes any text is read back. -/
theorem readsTo_writeBody (quotes : Nat) (text : List Char) :
    ReadsTo ⟨'"', true, true⟩ (writeBody true quotes text) text := by
  induction text generalizing quotes with
  | nil => exact .replicate rfl rfl (Nat.zero_le 2)
  | cons char others inductionHypothesis =>
      rw [writeBody]
      split
      · rename_i lineEnd
        obtain rfl : char = '\n' := by simpa using lineEnd
        exact (inductionHypothesis 0).cons ['\n'] (readBody_lineEnd rfl)
      · rename_i noLineEnd
        split
        · rename_i standing
          obtain rfl : char = '"' := by simp_all
          exact (inductionHypothesis (quotes + 1)).quote rfl rfl
            (not_prefix_writeBody others (Nat.le_add_left 1 quotes))
        · split
          · rename_i special
            exact (inductionHypothesis 0).cons (escapeOf char)
              (readBody_escapeOf rfl rfl (toNat_lt_of_special special))
          · rename_i ordinary
            simp only [Bool.or_eq_true, decide_eq_true_eq, not_or, Bool.not_eq_true] at ordinary
            obtain ⟨⟨⟨⟨notQuote, notEscape⟩, _⟩, notLineEnd⟩, free⟩ := ordinary
            exact (inductionHypothesis 0).cons [char]
              (readBody_plain (isPlain_of_not_mustEscape free notLineEnd) notQuote
                (fun _ => notEscape))

/-! ### Without escapes -/

/-- The lengths of the run just before and of the longest one, after one more character. -/
def countRun (char : Char) (counts : Nat × Nat) (next : Char) : Nat × Nat :=
  let current := if next = char then counts.1 + 1 else 0
  (current, max current counts.2)

theorem longestRun_eq (char : Char) (text : List Char) :
    longestRun char text = (text.foldl (countRun char) (0, 0)).2 :=
  rfl

/-- The longest run only grows. -/
theorem le_foldl_countRun (char : Char) (text : List Char) (counts : Nat × Nat) :
    counts.2 ≤ (text.foldl (countRun char) counts).2 := by
  induction text generalizing counts with
  | nil => exact Nat.le_refl _
  | cons next others inductionHypothesis =>
      exact Nat.le_trans (Nat.le_max_right _ _) (inductionHypothesis (countRun char counts next))

/-- A run that goes on is counted with what came before it. -/
theorem foldl_countRun_replicate (char : Char) (count : Nat) {counts : Nat × Nat}
    (ordered : counts.1 ≤ counts.2) :
    counts.1 + count ≤ ((List.replicate count char).foldl (countRun char) counts).2 := by
  induction count generalizing counts with
  | zero => exact ordered
  | succ count inductionHypothesis =>
      have next : countRun char counts char =
          (counts.1 + 1, max (counts.1 + 1) counts.2) := by
        simp [countRun]
      rw [List.replicate_succ, List.foldl_cons, next]
      have counted := @inductionHypothesis (counts.1 + 1, max (counts.1 + 1) counts.2)
        (Nat.le_max_left _ _)
      simp only at counted
      omega

theorem foldl_countRun_ordered (char : Char) (text : List Char) {counts : Nat × Nat}
    (ordered : counts.1 ≤ counts.2) :
    (text.foldl (countRun char) counts).1 ≤ (text.foldl (countRun char) counts).2 := by
  induction text generalizing counts with
  | nil => exact ordered
  | cons next others inductionHypothesis =>
      exact inductionHypothesis (Nat.le_max_left _ _)

/-- No run is longer than the longest one. -/
theorem le_longestRun {char : Char} {count : Nat} {text : List Char}
    (within : List.replicate count char <:+: text) :
    count ≤ longestRun char text := by
  obtain ⟨front, back, rfl⟩ := within
  rw [longestRun_eq, List.foldl_append, List.foldl_append]
  calc count
      ≤ (front.foldl (countRun char) (0, 0)).1 + count := Nat.le_add_left _ _
    _ ≤ _ := foldl_countRun_replicate char count
        (foldl_countRun_ordered char front (Nat.le_refl 0))
    _ ≤ _ := le_foldl_countRun char back _

/-- Between tripled single quotes a text is read back in which no three of them follow at once. -/
theorem readsTo_literal
    {text : List Char}
    (free : ∀ char ∈ text, mustEscape char = false)
    (apart : ¬ ['\'', '\'', '\''] <:+: text) :
    ReadsTo ⟨'\'', false, true⟩ text text := by
  induction text with
  | nil => exact .replicate rfl rfl (Nat.zero_le 2)
  | cons char others inductionHypothesis =>
      obtain ⟨charFree, othersFree⟩ := List.forall_mem_cons.mp free
      have reads := inductionHypothesis othersFree
        (fun within => apart (within.trans (List.suffix_cons char others).isInfix))
      by_cases isQuote : char = '\''
      · subst isQuote
        exact reads.quote rfl rfl fun isPrefix =>
          apart (List.cons_prefix_cons.mpr ⟨rfl, isPrefix⟩).isInfix
      · by_cases lineEnd : char = '\n'
        · subst lineEnd
          exact reads.cons ['\n'] (readBody_lineEnd rfl)
        · exact reads.cons [char]
            (readBody_plain (isPlain_of_not_mustEscape charFree lineEnd) isQuote (by simp))

/-! ## All forms -/

/-- The forms that a text can be written in. -/
inductive Suits : TextForm → List Char → Prop
  | basicLine (text : List Char) : Suits ⟨'"', true, false⟩ text
  | literalLine
      {text : List Char}
      (plain : ∀ char ∈ text, isPlain char = true ∧ char ≠ '\'') :
      Suits ⟨'\'', false, false⟩ text
  | basicBlock (text : List Char) : Suits ⟨'"', true, true⟩ text
  | literalBlock
      {text : List Char}
      (free : ∀ char ∈ text, mustEscape char = false)
      (apart : ¬ ['\'', '\'', '\''] <:+: text) :
      Suits ⟨'\'', false, true⟩ text

theorem Suits.quote_eq {form : TextForm} {text : List Char} (suits : Suits form text) :
    form.quote = '"' ∨ form.quote = '\'' := by
  cases suits <;> simp

/-- A text is written in a form that suits it. -/
theorem suits_formOf (text : List Char) : Suits (formOf text) text := by
  have free (none : text.any mustEscape = false) : ∀ char ∈ text, mustEscape char = false :=
    fun char member => by simpa using List.any_eq_false.mp none char member
  simp only [formOf]
  split
  · exact .basicLine text
  · split
    · rename_i literal
      simp only [Bool.and_eq_true, Bool.not_eq_true', decide_eq_true_eq] at literal
      obtain ⟨⟨noEscape, noQuote⟩, noLineEnd⟩ := literal
      refine .literalLine fun char member => ⟨?_, ?_⟩
      · refine isPlain_of_not_mustEscape (free noEscape char member) ?_
        rintro rfl
        simp [member] at noLineEnd
      · rintro rfl
        obtain ⟨front, back, rfl⟩ := List.append_of_mem member
        have run := @le_longestRun '\'' 1 (front ++ '\'' :: back) ⟨front, back, by simp⟩
        omega
    · split
      · exact .basicBlock text
      · split
        · rename_i literal
          simp only [Bool.and_eq_true, Bool.not_eq_true', decide_eq_true_eq] at literal
          refine .literalBlock (free literal.1) fun within => ?_
          have run := @le_longestRun '\'' 3 text within
          omega
        · cases text.contains '\n' with
          | false => exact .basicLine text
          | true => exact .basicBlock text

/-- Two quotes at once after the first one start a text between tripled quotes. -/
theorem readText_line
    {quote : Char}
    {chars : List Char}
    (single : ¬ [quote, quote] <+: chars) :
    readText quote chars = readLineText quote chars := by
  unfold readText
  split
  · rename_i second third rest
    rw [if_neg]
    rintro both
    simp only [Bool.and_eq_true, decide_eq_true_eq] at both
    obtain ⟨rfl, rfl⟩ := both
    exact single (by simp)
  · rfl

theorem readText_block (quote : Char) (chars : List Char) :
    readText quote (quote :: quote :: chars) = readBlockText quote chars := by
  simp [readText]

theorem skipLineEnd_of_head?
    {chars : List Char}
    (notLineEnd : chars.head? ≠ some '\n')
    (notReturn : chars.head? ≠ some '\r') :
    skipLineEnd chars = chars := by
  unfold skipLineEnd afterLineEnd?
  split
  · simp at notLineEnd
  · simp at notReturn
  · rfl

/-- Before a closing quote on one line there are no two quotes at once. -/
theorem not_prefix_of_head?
    {quote : Char}
    {body rest : List Char}
    (bodyApart : body.head? ≠ some quote)
    (apart : rest.head? ≠ some quote) :
    ¬ [quote, quote] <+: body ++ quote :: rest := by
  rintro ⟨others, same⟩
  cases body with
  | nil => exact apart (by rw [← (List.cons.inj same).2]; rfl)
  | cons char body => exact bodyApart (by rw [(List.cons.inj same).1]; rfl)

/-- A written text begins with a line end only if the text does. -/
theorem head?_writeBody_lineEnd {text : List Char} (noLineEnd : '\n' ∉ text) (quotes : Nat) :
    (writeBody true quotes text).head? ≠ some '\n' ∧
      (writeBody true quotes text).head? ≠ some '\r' := by
  cases text with
  | nil => simp [writeBody]
  | cons char others =>
      have notLineEnd : char ≠ '\n' := fun same => noLineEnd (by simp [same])
      rw [writeBody, if_neg (by simp [notLineEnd])]
      split
      · rename_i standing
        obtain rfl : char = '"' := by simp_all
        simp
      · split
        · unfold escapeOf
          split <;> simp
        · rename_i ordinary
          simp only [Bool.or_eq_true, decide_eq_true_eq, not_or, Bool.not_eq_true] at ordinary
          have plain := isPlain_of_not_mustEscape ordinary.2 notLineEnd
          simpa using ne_of_isPlain plain

/-- A text without line ends and characters to be escaped begins with none. -/
theorem head?_literal
    {text : List Char}
    (free : ∀ char ∈ text, mustEscape char = false)
    (noLineEnd : '\n' ∉ text) :
    text.head? ≠ some '\n' ∧ text.head? ≠ some '\r' := by
  cases text with
  | nil => simp
  | cons char others =>
      have notLineEnd : char ≠ '\n' := fun same => noLineEnd (by simp [same])
      have plain := isPlain_of_not_mustEscape (free char List.mem_cons_self) notLineEnd
      simpa using ne_of_isPlain plain

/-- The line end that is written before a text with line ends is left out again. -/
theorem skipLineEnd_start
    {text body : List Char}
    {quote : Char}
    (plain : isPlain quote = true)
    (apart : '\n' ∉ text → body.head? ≠ some '\n' ∧ body.head? ≠ some '\r')
    (rest : List Char) :
    skipLineEnd ((if '\n' ∈ text then ['\n'] else []) ++ (body ++ quote :: rest)) =
      body ++ quote :: rest := by
  by_cases lineEnd : '\n' ∈ text
  · rw [if_pos lineEnd]
    rfl
  · rw [if_neg lineEnd, List.nil_append]
    obtain ⟨notLineEnd, notReturn⟩ := ne_of_isPlain plain
    obtain ⟨bodyNotLineEnd, bodyNotReturn⟩ := apart lineEnd
    apply skipLineEnd_of_head?
    · cases body <;> simp_all
    · cases body <;> simp_all

/-- A text is read back from any form that suits it. -/
theorem readText_enclose
    {form : TextForm}
    {text : List Char}
    (suits : Suits form text)
    {rest : List Char}
    (apart : rest.head? ≠ some form.quote) :
    ∃ chars, enclose form text = form.quote :: chars ∧
      readText form.quote (chars ++ rest) = some (String.ofList text, rest) := by
  cases suits with
  | basicLine =>
      refine ⟨writeBody false 0 text ++ ['"'], by simp [enclose], ?_⟩
      rw [List.append_assoc, List.singleton_append,
        readText_line (not_prefix_of_head? (head?_writeBody text (by simp)) apart),
        readLineText]
      simp only [decide_true]
      rw [readBody_writeBody_line]
      rfl
  | literalLine plain =>
      have bodyApart : text.head? ≠ some '\'' := fun first =>
        (plain _ (List.mem_of_head? first)).2 rfl
      refine ⟨text ++ ['\''], by simp [enclose], ?_⟩
      rw [List.append_assoc, List.singleton_append,
        readText_line (not_prefix_of_head? bodyApart apart), readLineText]
      simp only [Char.reduceEq, decide_false]
      rw [readBody_literal_line plain]
      rfl
  | basicBlock =>
      refine ⟨_, by simp [enclose, List.replicate]; rfl, ?_⟩
      simp only [List.cons_append, List.append_assoc, List.nil_append, readText_block]
      rw [readBlockText, skipLineEnd_start rfl
        (fun noLineEnd => head?_writeBody_lineEnd noLineEnd 0)]
      simp only [decide_true]
      rw [readsTo_writeBody 0 text rest apart]
      rfl
  | literalBlock free runs =>
      refine ⟨_, by simp [enclose, List.replicate]; rfl, ?_⟩
      simp only [List.cons_append, List.append_assoc, List.nil_append, readText_block]
      rw [readBlockText, skipLineEnd_start rfl (head?_literal free)]
      simp only [Char.reduceEq, decide_false]
      rw [readsTo_literal free runs rest apart]
      rfl

end TenantStore.Toml
