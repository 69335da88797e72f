import TenantStore.Proofs.Text.Decimal
import TenantStore.Span

namespace TenantStore.Span

/-!
# Spans read back

The text of a span is read back as the span. A span is taken apart into one
part for each unit; the parts that are not zero make up its text, and adding
up all of them gives the span.
-/

/-! ## Adding up -/

/-- Adding what still fits adds seconds and nanoseconds apart. -/
theorem add?_eq
    {span sum : Span}
    {seconds nanos : Nat}
    (seconds_eq : sum.seconds = span.seconds + seconds)
    (nanos_eq : sum.nanos = span.nanos + nanos) :
    span.add? seconds nanos = some sum := by
  have small := sum.nanos_lt
  have seconds_lt := sum.seconds_lt
  have whole : (span.nanos + nanos) / 1000000000 = 0 := Nat.div_eq_of_lt (by omega)
  have rest : (span.nanos + nanos) % 1000000000 = span.nanos + nanos :=
    Nat.mod_eq_of_lt (by omega)
  rw [add?]
  simp only [whole, rest, Nat.add_zero]
  rw [if_pos (by omega), dif_pos (by omega)]
  obtain ⟨total, totalNanos, total_lt, totalNanos_lt⟩ := sum
  simp only at seconds_eq nanos_eq
  subst seconds_eq nanos_eq
  rfl

/-! ## Parts -/

/-- A number of units, with the name that the unit is given. -/
structure Part where
  number : Nat
  name : String
  unit : TimeUnit

namespace Part

/-- The characters of a part. -/
def chars (part : Part) : List Char :=
  Text.decimal part.number ++ part.name.toList

/-- A span with a part more. -/
def addTo (span : Span) (part : Part) : Option Span :=
  span.add? (part.unit.amount part.number).1 (part.unit.amount part.number).2

/-- The name is one of the unit, and the number can be read. -/
structure IsReadable (part : Part) : Prop where
  number_lt : part.number < 0x10000000000000000
  named : TimeUnit.ofName? part.name = some part.unit
  name_ne_nil : part.name.toList ≠ []
  unitChars : ∀ char ∈ part.name.toList, isUnitChar char = true

/-- Parts with a blank before each of them. -/
def tailChars (parts : List Part) : List Char :=
  parts.flatMap (fun part => ' ' :: part.chars)

end Part

/-- The characters of units are letters and one sign. -/
theorem isUnitChar_range {char : Char} (isName : isUnitChar char = true) :
    (97 ≤ char.toNat ∧ char.toNat ≤ 122) ∨ (65 ≤ char.toNat ∧ char.toNat ≤ 90) ∨
      char.toNat = 181 := by
  simp only [isUnitChar, Bool.or_eq_true, Bool.and_eq_true, decide_eq_true_eq] at isName
  rcases isName with (lower | upper) | rfl
  · exact .inl lower
  · exact .inr (.inl upper)
  · exact .inr (.inr rfl)

/-- A digit is no white space. -/
theorem isBlank_of_isDigit {char : Char} (digit : char.isDigit = true) :
    Text.isBlank char = false := by
  have range := Text.isDigit_range digit
  simp only [Text.isBlank, Bool.or_eq_false_iff, Bool.and_eq_false_iff,
    decide_eq_false_iff_not]
  omega

/-- The characters of units are told from digits, white space and points. -/
theorem isUnitChar_not {char : Char} (isName : isUnitChar char = true) :
    char.isDigit = false ∧ Text.isBlank char = false ∧ char ≠ '.' := by
  have range := isUnitChar_range isName
  refine ⟨?_, ?_, ?_⟩
  · cases digit : char.isDigit with
    | false => rfl
    | true =>
        have digits := Text.isDigit_range digit
        omega
  · simp only [Text.isBlank, Bool.or_eq_false_iff, Bool.and_eq_false_iff,
      decide_eq_false_iff_not]
    omega
  · rintro rfl
    have point : ('.' : Char).toNat = 46 := rfl
    omega

/-- Digits are taken up to the unit behind them. -/
theorem takeSpacedDigits_append
    {digits rest : List Char}
    (allDigits : ∀ char ∈ digits, char.isDigit = true)
    (ends : ∀ char tail, rest = char :: tail →
      char.isDigit = false ∧ Text.isBlank char = false) :
    takeSpacedDigits (digits ++ rest) = (digits, rest) := by
  induction digits with
  | nil =>
      cases rest with
      | nil => rfl
      | cons char tail =>
          obtain ⟨noDigit, noBlank⟩ := ends char tail rfl
          simp [takeSpacedDigits, noDigit, noBlank]
  | cons head tail inductionHypothesis =>
      have others := inductionHypothesis
        (fun char member => allDigits char (List.mem_cons_of_mem _ member))
      simp [takeSpacedDigits, allDigits head List.mem_cons_self, others]

/-- Blanks before amounts make no difference. -/
theorem readAmounts_blank (fuel : Nat) (span : Span) (chars : List Char) :
    readAmounts fuel span (' ' :: chars) = readAmounts fuel span chars := by
  cases fuel with
  | zero => rfl
  | succ fuel =>
      have dropped :
          (' ' :: chars).dropWhile Text.isBlank = chars.dropWhile Text.isBlank := rfl
      rw [readAmounts, readAmounts, dropped]

/-- One part is read and added, and the rest is left to be read. -/
theorem readAmounts_part
    {part : Part}
    (readable : part.IsReadable)
    (fuel : Nat)
    (span : Span)
    {rest : List Char}
    (ends : ∀ char tail, rest = char :: tail → isUnitChar char = false) :
    readAmounts (fuel + 1) span (part.chars ++ rest) =
      (part.addTo span).bind (fun longer => readAmounts fuel longer rest) := by
  obtain ⟨first, digits, decimal_eq⟩ :=
    List.exists_cons_of_ne_nil (Text.decimal_ne_nil part.number)
  have allDigits : ∀ char ∈ first :: digits, char.isDigit = true := by
    rw [← decimal_eq]
    exact fun char member => Text.isDigit_of_mem_decimal member
  have firstDigit := allDigits first List.mem_cons_self
  obtain ⟨letter, letters, name_eq⟩ := List.exists_cons_of_ne_nil readable.name_ne_nil
  have letterName : isUnitChar letter = true :=
    readable.unitChars letter (name_eq ▸ List.mem_cons_self)
  obtain ⟨letterNoDigit, letterNoBlank, letterNoPoint⟩ := isUnitChar_not letterName
  have taken : takeSpacedDigits (first :: (digits ++ (part.name.toList ++ rest))) =
      (first :: digits, part.name.toList ++ rest) := by
    apply @takeSpacedDigits_append (first :: digits) _ allDigits
    intro char tail same
    rw [name_eq] at same
    cases same
    exact ⟨letterNoDigit, letterNoBlank⟩
  have fraction : readFraction (part.name.toList ++ rest) =
      some ([], part.name.toList ++ rest) := by
    rw [name_eq, List.cons_append, readFraction]
    intro tail same
    exact letterNoPoint (List.cons.inj same).1
  have nameTaken : (part.name.toList ++ rest).takeWhile isUnitChar =
      part.name.toList := by
    rw [List.takeWhile_append_of_pos readable.unitChars]
    cases rest with
    | nil => simp
    | cons char tail => simp [ends char tail rfl]
  have nameDropped : (part.name.toList ++ rest).dropWhile isUnitChar = rest := by
    rw [List.dropWhile_append_of_pos readable.unitChars]
    cases rest with
    | nil => rfl
    | cons char tail => simp [ends char tail rfl]
  have number_eq : Text.natOfDigits (first :: digits) = part.number := by
    rw [← decimal_eq, Text.natOfDigits_decimal]
  have chars_eq : part.chars ++ rest =
      first :: (digits ++ (part.name.toList ++ rest)) := by
    rw [Part.chars, decimal_eq]
    simp
  rw [chars_eq, readAmounts, List.dropWhile_cons_of_neg
    (by simp [isBlank_of_isDigit firstDigit])]
  simp only [firstDigit, ↓reduceIte, taken, fraction, nameTaken, nameDropped,
    number_eq, String.ofList_toList, readable.named, readable.number_lt,
    Part.addTo, addFraction?, List.isEmpty_iff, Bool.and_eq_true,
    decide_eq_true_eq, Option.bind_eq_bind, Option.bind_some]

/-- A unit ends where the next part begins. -/
theorem isUnitChar_tailChars
    (parts : List Part)
    (char : Char)
    (tail : List Char)
    (same : Part.tailChars parts = char :: tail) :
    isUnitChar char = false := by
  cases parts with
  | nil => cases same
  | cons part others =>
      rw [Part.tailChars, List.flatMap_cons] at same
      rw [← (List.cons.inj same).1]
      rfl

/-- Every part takes a character at least, so the parts are bounded by the text. -/
theorem length_le_tailChars (parts : List Part) :
    parts.length ≤ (Part.tailChars parts).length := by
  induction parts with
  | nil => exact Nat.le_refl 0
  | cons part others inductionHypothesis =>
      simp only [Part.tailChars, List.flatMap_cons, List.cons_append,
        List.length_cons, List.length_append] at inductionHypothesis ⊢
      omega

/-- Parts are read one after the other and added up. -/
theorem readAmounts_tailChars
    (parts : List Part)
    (readable : ∀ part ∈ parts, part.IsReadable)
    {fuel : Nat}
    (enough : parts.length < fuel)
    (span : Span) :
    readAmounts fuel span (Part.tailChars parts) = parts.foldlM Part.addTo span := by
  induction parts generalizing fuel span with
  | nil =>
      cases fuel with
      | zero => simp at enough
      | succ fuel => rfl
  | cons part others inductionHypothesis =>
      cases fuel with
      | zero => simp at enough
      | succ fuel =>
          have chars_eq : Part.tailChars (part :: others) =
              ' ' :: (part.chars ++ Part.tailChars others) := by
            simp [Part.tailChars]
          rw [chars_eq, readAmounts_blank,
            readAmounts_part (readable part List.mem_cons_self) fuel span
              (isUnitChar_tailChars others), List.foldlM_cons]
          cases part.addTo span with
          | none => rfl
          | some longer =>
              exact inductionHypothesis
                (fun other member => readable other (List.mem_cons_of_mem _ member))
                (by simpa using enough) longer

/-! ## The parts of a span -/

/-- The name of a unit whose plural takes an `s`. -/
def countedName (number : Nat) (unit : String) : String :=
  if number > 1 then unit ++ "s" else unit

/-- A part for each unit, from the longest to the shortest. -/
def parts (span : Span) : List Part :=
  let inYear := span.seconds % 31557600
  let inMonth := inYear % 2630016
  let inDay := inMonth % 86400
  [
    ⟨span.seconds / 31557600, countedName (span.seconds / 31557600) "year", .year⟩,
    ⟨inYear / 2630016, countedName (inYear / 2630016) "month", .month⟩,
    ⟨inMonth / 86400, countedName (inMonth / 86400) "day", .day⟩,
    ⟨inDay / 3600, "h", .hour⟩,
    ⟨inDay % 3600 / 60, "m", .minute⟩,
    ⟨inDay % 60, "s", .second⟩,
    ⟨span.nanos / 1000000, "ms", .millisecond⟩,
    ⟨span.nanos / 1000 % 1000, "us", .microsecond⟩,
    ⟨span.nanos % 1000, "ns", .nanosecond⟩
  ]

/-- Every part of a span is readable: its number fits 64 bits and its unit has a name. -/
theorem parts_readable (span : Span) : ∀ part ∈ span.parts, part.IsReadable := by
  have seconds_lt := span.seconds_lt
  have nanos_lt := span.nanos_lt
  have counted : ∀ (number : Nat) (name : String) (unit : TimeUnit),
      number < 0x10000000000000000 → Part.IsReadable ⟨0, name, unit⟩ →
        Part.IsReadable ⟨0, name ++ "s", unit⟩ →
          Part.IsReadable ⟨number, countedName number name, unit⟩ := by
    intro number name unit small single plural
    unfold countedName
    split
    · exact ⟨small, plural.named, plural.name_ne_nil, plural.unitChars⟩
    · exact ⟨small, single.named, single.name_ne_nil, single.unitChars⟩
  have plain : ∀ (number : Nat) (name : String) (unit : TimeUnit),
      number < 0x10000000000000000 → Part.IsReadable ⟨0, name, unit⟩ →
        Part.IsReadable ⟨number, name, unit⟩ := by
    intro number name unit small readable
    exact ⟨small, readable.named, readable.name_ne_nil, readable.unitChars⟩
  intro part member
  simp only [parts, List.mem_cons, List.not_mem_nil, or_false] at member
  rcases member with rfl | rfl | rfl | rfl | rfl | rfl | rfl | rfl | rfl
  · exact counted _ _ _ (by omega) ⟨by decide, by decide, by decide, List.all_eq_true.1 rfl⟩
      ⟨by decide, by decide, by decide, List.all_eq_true.1 rfl⟩
  · exact counted _ _ _ (by omega) ⟨by decide, by decide, by decide, List.all_eq_true.1 rfl⟩
      ⟨by decide, by decide, by decide, List.all_eq_true.1 rfl⟩
  · exact counted _ _ _ (by omega) ⟨by decide, by decide, by decide, List.all_eq_true.1 rfl⟩
      ⟨by decide, by decide, by decide, List.all_eq_true.1 rfl⟩
  all_goals
    exact plain _ _ _ (by omega) ⟨by decide, by decide, by decide, List.all_eq_true.1 rfl⟩

/-- The parts that are not zero are the amounts of the text. -/
theorem amounts_eq (span : Span) :
    span.amounts =
      (span.parts.filter (fun part => part.number != 0)).map (fun part =>
        Text.showNat part.number ++ part.name) := by
  have shown : ∀ (number : Nat) (name : String) (unit : TimeUnit) (rest : List Part),
      ((⟨number, name, unit⟩ :: rest).filter (fun part => part.number != 0)).map
          (fun part => Text.showNat part.number ++ part.name) =
        showAmount number name ++
          (rest.filter (fun part => part.number != 0)).map (fun part =>
            Text.showNat part.number ++ part.name) := by
    intro number name unit rest
    unfold showAmount
    by_cases zero : number = 0 <;> simp [zero]
  simp only [parts, shown]
  simp only [amounts, showCounted, countedName, List.append_assoc, List.filter_nil,
    List.map_nil, List.append_nil]

/-- Parts that are zero add nothing. -/
theorem addTo_zero (span : Span) {part : Part} (zero : part.number = 0) :
    part.addTo span = some span := by
  unfold Part.addTo TimeUnit.amount
  split <;> exact add?_eq (by simp [zero]) (by simp [zero])

/-- A part of nothing adds nothing. -/
theorem foldlM_filter_parts (parts : List Part) (span : Span) :
    (parts.filter (fun part => part.number != 0)).foldlM Part.addTo span =
      parts.foldlM Part.addTo span := by
  induction parts generalizing span with
  | nil => rfl
  | cons part others inductionHypothesis =>
      by_cases zero : part.number = 0
      · rw [List.filter_cons_of_neg (by simp [zero]), inductionHypothesis,
          List.foldlM_cons, addTo_zero span zero]
        rfl
      · rw [List.filter_cons_of_pos (by simp [zero]), List.foldlM_cons,
          List.foldlM_cons]
        cases part.addTo span with
        | none => rfl
        | some longer => exact inductionHypothesis longer

/-- The sums of the seconds and of the nanoseconds of parts. -/
def secondsOf (parts : List Part) : Nat :=
  parts.foldr (fun part total => (part.unit.amount part.number).1 + total) 0

/-- The sum of the nanoseconds of parts. -/
def nanosOf (parts : List Part) : Nat :=
  parts.foldr (fun part total => (part.unit.amount part.number).2 + total) 0

/-- Parts whose sums fit are added up. -/
theorem foldlM_addTo
    (parts : List Part)
    {span sum : Span}
    (seconds_eq : sum.seconds = span.seconds + secondsOf parts)
    (nanos_eq : sum.nanos = span.nanos + nanosOf parts) :
    parts.foldlM Part.addTo span = some sum := by
  have seconds_lt := sum.seconds_lt
  have nanos_lt := sum.nanos_lt
  induction parts generalizing span with
  | nil =>
      have zeroAdded := @add?_eq span sum 0 0 seconds_eq nanos_eq
      have same := @add?_eq span span 0 0 rfl rfl
      rw [List.foldlM_nil]
      exact same.symm.trans zeroAdded
  | cons part others inductionHypothesis =>
      have seconds_cons : secondsOf (part :: others) =
          (part.unit.amount part.number).1 + secondsOf others := by
        simp [secondsOf]
      have nanos_cons : nanosOf (part :: others) =
          (part.unit.amount part.number).2 + nanosOf others := by
        simp [nanosOf]
      have longer : part.addTo span = some {
          seconds := span.seconds + (part.unit.amount part.number).1
          nanos := span.nanos + (part.unit.amount part.number).2
          seconds_lt := by omega
          nanos_lt := by omega } :=
        add?_eq rfl rfl
      rw [List.foldlM_cons, longer]
      apply inductionHypothesis
      · rw [seconds_eq, seconds_cons]
        exact (Nat.add_assoc _ _ _).symm
      · rw [nanos_eq, nanos_cons]
        exact (Nat.add_assoc _ _ _).symm

/-- A part of whole seconds adds to the seconds. -/
theorem secondsOf_long
    {part : Part}
    (long : part.unit.isSubsecond = false)
    (rest : List Part) :
    secondsOf (part :: rest) = part.number * part.unit.length + secondsOf rest ∧
      nanosOf (part :: rest) = nanosOf rest := by
  simp [secondsOf, nanosOf, TimeUnit.amount, long]

/-- A part of less than a second adds to the nanoseconds. -/
theorem nanosOf_short
    {part : Part}
    (short : part.unit.isSubsecond = true)
    (rest : List Part) :
    secondsOf (part :: rest) = secondsOf rest ∧
      nanosOf (part :: rest) = part.number * part.unit.length + nanosOf rest := by
  simp [secondsOf, nanosOf, TimeUnit.amount, short]

/-- The parts of a span have its seconds. -/
theorem secondsOf_parts (span : Span) : secondsOf span.parts = span.seconds := by
  have year := Nat.div_add_mod' span.seconds 31557600
  have month := Nat.div_add_mod' (span.seconds % 31557600) 2630016
  have day := Nat.div_add_mod' (span.seconds % 31557600 % 2630016) 86400
  have hour := Nat.div_add_mod' (span.seconds % 31557600 % 2630016 % 86400) 3600
  have minute := Nat.div_add_mod'
    (span.seconds % 31557600 % 2630016 % 86400 % 3600) 60
  have second : span.seconds % 31557600 % 2630016 % 86400 % 3600 % 60 =
      span.seconds % 31557600 % 2630016 % 86400 % 60 :=
    Nat.mod_mod_of_dvd _ ⟨60, rfl⟩
  rw [second] at minute
  rw [parts, (secondsOf_long rfl _).1, (secondsOf_long rfl _).1,
    (secondsOf_long rfl _).1, (secondsOf_long rfl _).1, (secondsOf_long rfl _).1,
    (secondsOf_long rfl _).1, (nanosOf_short rfl _).1, (nanosOf_short rfl _).1,
    (nanosOf_short rfl _).1]
  simp only [TimeUnit.length, secondsOf, List.foldr_nil]
  rw [Nat.add_zero, Nat.mul_one, minute, hour, day, month, year]

/-- The parts of a span have its nanoseconds. -/
theorem nanosOf_parts (span : Span) : nanosOf span.parts = span.nanos := by
  have milli := Nat.div_add_mod' (span.nanos / 1000) 1000
  have micro := Nat.div_add_mod' span.nanos 1000
  have twice : span.nanos / 1000 / 1000 = span.nanos / 1000000 :=
    Nat.div_div_eq_div_mul _ _ _
  rw [twice] at milli
  rw [parts, (secondsOf_long rfl _).2, (secondsOf_long rfl _).2,
    (secondsOf_long rfl _).2, (secondsOf_long rfl _).2, (secondsOf_long rfl _).2,
    (secondsOf_long rfl _).2, (nanosOf_short rfl _).2, (nanosOf_short rfl _).2,
    (nanosOf_short rfl _).2]
  simp only [TimeUnit.length, nanosOf, List.foldr_nil]
  have grouped : span.nanos / 1000000 * 1000000 =
      span.nanos / 1000000 * 1000 * 1000 :=
    (Nat.mul_assoc _ 1000 1000).symm
  rw [grouped, Nat.mul_one, Nat.add_zero, ← Nat.add_assoc, ← Nat.add_mul, milli,
    micro]

/-- The parts of a span add up to it. -/
theorem foldlM_parts (span : Span) : span.parts.foldlM Part.addTo zero = some span := by
  apply foldlM_addTo
  · rw [secondsOf_parts]
    exact (Nat.zero_add _).symm
  · rw [nanosOf_parts]
    exact (Nat.zero_add _).symm

/-! ## Texts -/

/-- Behind the first part every part has a blank before it. -/
theorem intercalate_cons (first : List Char) (rest : List (List Char)) :
    [' '].intercalate (first :: rest) =
      first ++ rest.flatMap (fun chars => ' ' :: chars) := by
  induction rest generalizing first with
  | nil => simp [List.intercalate]
  | cons next others inductionHypothesis =>
      have later := inductionHypothesis next
      simp only [List.intercalate, List.intersperse, List.flatten_cons] at later ⊢
      simp [later]

/-- A span is read back from its text. -/
theorem ofText?_text (span : Span) : ofText? span.text = some span := by
  have added := (foldlM_filter_parts span.parts zero).trans (foldlM_parts span)
  have readable : ∀ part ∈ span.parts.filter (fun part => part.number != 0),
      part.IsReadable :=
    fun part member => parts_readable span part ((List.mem_filter.mp member).1)
  have text_eq := amounts_eq span
  generalize span.parts.filter (fun part => part.number != 0) = shown at *
  cases shown with
  | nil =>
      rw [List.foldlM_nil] at added
      rw [← Option.some.inj added]
      decide
  | cons part others =>
      have partReadable := readable part List.mem_cons_self
      have othersReadable : ∀ other ∈ others, other.IsReadable :=
        fun other member => readable other (List.mem_cons_of_mem _ member)
      have chars_eq : span.text.toList = part.chars ++ Part.tailChars others := by
        rw [text, text_eq]
        simp only [List.map_cons, String.toList_intercalate]
        show [' '].intercalate _ = _
        rw [intercalate_cons]
        simp [Part.chars, Part.tailChars, Text.showNat, List.flatMap_map]
      obtain ⟨first, digits, decimal_eq⟩ :=
        List.exists_cons_of_ne_nil (Text.decimal_ne_nil part.number)
      have firstDigit : first.isDigit = true :=
        Text.isDigit_of_mem_decimal (decimal_eq ▸ List.mem_cons_self)
      obtain ⟨letter, letters, name_eq⟩ :=
        List.exists_cons_of_ne_nil partReadable.name_ne_nil
      have notZero : span.text ≠ "0" := by
        intro same
        have lengths := congrArg (fun text : String => text.toList.length) same
        simp only [chars_eq, Part.chars, decimal_eq, name_eq] at lengths
        simp at lengths
      have notBlank : span.text.toList.all Text.isBlank = false := by
        rw [chars_eq, Part.chars, decimal_eq]
        simp [isBlank_of_isDigit firstDigit]
      have enough : (part :: others).length < span.text.toList.length + 1 := by
        have within := length_le_tailChars others
        rw [chars_eq, Part.chars, decimal_eq]
        simp only [List.length_cons, List.length_append]
        omega
      rw [ofText?, if_neg notZero, notBlank, if_neg Bool.false_ne_true, ← added,
        chars_eq, ← readAmounts_blank]
      have chars_cons : ' ' :: (part.chars ++ Part.tailChars others) =
          Part.tailChars (part :: others) := by
        simp [Part.tailChars]
      rw [chars_cons]
      exact readAmounts_tailChars (part :: others) readable (chars_eq ▸ enough) zero

end TenantStore.Span
