import Mathlib.Data.List.DropRight
import Mathlib.Data.List.Nodup
import TenantStore.DnsLabel
import TenantStore.Proofs.Text.Decimal

namespace TenantStore.DnsLabel

/-!
# Labels from names and numbers

The label of a name is valid, and so is a valid label with a number of few
digits behind it. Behind one label different numbers make different labels,
since a number is what follows the last dash. So among one more numbers than
there are taken labels one is free, and `unused` finds the least: `unused_eq_iff`.
-/

/-! ## Valid labels -/

/-- What the characters of a label are like. -/
structure Valid (chars : List Char) : Prop where
  short : chars.length ≤ maxLength
  usable : ∀ char ∈ chars, isLabelChar char = true
  first : ∃ char, chars.head? = some char ∧ char ≠ '-'
  last : ∃ char, chars.getLast? = some char ∧ char ≠ '-'

/-- The test for labels, as a property of the characters. -/
theorem isLabel_iff {text : String} : isLabel text = true ↔ Valid text.toList := by
  simp only [isLabel, Bool.and_eq_true, decide_eq_true_eq, List.all_eq_true,
    Option.any_eq_true, bne_iff_ne]
  exact ⟨fun ⟨⟨⟨short, usable⟩, first⟩, last⟩ => ⟨short, usable, first, last⟩,
    fun ⟨short, usable, first, last⟩ => ⟨⟨⟨short, usable⟩, first⟩, last⟩⟩

/-- Whatever a character is, what stands for it may be in a label. -/
theorem isLabelChar_labelChar (char : Char) : isLabelChar (labelChar char) = true := by
  rw [labelChar]
  split
  · assumption
  · decide

/-- A digit may be in a label. -/
theorem isLabelChar_of_isDigit {char : Char} (digit : char.isDigit = true) :
    isLabelChar char = true := by
  simp [isLabelChar, digit]

/-! ## The label of a name -/

/-- Dashes are dropped from the right. -/
theorem dropLastDashes_eq (chars : List Char) :
    dropLastDashes chars = chars.rdropWhile (· = '-') :=
  rfl

/-- What is left without the last dashes was in front of them. -/
theorem prefix_dropLastDashes (chars : List Char) : dropLastDashes chars <+: chars :=
  List.rdropWhile_prefix _ chars

/-- What is left does not end with a dash. -/
theorem getLast?_dropLastDashes {chars : List Char} (nonempty : dropLastDashes chars ≠ []) :
    ∃ char, (dropLastDashes chars).getLast? = some char ∧ char ≠ '-' := by
  rw [dropLastDashes_eq] at nonempty ⊢
  have last := List.rdropWhile_last_not _ chars nonempty
  exact ⟨_, List.getLast?_eq_some_getLast nonempty, by simpa using last⟩

/-- What is used of a name begins behind its first dashes. -/
theorem prefix_usableChars (name : List Char) :
    usableChars name <+: (name.map labelChar).dropWhile (· = '-') :=
  (prefix_dropLastDashes _).trans
    ((List.take_prefix _ _).trans (prefix_dropLastDashes _))

/-- The usable characters of a name make a label, if there are any. -/
theorem valid_usableChars {name : List Char} (nonempty : usableChars name ≠ []) :
    Valid (usableChars name) where
  short := (prefix_dropLastDashes _).length_le.trans (List.length_take_le _ _)
  usable char member := by
    have mapped := (List.dropWhile_subset _) ((prefix_usableChars name).subset member)
    obtain ⟨original, _, rfl⟩ := List.mem_map.mp mapped
    exact isLabelChar_labelChar original
  first := by
    obtain ⟨char, rest, chars⟩ := List.exists_cons_of_ne_nil nonempty
    obtain ⟨more, whole⟩ := prefix_usableChars name
    have head := List.head?_dropWhile_not (fun char => decide (char = '-')) (name.map labelChar)
    rw [← whole, chars] at head
    exact ⟨char, by rw [chars, List.head?_cons], by simpa using head⟩
  last := getLast?_dropLastDashes nonempty

/-- Every name gives a label, the one that stands in for it if nothing is left. -/
theorem isLabel_ofName (name : String) : isLabel (ofName name) = true := by
  rw [ofName]
  split
  · decide
  · rename_i nonempty
    rw [isLabel_iff, String.toList_ofList]
    exact valid_usableChars nonempty

/-! ## Numbered labels -/

/-- A number stands behind a dash, and behind as much of the label as fits. -/
theorem toList_numbered (base : String) (number : Nat) :
    (numbered base number).toList =
      base.toList.take (maxLength - ('-' :: Text.decimal number).length) ++
        '-' :: Text.decimal number := by
  rw [numbered, String.toList_ofList]

/-- A number that is counted in 32 bits has few digits. -/
theorem length_decimal_le {number : Nat} (small : number < 0x100000000) :
    (Text.decimal number).length ≤ 10 :=
  (Nat.length_toDigits_le_iff (by decide) (by decide)).mpr (small.trans (by decide))

/-- A label with a number behind it is a label. -/
theorem isLabel_numbered
    {base : String}
    (valid : isLabel base = true)
    {number : Nat}
    (small : number < 0x100000000) :
    isLabel (numbered base number) = true := by
  rw [isLabel_iff] at valid ⊢
  have digits := length_decimal_le small
  have room : 0 < maxLength - ('-' :: Text.decimal number).length := by
    rw [List.length_cons, maxLength]
    omega
  rw [toList_numbered]
  constructor
  case short =>
    rw [List.length_append, List.length_take, List.length_cons, maxLength]
    omega
  case usable =>
    intro char member
    rcases List.mem_append.mp member with inBase | inSuffix
    · exact valid.usable char (List.mem_of_mem_take inBase)
    · rcases List.mem_cons.mp inSuffix with rfl | inNumber
      · decide
      · exact isLabelChar_of_isDigit (Text.isDigit_of_mem_decimal inNumber)
  case first =>
    obtain ⟨char, head, noDash⟩ := valid.first
    obtain ⟨rest, chars⟩ := List.head?_eq_some_iff.mp head
    obtain ⟨length, succ⟩ := Nat.exists_eq_succ_of_ne_zero room.ne'
    exact ⟨char, by rw [chars, succ, List.take_succ_cons]; rfl, noDash⟩
  case last =>
    have nonempty := Text.decimal_ne_nil number
    refine ⟨(Text.decimal number).getLast nonempty, ?_, ?_⟩
    · rw [List.getLast?_append_of_ne_nil _ (List.cons_ne_nil _ _),
        List.getLast?_cons_of_ne_nil nonempty, List.getLast?_eq_some_getLast nonempty]
    · intro dash
      have digit := Text.isDigit_of_mem_decimal (List.getLast_mem nonempty)
      rw [dash] at digit
      exact absurd digit (by decide)

/-- The number of a label is what follows its last dash. -/
theorem rtakeWhile_numbered (base : String) (number : Nat) :
    (numbered base number).toList.rtakeWhile (· ≠ '-') = Text.decimal number := by
  have digits : ∀ char ∈ (Text.decimal number).reverse, decide (char ≠ '-') = true := by
    intro char member
    rw [decide_eq_true_iff]
    rintro rfl
    exact absurd (Text.isDigit_of_mem_decimal (List.mem_reverse.mp member)) (by decide)
  have reversed : (numbered base number).toList.reverse =
      (Text.decimal number).reverse ++
        '-' :: (base.toList.take (maxLength - ('-' :: Text.decimal number).length)).reverse := by
    rw [toList_numbered, List.reverse_append, List.reverse_cons, List.append_assoc]
    rfl
  rw [List.rtakeWhile, reversed, List.takeWhile_append_of_pos digits,
    List.takeWhile_cons_of_neg (by decide), List.append_nil, List.reverse_reverse]

/-- Different numbers make different labels, however much of the base is cut. -/
theorem numbered_injective (base : String) : Function.Injective (numbered base) := by
  intro left right same
  have digits : Text.decimal left = Text.decimal right := by
    rw [← rtakeWhile_numbered base left, same, rtakeWhile_numbered]
  rw [← Text.natOfDigits_decimal left, digits, Text.natOfDigits_decimal]

/-! ## The first free label -/

/--
The label for a name where some labels are taken: that of the name if it is
free, or else that with the least positive number behind it that makes it free.
-/
inductive First (name : String) (taken : String → Prop) : String → Prop
  | bare (free : ¬taken (ofName name)) :
      First name taken (ofName name)
  | suffixed
      (number : Nat)
      (collides : taken (ofName name))
      (positive : 1 ≤ number)
      (small : number < 0x100000000)
      (free : ¬taken (numbered (ofName name) number))
      (least : ∀ smaller, 1 ≤ smaller → smaller < number →
        taken (numbered (ofName name) smaller)) :
      First name taken (numbered (ofName name) number)

namespace First

variable {name label other : String} {taken alsoTaken : String → Prop}

/-- The first free label is free. -/
theorem free (first : First name taken label) : ¬taken label := by
  cases first with
  | bare free => exact free
  | suffixed _ _ _ _ free _ => exact free

/-- The first free label is a label. -/
theorem isLabel (first : First name taken label) : isLabel label = true := by
  cases first with
  | bare _ => exact isLabel_ofName name
  | suffixed _ _ _ small _ _ => exact isLabel_numbered (isLabel_ofName name) small

/-- There is but one first free label. -/
theorem unique (first : First name taken label) (again : First name taken other) :
    label = other := by
  cases first with
  | bare free =>
      cases again with
      | bare _ => rfl
      | suffixed _ collides => exact absurd collides free
  | suffixed number collides positive _ free least =>
      cases again with
      | bare freeAgain => exact absurd collides freeAgain
      | suffixed numberAgain _ positiveAgain _ freeAgain leastAgain =>
          rcases Nat.lt_trichotomy number numberAgain with smaller | rfl | greater
          · exact absurd (leastAgain number positive smaller) free
          · rfl
          · exact absurd (least numberAgain positiveAgain greater) freeAgain

/-- Which label is first depends on nothing but which labels are taken. -/
theorem congr (first : First name taken label) (same : ∀ label, taken label ↔ alsoTaken label) :
    First name alsoTaken label := by
  have sets : taken = alsoTaken := funext (fun label => propext (same label))
  exact sets ▸ first

end First

/-- More numbers than there are taken labels make one that is free. -/
theorem exists_free (base : String) (taken : List String) :
    ∃ number ∈ List.range' 1 (taken.length + 1), numbered base number ∉ taken := by
  by_contra none
  push Not at none
  have distinct : ((List.range' 1 (taken.length + 1)).map (numbered base)).Nodup :=
    List.Nodup.map (numbered_injective base) List.nodup_range'
  have subset : (List.range' 1 (taken.length + 1)).map (numbered base) ⊆ taken := by
    intro label member
    obtain ⟨number, inRange, rfl⟩ := List.mem_map.mp member
    exact none number inRange
  have tooMany := distinct.length_le_of_subset subset
  rw [List.length_map, List.length_range'] at tooMany
  omega

/-- If a number in reach makes the label free, the search ends at the least such number. -/
theorem firstFree_least
    {base : String}
    {taken : List String}
    {fuel start : Nat}
    (inReach : ∃ number ∈ List.range' start (fuel + 1), numbered base number ∉ taken) :
    ∃ number ∈ List.range' start (fuel + 1),
      firstFree base taken fuel start = numbered base number ∧
        numbered base number ∉ taken ∧
        ∀ smaller, start ≤ smaller → smaller < number → numbered base smaller ∈ taken := by
  induction fuel generalizing start with
  | zero =>
      obtain ⟨number, inRange, free⟩ := inReach
      obtain rfl : number = start := by simpa using inRange
      exact ⟨number, inRange, rfl, free, fun smaller notBelow below => by omega⟩
  | succ fuel inductionHypothesis =>
      by_cases collides : numbered base start ∈ taken
      · have later : ∃ number ∈ List.range' (start + 1) (fuel + 1),
            numbered base number ∉ taken := by
          obtain ⟨number, inRange, free⟩ := inReach
          rw [List.range'_succ, List.mem_cons] at inRange
          rcases inRange with rfl | inRest
          · exact absurd collides free
          · exact ⟨number, inRest, free⟩
        obtain ⟨number, inRange, found, free, least⟩ := inductionHypothesis later
        refine ⟨number, ?_, ?_, free, ?_⟩
        · rw [List.range'_succ]
          exact List.mem_cons_of_mem _ inRange
        · rw [firstFree, if_pos (List.contains_iff_mem.mpr collides), found]
        · intro smaller notBelow below
          rcases Nat.eq_or_lt_of_le notBelow with rfl | above
          · exact collides
          · exact least smaller above below
      · refine ⟨start, ?_, ?_, collides, fun smaller notBelow below => by omega⟩
        · rw [List.range'_succ]
          exact List.mem_cons_self
        · rw [firstFree, if_neg (mt List.contains_iff_mem.mp collides)]

/-- While fewer labels are taken than 32 bits count, `unused` finds the first that is free. -/
theorem unused_eq_iff
    {name label : String}
    {taken : List String}
    (few : taken.length + 1 < 0x100000000) :
    unused name taken = label ↔ First name (· ∈ taken) label := by
  have first : First name (· ∈ taken) (unused name taken) := by
    simp only [unused]
    split
    · rename_i collides
      obtain ⟨number, inRange, found, free, least⟩ :=
        firstFree_least (exists_free (ofName name) taken)
      obtain ⟨notBelow, below⟩ := List.mem_range'_1.mp inRange
      rw [found]
      exact .suffixed number (List.contains_iff_mem.mp collides) notBelow (by omega) free least
    · rename_i free
      exact .bare (mt List.contains_iff_mem.mpr free)
  constructor
  · rintro rfl
    exact first
  · exact first.unique

/-! ## Orders of the taken labels -/

/-- The search asks which labels are taken, not in which order. -/
theorem firstFree_congr
    {left right : List String}
    (same : ∀ label, label ∈ left ↔ label ∈ right)
    (base : String)
    (fuel number : Nat) :
    firstFree base left fuel number = firstFree base right fuel number := by
  induction fuel generalizing number with
  | zero => rfl
  | succ fuel inductionHypothesis =>
      rw [firstFree, firstFree, inductionHypothesis]
      simp only [List.contains_iff_mem, same]

/-- In which order the taken labels are listed makes no difference. -/
theorem unused_perm {left right : List String} (same : left.Perm right) (name : String) :
    unused name left = unused name right := by
  simp only [unused, List.contains_iff_mem, same.mem_iff, same.length_eq,
    firstFree_congr (fun _ => same.mem_iff)]

end TenantStore.DnsLabel
