import Mathlib.Data.List.Forall2
import TenantStore.Proofs.DnsLabels

namespace TenantStore.DnsLabel

/-!
# Labels as normal forms

`ofName` sends every name to a label and leaves labels alone, so the labels are
the normal forms of names (`ofName_normalizes`). Case, what surrounds the
letters and digits, and the choice of the characters between them are forgotten
on the way.
-/

/-! ## Labels stay as they are -/

/-- What is not upper case is left as it is. -/
theorem toLower_eq_self {char : Char} (notUpper : char.isUpper = false) :
    char.toLower = char :=
  dif_neg (of_decide_eq_false notUpper)

/-- No character of a label is a capital letter. -/
theorem isUpper_of_isLabelChar {char : Char} (usable : isLabelChar char = true) :
    char.isUpper = false := by
  rw [isLabelChar, Bool.or_eq_true, Bool.or_eq_true, Bool.and_eq_true, decide_eq_true_eq,
    decide_eq_true_eq, decide_eq_true_eq] at usable
  refine decide_eq_false fun upper => ?_
  change 65 ≤ char.toNat ∧ char.toNat ≤ 90 at upper
  rcases usable with (letter | digit) | rfl
  · change 97 ≤ char.toNat ∧ char.toNat ≤ 122 at letter
    omega
  · have range := Text.isDigit_range digit
    omega
  · exact absurd upper (by decide)

/-- A character that may be in a label stands for itself. -/
theorem labelChar_eq_self {char : Char} (usable : isLabelChar char = true) :
    labelChar char = char := by
  rw [labelChar, toLower_eq_self (isUpper_of_isLabelChar usable)]
  exact if_pos usable

/-- Without a dash in front nothing is dropped there. -/
theorem dropWhile_dash_eq_self {chars : List Char}
    (first : ∃ char, chars.head? = some char ∧ char ≠ '-') :
    chars.dropWhile (· = '-') = chars := by
  obtain ⟨char, head, noDash⟩ := first
  obtain ⟨rest, rfl⟩ := List.head?_eq_some_iff.mp head
  exact List.dropWhile_cons_of_neg (by simpa using noDash)

/-- Without a dash at the end nothing is dropped there. -/
theorem dropLastDashes_eq_self {chars : List Char}
    (last : ∃ char, chars.getLast? = some char ∧ char ≠ '-') :
    dropLastDashes chars = chars := by
  obtain ⟨char, getLast, noDash⟩ := last
  rw [dropLastDashes_eq, List.rdropWhile_eq_self_iff]
  intro nonempty
  rw [List.getLast?_eq_some_getLast nonempty, Option.some.injEq] at getLast
  simpa [getLast] using noDash

/-- Nothing of a label is mapped, trimmed or cut. -/
theorem Valid.usableChars_eq {chars : List Char} (valid : Valid chars) :
    usableChars chars = chars := by
  have mapped : chars.map labelChar = chars := by
    conv_rhs => rw [← List.map_id chars]
    exact List.map_congr_left
      (fun char member => labelChar_eq_self (valid.usable char member))
  rw [usableChars, mapped, dropWhile_dash_eq_self valid.first,
    dropLastDashes_eq_self valid.last, List.take_of_length_le valid.short,
    dropLastDashes_eq_self valid.last]

/-- A name is its own label if it is one. -/
theorem ofName_eq_self_iff {text : String} : ofName text = text ↔ isLabel text = true := by
  constructor
  · intro fixed
    rw [← fixed]
    exact isLabel_ofName text
  · intro label
    have valid := isLabel_iff.mp label
    obtain ⟨char, head, _⟩ := valid.first
    obtain ⟨rest, chars⟩ := List.head?_eq_some_iff.mp head
    rw [ofName, valid.usableChars_eq]
    split
    · rename_i empty
      rw [chars] at empty
      cases empty
    · exact String.ofList_toList

/-! ## What a label forgets -/

/-- Characters that differ at most in case, or neither of which is a letter or digit. -/
def Interchangeable (left right : Char) : Prop :=
  left.toLower = right.toLower ∨ (left.isAlphanum = false ∧ right.isAlphanum = false)

instance : DecidableRel Interchangeable := fun left right =>
  inferInstanceAs (Decidable (left.toLower = right.toLower ∨
    (left.isAlphanum = false ∧ right.isAlphanum = false)))

/--
Names that differ only in what stands before and behind a part of them, where
there is no letter or digit, and in characters of that part that are
interchangeable.
-/
inductive Alike : List Char → List Char → Prop
  | around
      {before core behind otherBefore otherCore otherBehind : List Char}
      (outside : ∀ char ∈ before ++ behind, char.isAlphanum = false)
      (otherOutside : ∀ char ∈ otherBefore ++ otherBehind, char.isAlphanum = false)
      (inside : List.Forall₂ Interchangeable core otherCore) :
      Alike (before ++ core ++ behind) (otherBefore ++ otherCore ++ otherBehind)

/-- What is neither a letter nor a digit becomes a dash. -/
theorem labelChar_eq_dash {char : Char} (outside : char.isAlphanum = false) :
    labelChar char = '-' := by
  change (char.isUpper || char.isLower || char.isDigit) = false at outside
  rw [Bool.or_eq_false_iff, Bool.or_eq_false_iff] at outside
  obtain ⟨⟨notUpper, notLower⟩, noDigit⟩ := outside
  have noLetter : ¬ ('a' ≤ char ∧ char ≤ 'z') := by
    rintro ⟨least, most⟩
    exact Bool.false_ne_true (notLower.symm.trans
      (Bool.and_eq_true_iff.mpr ⟨decide_eq_true least, decide_eq_true most⟩))
  rw [labelChar, toLower_eq_self notUpper]
  split
  · rename_i usable
    simpa [isLabelChar, noDigit, noLetter] using usable
  · rfl

/-- The same stands for characters that are interchangeable. -/
theorem Interchangeable.labelChar_eq {left right : Char}
    (same : Interchangeable left right) :
    labelChar left = labelChar right := by
  rcases same with sameLetter | ⟨leftOutside, rightOutside⟩
  · rw [labelChar, labelChar, sameLetter]
  · rw [labelChar_eq_dash leftOutside, labelChar_eq_dash rightOutside]

/-- The same stands for names that differ in such characters only. -/
theorem map_labelChar_eq {left right : List Char}
    (same : List.Forall₂ Interchangeable left right) :
    left.map labelChar = right.map labelChar := by
  induction same with
  | nil => rfl
  | cons head _ inductionHypothesis =>
      rw [List.map_cons, List.map_cons, head.labelChar_eq, inductionHypothesis]

/-- More dashes at the end do not count. -/
theorem dropLastDashes_append {chars dashes : List Char}
    (allDashes : ∀ char ∈ dashes, char = '-') :
    dropLastDashes (chars ++ dashes) = dropLastDashes chars := by
  rw [dropLastDashes, List.reverse_append, List.dropWhile_append_of_pos, dropLastDashes]
  intro char member
  exact decide_eq_true (allDashes char (List.mem_reverse.mp member))

/-- Dashes around some characters are trimmed like those at their ends. -/
theorem trim_around {before chars behind : List Char}
    (beforeDashes : ∀ char ∈ before, char = '-')
    (behindDashes : ∀ char ∈ behind, char = '-') :
    dropLastDashes ((before ++ chars ++ behind).dropWhile (· = '-')) =
      dropLastDashes (chars.dropWhile (· = '-')) := by
  rw [List.append_assoc, List.dropWhile_append_of_pos
    (fun char member => decide_eq_true (beforeDashes char member)), List.dropWhile_append]
  split
  · rename_i empty
    have nothing : behind.dropWhile (· = '-') = [] :=
      List.dropWhile_eq_nil_iff.mpr
        (fun char member => decide_eq_true (behindDashes char member))
    rw [nothing, List.isEmpty_iff.mp empty]
  · exact dropLastDashes_append behindDashes

/-- What is around a name and becomes dashes does not count. -/
theorem usableChars_around {before core behind : List Char}
    (outside : ∀ char ∈ before ++ behind, char.isAlphanum = false) :
    usableChars (before ++ core ++ behind) = usableChars core := by
  have dashes : ∀ {chars : List Char}, chars ⊆ before ++ behind →
      ∀ char ∈ chars.map labelChar, char = '-' := by
    intro chars within char member
    obtain ⟨original, originalMember, rfl⟩ := List.mem_map.mp member
    exact labelChar_eq_dash (outside original (within originalMember))
  rw [usableChars, usableChars, List.map_append, List.map_append,
    trim_around (dashes (List.subset_append_left _ _)) (dashes (List.subset_append_right _ _))]

/-- Names that are alike have the same characters to use. -/
theorem Alike.usableChars_eq {left right : List Char} (alike : Alike left right) :
    usableChars left = usableChars right := by
  obtain ⟨outside, otherOutside, inside⟩ := alike
  rw [usableChars_around outside, usableChars_around otherOutside, usableChars, usableChars,
    map_labelChar_eq inside]

/--
Labels are the normal forms of names: every name is sent to a label, just the
labels are left as they are, a second time changes nothing, and names that are
alike get the same label.
-/
theorem ofName_normalizes :
    (∀ name, isLabel (ofName name) = true) ∧
    (∀ text, ofName text = text ↔ isLabel text = true) ∧
    (∀ name, ofName (ofName name) = ofName name) ∧
    ∀ left right : String, Alike left.toList right.toList → ofName left = ofName right := by
  refine ⟨isLabel_ofName, fun _ => ofName_eq_self_iff,
    fun name => ofName_eq_self_iff.mpr (isLabel_ofName name), ?_⟩
  intro left right alike
  rw [ofName, ofName, alike.usableChars_eq]

/-- A name with blanks around it, capital letters and an accent. -/
theorem ofName_normalizes_accent :
    Alike "  My_Lapt\u00F6p 2!".toList "my-LAPT.p\t2".toList ∧
      ofName "  My_Lapt\u00F6p 2!" = ofName "my-LAPT.p\t2" ∧
      ofName "my-LAPT.p\t2" = "my-lapt-p-2" := by
  have alike : Alike "  My_Lapt\u00F6p 2!".toList "my-LAPT.p\t2".toList :=
    @Alike.around [' ', ' '] "My_Lapt\u00F6p 2".toList ['!'] [] "my-LAPT.p\t2".toList []
      (by simp) (by simp) (by decide)
  exact ⟨alike, ofName_normalizes.2.2.2 _ _ alike, by decide⟩

end TenantStore.DnsLabel
