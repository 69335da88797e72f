import TenantStore.Address
import TenantStore.Proofs.Text.Decimal

namespace TenantStore.Address

/-!
# Addresses read back

The text of an address is read back as the address. The readers go from
digits over octets and groups to whole addresses, and each lemma leaves open
what follows in the text.
-/

/-! ## Digits -/

/-- The digits of a number have their values, and none is a leading zero. -/
theorem exists_digitValues
    {digit? : Char → Option Nat}
    {base : Nat}
    (large : 1 < base)
    (reads : ∀ digit < base, digit? (Nat.digitChar digit) = some digit)
    (number : Nat) :
    ∃ digits,
      (Nat.toDigits base number).map digit? = digits.map some ∧
        valueOf base digits = number ∧ (digits.head? = some 0 → number = 0) := by
  induction number using Nat.strongRecOn with
  | ind number inductionHypothesis =>
      rw [Nat.toDigits_eq_if large]
      split
      · rename_i single
        exact ⟨[number], by simp [reads number single], by simp [valueOf], by simp⟩
      · rename_i several
        have smaller : number / base < number := Nat.div_lt_self (by omega) large
        obtain ⟨digits, map_eq, value_eq, leading⟩ :=
          inductionHypothesis (number / base) smaller
        have last : number % base < base := Nat.mod_lt _ (by omega)
        refine ⟨digits ++ [number % base], ?_, ?_, ?_⟩
        · simp [map_eq, reads _ last]
        · have parts : number / base * base + number % base = number := by
            rw [Nat.mul_comm]
            exact Nat.div_add_mod number base
          rw [valueOf, List.foldl_append]
          show valueOf base digits * base + number % base = number
          rw [value_eq, parts]
        · have quotientPositive : 0 < number / base :=
            Nat.div_pos (by omega) (by omega)
          intro headZero
          cases digits with
          | nil => simp at map_eq
          | cons head tail =>
              have zero := leading headZero
              omega

/-- Digits are taken up to what is no digit. -/
theorem takeDigits_append
    {digit? : Char → Option Nat}
    {chars rest : List Char}
    {digits : List Nat}
    (values : chars.map digit? = digits.map some)
    (ends : ∀ char tail, rest = char :: tail → digit? char = none) :
    takeDigits digit? (chars ++ rest) = (digits, rest) := by
  induction chars generalizing digits with
  | nil =>
      have none : digits = [] := by simpa using values.symm
      subst none
      cases rest with
      | nil => rfl
      | cons char tail => simp [takeDigits, ends char tail rfl]
  | cons head tail inductionHypothesis =>
      cases digits with
      | nil => cases values
      | cons digit others =>
          simp only [List.map_cons, List.cons.injEq] at values
          simp [takeDigits, values.1, inductionHypothesis values.2]

/-- What follows digits is the end of the text they stand in. -/
theorem takeDigits_rest_subset (digit? : Char → Option Nat) (chars : List Char) :
    (takeDigits digit? chars).2 ⊆ chars := by
  induction chars with
  | nil => simp [takeDigits]
  | cons head tail inductionHypothesis =>
      rw [takeDigits]
      cases digit? head with
      | none => simp
      | some value => exact List.subset_cons_of_subset head inductionHypothesis

/-- A decimal digit is read back. -/
theorem decimalDigit?_digitChar (digit : Nat) (small : digit < 10) :
    decimalDigit? (Nat.digitChar digit) = some digit := by
  have all : ∀ digit : Fin 10,
      decimalDigit? (Nat.digitChar digit.val) = some digit.val := by
    decide
  exact all ⟨digit, small⟩

/-- A hexadecimal digit is read back. -/
theorem hexDigit?_digitChar (digit : Nat) (small : digit < 16) :
    hexDigit? (Nat.digitChar digit) = some digit := by
  have all : ∀ digit : Fin 16,
      hexDigit? (Nat.digitChar digit.val) = some digit.val := by
    decide
  exact all ⟨digit, small⟩

/-! ## Octets -/

/-- A text does not go on with a decimal digit. -/
def EndsDigits (rest : List Char) : Prop :=
  ∀ char tail, rest = char :: tail → decimalDigit? char = none

theorem endsDigits_nil : EndsDigits [] := by
  intro char tail same
  cases same

theorem endsDigits_point (rest : List Char) : EndsDigits ('.' :: rest) := by
  intro char tail same
  cases same
  rfl

/-- An octet is read back from its decimal digits. It has no zeros in front, which would be
refused. -/
theorem readOctet_append (octet : UInt8) {rest : List Char} (ends : EndsDigits rest) :
    readOctet (Text.decimal octet.toNat ++ rest) = some (octet, rest) := by
  obtain ⟨digits, map_eq, value_eq, leading⟩ :=
    exists_digitValues (by decide) decimalDigit?_digitChar octet.toNat
  have length_eq : digits.length = (Nat.toDigits 10 octet.toNat).length := by
    simpa using (congrArg List.length map_eq).symm
  have small : octet.toNat < 256 := octet.toNat_lt
  have short : digits.length ≤ 3 := by
    rw [length_eq, Nat.length_toDigits_le_iff (by decide) (by decide)]
    omega
  have noLeadingZero : ¬(digits.head? = some 0 ∧ 1 < digits.length) := by
    rintro ⟨headZero, several⟩
    rw [length_eq, leading headZero] at several
    simp at several
  rw [readOctet, Text.decimal, takeDigits_append map_eq ends]
  cases digits with
  | nil => simp at map_eq
  | cons head tail =>
      simp only [value_eq, UInt8.ofNat_toNat]
      rw [if_pos]
      simp only [Bool.and_eq_true, Bool.not_eq_true', decide_eq_true_eq,
        Bool.and_eq_false_iff, decide_eq_false_iff_not]
      refine ⟨⟨short, ?_⟩, small⟩
      by_cases headZero : (head :: tail).head? = some 0
      · exact .inr (fun several => noLeadingZero ⟨headZero, several⟩)
      · exact .inl headZero

/-- An octet behind a point is read back. -/
theorem readNextOctet_append
    (octet : UInt8)
    {rest : List Char}
    (ends : EndsDigits rest) :
    readNextOctet ('.' :: (Text.decimal octet.toNat ++ rest)) =
      some (octet, rest) :=
  readOctet_append octet ends

/-- Four octets are read back, whatever follows that is no digit. -/
theorem readQuad_append
    (a b c d : UInt8)
    {rest : List Char}
    (ends : EndsDigits rest) :
    readQuad (quadChars a b c d ++ rest) = some ((a, b, c, d), rest) := by
  simp only [readQuad, quadChars, List.append_assoc, List.cons_append,
    readOctet_append a (endsDigits_point _),
    readNextOctet_append b (endsDigits_point _),
    readNextOctet_append c (endsDigits_point _),
    readNextOctet_append d ends, Option.bind_eq_bind, Option.bind_some]

/-- What is left after an octet was there before. -/
theorem readOctet_rest_subset
    {chars rest : List Char}
    {octet : UInt8}
    (read : readOctet chars = some (octet, rest)) :
    rest ⊆ chars := by
  have within := takeDigits_rest_subset decimalDigit? chars
  rw [readOctet] at read
  split at read
  · cases read
  · rename_i digits found _ taken
    rw [taken] at within
    simp only at read
    split at read
    · cases read
      exact within
    · cases read

/-- Where there is no point, there are not four octets. -/
theorem readQuad_eq_none {chars : List Char} (pointless : '.' ∉ chars) :
    readQuad chars = none := by
  cases first : readOctet chars with
  | none => simp [readQuad, first]
  | some found =>
      obtain ⟨octet, rest⟩ := found
      have within := readOctet_rest_subset first
      have second : readNextOctet rest = none := by
        unfold readNextOctet
        split
        · exact absurd (within List.mem_cons_self) pointless
        · rfl
      simp [readQuad, first, second]

/-- No address of four octets begins with a colon. -/
theorem readQuad_colon (rest : List Char) : readQuad (':' :: rest) = none :=
  rfl

/-! ## Groups -/

/-- A text is over, or goes on with two colons. -/
def EndsGroups (rest : List Char) : Prop :=
  rest = [] ∨ ∃ tail, rest = ':' :: ':' :: tail

/-- A group is read back from its hexadecimal digits. -/
theorem readGroup_append
    (group : UInt16)
    {rest : List Char}
    (ends : ∀ char tail, rest = char :: tail → char = ':') :
    readGroup (Nat.toDigits 16 group.toNat ++ rest) = some (group, rest) := by
  obtain ⟨digits, map_eq, value_eq, _⟩ :=
    exists_digitValues (by decide) hexDigit?_digitChar group.toNat
  have length_eq : digits.length = (Nat.toDigits 16 group.toNat).length := by
    simpa using (congrArg List.length map_eq).symm
  have small : group.toNat < 65536 := group.toNat_lt
  have short : digits.length ≤ 4 := by
    rw [length_eq, Nat.length_toDigits_le_iff (by decide) (by decide)]
    omega
  have noDigit : ∀ char tail, rest = char :: tail → hexDigit? char = none := by
    intro char tail same
    rw [ends char tail same]
    rfl
  rw [readGroup, takeDigits_append map_eq noDigit]
  cases digits with
  | nil => simp at map_eq
  | cons head tail =>
      simp only [value_eq, UInt16.ofNat_toNat]
      rw [if_pos short]

/-- There is no point among hexadecimal digits. -/
theorem point_not_mem_hex (number : Nat) : '.' ∉ Nat.toDigits 16 number := by
  obtain ⟨digits, map_eq, _, _⟩ :=
    exists_digitValues (by decide) hexDigit?_digitChar number
  intro member
  have unread : hexDigit? '.' ∈ (Nat.toDigits 16 number).map hexDigit? :=
    List.mem_map_of_mem member
  rw [map_eq, List.mem_map] at unread
  obtain ⟨digit, _, same⟩ := unread
  cases same

/-- Groups with a colon before each of them. -/
def tailChars (groups : List UInt16) : List Char :=
  groups.flatMap (fun group => ':' :: Nat.toDigits 16 group.toNat)

/-- Groups are the first one and, behind colons, the others. -/
theorem groupChars_cons (group : UInt16) (rest : List UInt16) :
    groupChars (group :: rest) = Nat.toDigits 16 group.toNat ++ tailChars rest := by
  induction rest generalizing group with
  | nil => simp [groupChars, tailChars]
  | cons next others inductionHypothesis =>
      rw [groupChars, inductionHypothesis next]
      simp [tailChars]

theorem point_not_mem_tailChars (groups : List UInt16) : '.' ∉ tailChars groups := by
  simp [tailChars, point_not_mem_hex]

/-- There is no point in groups, so they are not taken for four octets. -/
theorem point_not_mem_groupChars (groups : List UInt16) : '.' ∉ groupChars groups := by
  cases groups with
  | nil => simp [groupChars]
  | cons group rest =>
      simp [groupChars_cons, point_not_mem_hex, point_not_mem_tailChars]

/-- What follows a group begins with a colon, whatever follows the groups. -/
theorem tailChars_starts
    (groups : List UInt16)
    {rest : List Char}
    (ends : EndsGroups rest)
    (char : Char)
    (tail : List Char)
    (same : tailChars groups ++ rest = char :: tail) :
    char = ':' := by
  cases groups with
  | nil =>
      rcases ends with rfl | ⟨later, rfl⟩
      · cases same
      · exact (List.cons.inj same).1.symm
  | cons group others =>
      rw [tailChars, List.flatMap_cons] at same
      exact (List.cons.inj same).1.symm

/-- Groups behind colons are read as far as they go. -/
theorem readGroups_tailChars
    (groups : List UInt16)
    {limit : Nat}
    (enough : groups.length ≤ limit)
    {rest : List Char}
    (ends : EndsGroups rest)
    (pointless : '.' ∉ rest) :
    readGroups limit false (tailChars groups ++ rest) = ⟨groups, false, rest⟩ := by
  induction groups generalizing limit with
  | nil =>
      cases limit with
      | zero => rfl
      | succ limit =>
          rcases ends with rfl | ⟨tail, rfl⟩
          · simp [readGroups, tailChars, afterSeparator?]
          · have noGroup : readGroup (':' :: tail) = none := rfl
            simp [readGroups, tailChars, afterSeparator?, readQuad_colon, noGroup]
  | cons group others inductionHypothesis =>
      cases limit with
      | zero => simp at enough
      | succ limit =>
          have others_eq := inductionHypothesis (by simpa using enough)
          have noQuad : readQuad (Nat.toDigits 16 group.toNat ++
              (tailChars others ++ rest)) = none := by
            apply readQuad_eq_none
            simp [point_not_mem_hex, point_not_mem_tailChars, pointless]
          have first := readGroup_append group (tailChars_starts others ends)
          have chars_eq : tailChars (group :: others) ++ rest =
              ':' :: (Nat.toDigits 16 group.toNat ++ (tailChars others ++ rest)) := by
            simp [tailChars]
          rw [chars_eq, readGroups]
          simp [afterSeparator?, noQuad, first, others_eq]

/-- Groups with colons between them are read as far as they go. -/
theorem readGroups_groupChars
    (groups : List UInt16)
    {limit : Nat}
    (enough : groups.length ≤ limit)
    {rest : List Char}
    (ends : EndsGroups rest)
    (pointless : '.' ∉ rest) :
    readGroups limit true (groupChars groups ++ rest) = ⟨groups, false, rest⟩ := by
  cases limit with
  | zero =>
      have none : groups = [] := List.eq_nil_of_length_eq_zero (by omega)
      subst none
      rfl
  | succ limit =>
      cases groups with
      | nil =>
          have noGroup : readGroup rest = none := by
            rcases ends with rfl | ⟨tail, rfl⟩ <;> rfl
          simp [readGroups, groupChars, afterSeparator?, readQuad_eq_none pointless,
            noGroup]
      | cons group others =>
          have others_eq :=
            readGroups_tailChars others (by simpa using enough) ends pointless
          have noQuad : readQuad (Nat.toDigits 16 group.toNat ++
              (tailChars others ++ rest)) = none := by
            apply readQuad_eq_none
            simp [point_not_mem_hex, point_not_mem_tailChars, pointless]
          have first := readGroup_append group (tailChars_starts others ends)
          rw [groupChars_cons, List.append_assoc, readGroups]
          simp [afterSeparator?, noQuad, first, others_eq]

/-! ## Runs of zeros -/

/-- Groups begin with their run of zeros. -/
theorem replicate_zeroRun (groups : List UInt16) :
    groups = List.replicate (zeroRun groups) 0 ++ groups.drop (zeroRun groups) := by
  induction groups with
  | nil => rfl
  | cons head tail inductionHypothesis =>
      rw [zeroRun]
      split
      · rename_i zero
        rw [zero, List.replicate_succ, List.drop_succ_cons, List.cons_append,
          ← inductionHypothesis]
      · simp

/-- The longest run of zeros stands between what precedes and what follows it. -/
theorem longestZeroRun_split (groups : List UInt16) :
    groups =
      groups.take (longestZeroRun groups).1
        ++ List.replicate (longestZeroRun groups).2 0
        ++ groups.drop ((longestZeroRun groups).1 + (longestZeroRun groups).2) := by
  induction groups with
  | nil => rfl
  | cons head tail inductionHypothesis =>
      simp only [longestZeroRun]
      split
      · simpa using replicate_zeroRun (head :: tail)
      · rw [show (longestZeroRun tail).1 + 1 + (longestZeroRun tail).2 =
          (longestZeroRun tail).1 + (longestZeroRun tail).2 + 1 by omega,
          List.drop_succ_cons, List.take_succ_cons, List.cons_append,
          List.cons_append, ← inductionHypothesis]

/-- A run of zeros is no longer than the groups. -/
theorem zeroRun_le (groups : List UInt16) : zeroRun groups ≤ groups.length := by
  have lengths := congrArg List.length (replicate_zeroRun groups)
  simp only [List.length_append, List.length_replicate, List.length_drop] at lengths
  omega

/-- The longest run of zeros ends where the groups end or before. -/
theorem longestZeroRun_le (groups : List UInt16) :
    (longestZeroRun groups).1 + (longestZeroRun groups).2 ≤ groups.length := by
  induction groups with
  | nil => exact Nat.le_refl 0
  | cons head tail inductionHypothesis =>
      simp only [longestZeroRun]
      split
      · simpa using zeroRun_le (head :: tail)
      · simp only [List.length_cons]
        omega

/-! ## Addresses -/

/-- The eight groups of an address make it up. -/
theorem ofGroups?_values (groups : AddressGroups) :
    ofGroups? groups.values = some (.v6 groups) := by
  rw [ofGroups?, dif_pos groups.length_eq]

/-- A group is made of its two octets. -/
theorem groupOfOctets_halves (group : UInt16) :
    groupOfOctets (UInt8.ofNat (group.toNat / 256)) (UInt8.ofNat (group.toNat % 256)) =
      group := by
  have small : group.toNat < 65536 := group.toNat_lt
  have high : (UInt8.ofNat (group.toNat / 256)).toNat = group.toNat / 256 :=
    UInt8.toNat_ofNat_of_lt' (by show _ < 256; omega)
  have low : (UInt8.ofNat (group.toNat % 256)).toNat = group.toNat % 256 :=
    UInt8.toNat_ofNat_of_lt' (by show _ < 256; omega)
  have parts : group.toNat / 256 * 256 + group.toNat % 256 = group.toNat := by omega
  rw [groupOfOctets, high, low, parts, UInt16.ofNat_toNat]

/-- An address that carries four octets has the known groups in front of them. -/
theorem carriedQuad?_eq_some
    {groups : List UInt16}
    {a b c d : UInt8}
    (carries : carriedQuad? groups = some (a, b, c, d)) :
    groups = [0, 0, 0, 0, 0, 0xFFFF, groupOfOctets a b, groupOfOctets c d] := by
  unfold carriedQuad? at carries
  split at carries
  · simp only [Option.some.injEq, Prod.mk.injEq] at carries
    obtain ⟨rfl, rfl, rfl, rfl⟩ := carries
    rw [groupOfOctets_halves, groupOfOctets_halves]
  · cases carries

/-- What follows two colons supplies the last groups, and zeros stand before it. -/
theorem readGroupForm_colons
    {groups last : List UInt16}
    {before after : List Char}
    {endsInQuad : Bool}
    (short : groups.length < 8)
    (head : readGroups 8 true (before ++ ':' :: ':' :: after) =
      ⟨groups, false, ':' :: ':' :: after⟩)
    (tail : readGroups (7 - groups.length) true after = ⟨last, endsInQuad, []⟩) :
    readGroupForm (before ++ ':' :: ':' :: after) =
      (ofGroups? (groups
        ++ List.replicate (8 - groups.length - last.length) 0 ++ last)).map (·, []) := by
  have notAll : groups.length ≠ 8 := by omega
  simp [readGroupForm, head, tail, notAll]

/-- An address that carries four octets is read back from the form that shows them. -/
theorem readGroupForm_carried
    {groups : AddressGroups}
    {a b c d : UInt8}
    (carried : carriedQuad? groups.values = some (a, b, c, d)) :
    readGroupForm ("::ffff:".toList ++ quadChars a b c d) =
      some (.v6 groups, []) := by
  have quad := readQuad_append a b c d endsDigits_nil
  rw [List.append_nil] at quad
  have lastGroups :
      readGroups 6 false (':' :: quadChars a b c d) =
        ⟨[groupOfOctets a b, groupOfOctets c d], true, []⟩ := by
    simp [readGroups, afterSeparator?, quad]
  have tail :
      readGroups 7 true ('f' :: 'f' :: 'f' :: 'f' :: ':' :: quadChars a b c d) =
        ⟨[0xFFFF, groupOfOctets a b, groupOfOctets c d], true, []⟩ := by
    have noQuad : readQuad
        ('f' :: 'f' :: 'f' :: 'f' :: ':' :: quadChars a b c d) = none := rfl
    have first : readGroup ('f' :: 'f' :: 'f' :: 'f' :: ':' :: quadChars a b c d) =
        some (0xFFFF, ':' :: quadChars a b c d) := rfl
    rw [readGroups]
    simp [afterSeparator?, noQuad, first, lastGroups]
  have form := @readGroupForm_colons [] _ [] _ true (by decide) rfl tail
  have values_eq : groups.values =
      [] ++ List.replicate 5 0 ++ [0xFFFF, groupOfOctets a b, groupOfOctets c d] :=
    carriedQuad?_eq_some carried
  have chars_eq : "::ffff:".toList ++ quadChars a b c d =
      [] ++ ':' :: ':' :: 'f' :: 'f' :: 'f' :: 'f' :: ':' :: quadChars a b c d := rfl
  rw [chars_eq, form]
  show (ofGroups? ([] ++ List.replicate 5 0
    ++ [0xFFFF, groupOfOctets a b, groupOfOctets c d])).map _ = _
  rw [← values_eq, ofGroups?_values, Option.map_some]

/-- An address is read back with a run of zeros left out. The run has two groups at least. -/
theorem readGroupForm_compressed
    {groups : AddressGroups}
    {start length : Nat}
    (several : 1 < length)
    (within : start + length ≤ 8)
    (split_eq : groups.values =
      groups.values.take start ++ List.replicate length 0
        ++ groups.values.drop (start + length)) :
    readGroupForm (groupChars (groups.values.take start) ++ ':' :: ':'
      :: groupChars (groups.values.drop (start + length))) =
      some (.v6 groups, []) := by
  have length_eq := groups.length_eq
  have headLength : (groups.values.take start).length = start := by
    rw [List.length_take]
    omega
  have tailLength :
      (groups.values.drop (start + length)).length = 8 - (start + length) := by
    rw [List.length_drop, length_eq]
  have head : readGroups 8 true (groupChars (groups.values.take start) ++ ':' :: ':'
      :: groupChars (groups.values.drop (start + length))) =
      ⟨groups.values.take start, false,
        ':' :: ':' :: groupChars (groups.values.drop (start + length))⟩ :=
    readGroups_groupChars _ (by omega) (.inr ⟨_, rfl⟩)
      (by simp [point_not_mem_groupChars])
  have tail : readGroups (7 - (groups.values.take start).length) true
      (groupChars (groups.values.drop (start + length))) =
      ⟨groups.values.drop (start + length), false, []⟩ := by
    have whole := @readGroups_groupChars (groups.values.drop (start + length))
      (7 - (groups.values.take start).length) (by omega) [] (.inl rfl)
      List.not_mem_nil
    rwa [List.append_nil] at whole
  have zeros : 8 - (groups.values.take start).length
      - (groups.values.drop (start + length)).length = length := by
    omega
  rw [readGroupForm_colons (by omega) head tail, zeros, ← split_eq, ofGroups?_values,
    Option.map_some]

/-- An IPv6 address is read back from its characters. -/
theorem readGroupForm_groupFormChars (groups : AddressGroups) :
    readGroupForm (groupFormChars groups.values) = some (.v6 groups, []) := by
  have length_eq := groups.length_eq
  rw [groupFormChars]
  split
  · rename_i a b c d carried
    exact readGroupForm_carried carried
  · simp only
    split
    · rename_i several
      have within := longestZeroRun_le groups.values
      exact readGroupForm_compressed several (by omega)
        (longestZeroRun_split groups.values)
    · have whole := readGroups_groupChars groups.values
        (Nat.le_of_eq length_eq) (.inl rfl) List.not_mem_nil
      rw [List.append_nil] at whole
      simp [readGroupForm, whole, length_eq, ofGroups?_values]

/-- An address is read back from its text. -/
theorem ofText?_text (address : Address) : ofText? address.text = some address := by
  rw [ofText?, text, String.toList_ofList]
  cases address with
  | v4 a b c d =>
      have quad := readQuad_append a b c d endsDigits_nil
      rw [List.append_nil] at quad
      rw [read, chars, quad]
  | v6 groups =>
      have noQuad : readQuad (groupFormChars groups.values) = none := by
        unfold groupFormChars
        split
        · rfl
        · apply readQuad_eq_none
          simp only
          split
          · simp [point_not_mem_groupChars]
          · exact point_not_mem_groupChars _
      rw [read, chars, noQuad]
      simp [readGroupForm_groupFormChars]

end TenantStore.Address
