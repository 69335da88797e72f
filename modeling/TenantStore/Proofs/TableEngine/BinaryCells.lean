import Mathlib.Algebra.Group.Nat.Defs
import Mathlib.Data.List.Basic
import TenantStore.Proofs.Documents
import TenantStore.Proofs.TableEngine.Cells
import TenantStore.TableEngine.Upkeep

namespace TenantStore.TableEngine

/-!
# What binary cells encode

The encodings of old databases, given by what they write: `textBytes` and
`textsBytes` for texts and lists of texts, and `AddressBytes` for addresses. A
decoder accepts exactly the bytes that begin with what the encoding writes for
some value, and gives that value (`Encoding.decode?_eq_some_iff`). The document
of the value is stored as it is by a column of any affinity
(`Encoding.store_documentCell`), and a row that holds it gives back the value
(`Encoding.read_eq_some`).
-/

open Relational (Cell Row Affinity)

namespace Binary

/-! ## Numbers -/

/-- The bytes of a number, the least first, as many as a width says. -/
def numberBytes : Nat → Nat → List UInt8
  | 0, _ => []
  | width + 1, value => UInt8.ofNat (value % 256) :: numberBytes width (value / 256)

@[simp] theorem length_numberBytes (width value : Nat) :
    (numberBytes width value).length = width := by
  induction width generalizing value with
  | zero => rfl
  | succ width inductionHypothesis =>
      rw [numberBytes, List.length_cons, inductionHypothesis]

/-- A number that fits is read back from its bytes. -/
theorem number_numberBytes {width value : Nat} (small : value < 256 ^ width) :
    number (numberBytes width value) = value := by
  induction width generalizing value with
  | zero =>
      have zero : value = 0 := by omega
      rw [zero]
      rfl
  | succ width inductionHypothesis =>
      have byte : (UInt8.ofNat (value % 256)).toNat = value % 256 :=
        UInt8.toNat_ofNat_of_lt' (Nat.mod_lt value (by decide))
      have quotient : value / 256 < 256 ^ width := by
        rw [Nat.pow_succ] at small
        omega
      rw [numberBytes, number, byte, inductionHypothesis quotient]
      omega

/-- A number has no more digits than there are bytes. -/
theorem number_lt (bytes : List UInt8) : number bytes < 256 ^ bytes.length := by
  induction bytes with
  | nil => decide
  | cons byte rest inductionHypothesis =>
      have small : byte.toNat < 256 := byte.toNat_lt
      rw [number, List.length_cons, Nat.pow_succ]
      omega

/-- Bytes are written again for the number that was read from them. -/
theorem numberBytes_number (bytes : List UInt8) :
    numberBytes bytes.length (number bytes) = bytes := by
  induction bytes with
  | nil => rfl
  | cons byte rest inductionHypothesis =>
      have small : byte.toNat < 256 := byte.toNat_lt
      have first : (byte.toNat + 256 * number rest) % 256 = byte.toNat := by omega
      have others : (byte.toNat + 256 * number rest) / 256 = number rest := by omega
      rw [List.length_cons, number, numberBytes, first, others, UInt8.ofNat_toNat,
        inductionHypothesis]

/-- A length is read where its eight bytes stand. -/
theorem readLength_eq_some_iff {bytes rest : List UInt8} {length : Nat} :
    readLength bytes = some (length, rest) ↔
      length < 256 ^ 8 ∧ bytes = numberBytes 8 length ++ rest := by
  rw [readLength]
  constructor
  · intro read
    split at read
    · rename_i enough
      have width : (bytes.take 8).length = 8 := by
        rw [List.length_take]
        omega
      simp only [Option.some.injEq, Prod.mk.injEq] at read
      obtain ⟨rfl, rfl⟩ := read
      have written := numberBytes_number (bytes.take 8)
      have small := number_lt (bytes.take 8)
      rw [width] at written small
      exact ⟨small, by rw [written, List.take_append_drop]⟩
    · cases read
  · rintro ⟨small, rfl⟩
    have width := length_numberBytes 8 length
    rw [if_pos (by rw [List.length_append]; omega), List.take_left' width,
      List.drop_left' width, number_numberBytes small]

/-! ## Texts -/

/-- The bytes of a text in UTF-8. -/
def utf8 (text : String) : List UInt8 :=
  text.toUTF8.data.toList

/-- The bytes that encode a text: its length and its bytes in UTF-8. -/
def textBytes (text : String) : List UInt8 :=
  numberBytes 8 (utf8 text).length ++ utf8 text

/-- The bytes that encode a list of texts: its length and its items. -/
def textsBytes (texts : List String) : List UInt8 :=
  numberBytes 8 texts.length ++ texts.flatMap textBytes

/-- The length of a text is a number of eight bytes. -/
def HasLength (text : String) : Prop :=
  (utf8 text).length < 256 ^ 8

instance (text : String) : Decidable (HasLength text) :=
  inferInstanceAs (Decidable (_ < _))

/-- Bytes are a text if they are what UTF-8 has for it. -/
theorem textOfBytes?_eq_some_iff {bytes : List UInt8} {text : String} :
    Text.textOfBytes? bytes = some text ↔ bytes = utf8 text := by
  rw [Text.textOfBytes?, String.fromUTF8?]
  constructor
  · intro decoded
    split at decoded
    · cases decoded
      rfl
    · cases decoded
  · rintro rfl
    exact dif_pos text.isValidUTF8

/-- A text is read where its length and its bytes stand. -/
theorem readText_eq_some_iff {bytes rest : List UInt8} {text : String} :
    readText bytes = some (text, rest) ↔
      HasLength text ∧ bytes = textBytes text ++ rest := by
  rw [readText]
  constructor
  · intro read
    obtain ⟨⟨length, behind⟩, lengthRead, textRead⟩ := Option.bind_eq_some_iff.mp read
    obtain ⟨small, rfl⟩ := readLength_eq_some_iff.mp lengthRead
    simp only at textRead
    split at textRead
    · rename_i enough
      obtain ⟨decoded, isText, same⟩ := Option.bind_eq_some_iff.mp textRead
      cases same
      have taken := textOfBytes?_eq_some_iff.mp isText
      have width : (utf8 text).length = length := by
        rw [← taken, List.length_take]
        omega
      rw [HasLength, textBytes, width]
      refine ⟨small, ?_⟩
      rw [List.append_assoc, ← taken, List.take_append_drop]
    · cases textRead
  · rintro ⟨small, rfl⟩
    have lengthRead : readLength (textBytes text ++ rest) =
        some ((utf8 text).length, utf8 text ++ rest) :=
      readLength_eq_some_iff.mpr ⟨small, by rw [textBytes, List.append_assoc]⟩
    have enough : (utf8 text).length ≤ (utf8 text ++ rest).length := by
      rw [List.length_append]
      omega
    simp only [lengthRead, Option.bind_eq_bind, Option.bind_some, if_pos enough,
      List.take_left, List.drop_left, textOfBytes?_eq_some_iff.mpr rfl]

/-- Texts are read one behind the other, as long as there is fuel for them. -/
theorem readItems_eq_some_iff
    {fuel count : Nat}
    {bytes rest : List UInt8}
    {items : List String} :
    readItems fuel count bytes = some (items, rest) ↔
      items.length = count ∧ count ≤ fuel ∧ (∀ item ∈ items, HasLength item) ∧
        bytes = items.flatMap textBytes ++ rest := by
  induction count generalizing fuel bytes items with
  | zero =>
      simp only [readItems, Option.some.injEq, Prod.mk.injEq, List.length_eq_zero_iff,
        Nat.zero_le, true_and]
      constructor
      · rintro ⟨rfl, rfl⟩
        exact ⟨rfl, List.forall_mem_nil _, rfl⟩
      · rintro ⟨rfl, _, rfl⟩
        exact ⟨rfl, rfl⟩
  | succ count inductionHypothesis =>
      cases fuel with
      | zero =>
          simp only [readItems]
          constructor
          · intro read
            cases read
          · rintro ⟨_, none, _⟩
            omega
      | succ fuel =>
          rw [readItems]
          constructor
          · intro read
            obtain ⟨⟨item, behind⟩, itemRead, others⟩ := Option.bind_eq_some_iff.mp read
            obtain ⟨⟨later, last⟩, laterRead, same⟩ := Option.bind_eq_some_iff.mp others
            cases same
            obtain ⟨itemHas, rfl⟩ := readText_eq_some_iff.mp itemRead
            obtain ⟨rfl, fueled, laterHave, rfl⟩ := inductionHypothesis.mp laterRead
            refine ⟨rfl, Nat.succ_le_succ fueled, List.forall_mem_cons.mpr ⟨itemHas, laterHave⟩,
              ?_⟩
            rw [List.flatMap_cons, List.append_assoc]
          · rintro ⟨length, fueled, have_lengths, rfl⟩
            cases items with
            | nil => cases length
            | cons item later =>
                obtain ⟨itemHas, laterHave⟩ := List.forall_mem_cons.mp have_lengths
                have itemRead : readText ((item :: later).flatMap textBytes ++ rest) =
                    some (item, later.flatMap textBytes ++ rest) :=
                  readText_eq_some_iff.mpr
                    ⟨itemHas, by rw [List.flatMap_cons, List.append_assoc]⟩
                have laterRead : readItems fuel count (later.flatMap textBytes ++ rest) =
                    some (later, rest) :=
                  inductionHypothesis.mpr ⟨Nat.succ.inj length, Nat.le_of_succ_le_succ fueled,
                    laterHave, rfl⟩
                simp only [itemRead, laterRead, Option.bind_eq_bind, Option.bind_some]

/-- A text is read from its length and its bytes, and what follows does not count. -/
theorem text?_eq_some_iff {bytes : List UInt8} {text : String} :
    text? bytes = some text ↔ HasLength text ∧ textBytes text <+: bytes := by
  simp only [text?, Option.map_eq_some_iff, Prod.exists, exists_and_right, exists_eq_right,
    readText_eq_some_iff, exists_and_left, List.IsPrefix, eq_comm (a := bytes)]

/-- Every text takes a byte at least, so the count of texts is bounded by the bytes. -/
theorem length_le_length_flatMap (texts : List String) :
    texts.length ≤ (texts.flatMap textBytes).length := by
  induction texts with
  | nil => exact Nat.le_refl 0
  | cons text rest inductionHypothesis =>
      rw [List.flatMap_cons, List.length_append, List.length_cons, textBytes,
        List.length_append, length_numberBytes]
      omega

/-- Texts are read from their number and one after another, and what follows does not count. -/
theorem texts?_eq_some_iff {bytes : List UInt8} {texts : List String} :
    texts? bytes = some texts ↔
      texts.length < 256 ^ 8 ∧ (∀ text ∈ texts, HasLength text) ∧
        textsBytes texts <+: bytes := by
  rw [texts?]
  constructor
  · intro read
    obtain ⟨⟨count, behind⟩, countRead, itemsRead⟩ := Option.bind_eq_some_iff.mp read
    obtain ⟨⟨items, rest⟩, run, rfl⟩ := Option.map_eq_some_iff.mp itemsRead
    obtain ⟨small, rfl⟩ := readLength_eq_some_iff.mp countRead
    obtain ⟨rfl, _, haveLengths, rfl⟩ := readItems_eq_some_iff.mp run
    exact ⟨small, haveLengths, rest, by rw [textsBytes, List.append_assoc]⟩
  · rintro ⟨small, haveLengths, rest, rfl⟩
    have countRead : readLength (textsBytes texts ++ rest) =
        some (texts.length, texts.flatMap textBytes ++ rest) :=
      readLength_eq_some_iff.mpr ⟨small, by rw [textsBytes, List.append_assoc]⟩
    -- The fuel suffices because no text is encoded by less than a byte.
    have fueled : texts.length ≤ (textsBytes texts ++ rest).length := by
      have fewer := length_le_length_flatMap texts
      rw [textsBytes, List.length_append, List.length_append]
      omega
    simp only [countRead, Option.bind_eq_bind, Option.bind_some,
      readItems_eq_some_iff.mpr ⟨rfl, fueled, haveLengths, rfl⟩, Option.map_some]

/-! ## Addresses -/

/-- The bytes of the groups of an IPv6 address. -/
def groupBytes (groups : List UInt16) : List UInt8 :=
  groups.flatMap (fun group =>
    [UInt8.ofNat (group.toNat / 256), UInt8.ofNat (group.toNat % 256)])

/-- What the sixteen bytes of an IPv6 address begin with if it carries an IPv4 address. -/
def carrierBytes : List UInt8 :=
  [0, 0, 0, 0, 0, 0, 0, 0, 0, 0, 0xFF, 0xFF]

/-- The bytes that encode an address, or none. -/
inductive AddressBytes : Option Address → List UInt8 → Prop where
  | absent : AddressBytes none []
  | quad (a b c d : UInt8) : AddressBytes (some (.v4 a b c d)) [a, b, c, d]
  | carried (a b c d : UInt8) :
      AddressBytes (some (.v4 a b c d)) (carrierBytes ++ [a, b, c, d])
  | groups (groups : AddressGroups) :
      ¬ carrierBytes <+: groupBytes groups.values →
        AddressBytes (some (.v6 groups)) (groupBytes groups.values)

/-- A group is its two octets side by side. -/
theorem toNat_groupOfOctets (high low : UInt8) :
    (Address.groupOfOctets high low).toNat = high.toNat * 256 + low.toNat := by
  have highSmall : high.toNat < 256 := high.toNat_lt
  have lowSmall : low.toNat < 256 := low.toNat_lt
  exact UInt16.toNat_ofNat_of_lt' (by show _ < 65536; omega)

theorem high_groupOfOctets (high low : UInt8) :
    UInt8.ofNat ((Address.groupOfOctets high low).toNat / 256) = high := by
  have lowSmall : low.toNat < 256 := low.toNat_lt
  have upper : (high.toNat * 256 + low.toNat) / 256 = high.toNat := by omega
  rw [toNat_groupOfOctets, upper, UInt8.ofNat_toNat]

theorem low_groupOfOctets (high low : UInt8) :
    UInt8.ofNat ((Address.groupOfOctets high low).toNat % 256) = low := by
  have lowSmall : low.toNat < 256 := low.toNat_lt
  have lower : (high.toNat * 256 + low.toNat) % 256 = low.toNat := by omega
  rw [toNat_groupOfOctets, lower, UInt8.ofNat_toNat]

/-- A group is written as its two octets. -/
theorem groupBytes_cons_groupOfOctets (high low : UInt8) (groups : List UInt16) :
    groupBytes (Address.groupOfOctets high low :: groups) =
      high :: low :: groupBytes groups := by
  rw [groupBytes, List.flatMap_cons, high_groupOfOctets, low_groupOfOctets]
  rfl

/-- Groups are read back from their bytes. -/
theorem groupsOfBytes_groupBytes (groups : List UInt16) :
    Address.groupsOfBytes (groupBytes groups) = groups := by
  induction groups with
  | nil => rfl
  | cons group rest inductionHypothesis =>
      have first : groupBytes (group :: rest) =
          UInt8.ofNat (group.toNat / 256) :: UInt8.ofNat (group.toNat % 256) ::
            groupBytes rest := rfl
      rw [first, Address.groupsOfBytes, Address.groupOfOctets_halves, inductionHypothesis]

@[simp] theorem length_groupBytes (groups : List UInt16) :
    (groupBytes groups).length = 2 * groups.length := by
  induction groups with
  | nil => rfl
  | cons group rest inductionHypothesis =>
      rw [groupBytes, List.flatMap_cons, ← groupBytes, List.length_append, inductionHypothesis,
        List.length_cons, List.length_cons, List.length_cons, List.length_nil]
      omega

/-- An even number of bytes is what some groups are written as. -/
theorem exists_groupBytes_eq {count : Nat} {bytes : List UInt8}
    (even : bytes.length = 2 * count) :
    ∃ groups, groups.length = count ∧ groupBytes groups = bytes := by
  induction count generalizing bytes with
  | zero => exact ⟨[], rfl, (List.length_eq_zero_iff.mp even).symm⟩
  | succ count inductionHypothesis =>
      match bytes, even with
      | high :: low :: rest, even =>
          have restEven : rest.length = 2 * count := by
            simp only [List.length_cons] at even
            omega
          obtain ⟨groups, length, rfl⟩ := inductionHypothesis restEven
          exact ⟨Address.groupOfOctets high low :: groups, congrArg Nat.succ length,
            groupBytes_cons_groupOfOctets high low groups⟩

/-- Bytes that begin as those of a carried IPv4 address are those of one. -/
theorem carriedQuad?_of_prefix
    (groups : AddressGroups)
    (carries : carrierBytes <+: groupBytes groups.values) :
    ∃ quad, Address.carriedQuad? groups.values = some quad := by
  obtain ⟨tail, same⟩ := carries
  have values : groups.values = [0, 0, 0, 0, 0, 0xFFFF] ++ Address.groupsOfBytes tail := by
    rw [← groupsOfBytes_groupBytes groups.values, ← same]
    rfl
  have length : (Address.groupsOfBytes tail).length = 2 := by
    have eight := groups.length_eq
    rw [values, List.length_append] at eight
    exact Nat.add_left_cancel eight
  obtain ⟨high, low, pair⟩ := List.length_eq_two.mp length
  rw [values, pair]
  exact ⟨_, rfl⟩

/-- An address that carries four octets begins with twelve known bytes. -/
theorem groupBytes_carrier (a b c d : UInt8) :
    groupBytes [0, 0, 0, 0, 0, 0xFFFF, Address.groupOfOctets a b, Address.groupOfOctets c d] =
      carrierBytes ++ [a, b, c, d] := by
  show carrierBytes ++ groupBytes [Address.groupOfOctets a b, Address.groupOfOctets c d] = _
  rw [groupBytes_cons_groupOfOctets, groupBytes_cons_groupOfOctets]
  rfl

/-- Sixteen bytes encode the address that their groups stand for. -/
theorem addressBytes_ofGroupsUnmapped?
    {groups : AddressGroups}
    {address : Address}
    (unmapped : Address.ofGroupsUnmapped? groups.values = some address) :
    AddressBytes (some address) (groupBytes groups.values) := by
  rw [Address.ofGroupsUnmapped?] at unmapped
  split at unmapped
  · rename_i a b c d carries
    cases unmapped
    rw [Address.carriedQuad?_eq_some carries, groupBytes_carrier]
    exact .carried a b c d
  · rename_i plain
    rw [Address.ofGroups?_values] at unmapped
    cases unmapped
    refine .groups groups (fun carries => ?_)
    obtain ⟨quad, carried⟩ := carriedQuad?_of_prefix groups carries
    rw [carried] at plain
    cases plain

/-- Sixteen bytes are eight groups, or four octets if they carry these. -/
theorem address?_of_length {bytes : List UInt8} (length : bytes.length = 16) :
    address? bytes =
      (Address.ofGroupsUnmapped? (Address.groupsOfBytes bytes)).map some := by
  unfold address?
  split
  · cases length
  · cases length
  · rw [if_pos length]

/-- The decoder of addresses knows exactly the bytes that encode one, or none. -/
theorem address?_eq_some_iff {bytes : List UInt8} {address : Option Address} :
    address? bytes = some address ↔ AddressBytes address bytes := by
  constructor
  · intro decoded
    unfold address? at decoded
    split at decoded
    · cases decoded
      exact .absent
    · cases decoded
      exact .quad ..
    · split at decoded
      · rename_i length
        obtain ⟨values, count, rfl⟩ := @exists_groupBytes_eq 8 _ length
        rw [groupsOfBytes_groupBytes] at decoded
        obtain ⟨known, unmapped, rfl⟩ := Option.map_eq_some_iff.mp decoded
        exact @addressBytes_ofGroupsUnmapped? ⟨values, count⟩ known unmapped
      · cases decoded
  · intro encoded
    cases encoded with
    | absent => rfl
    | quad => rfl
    | carried a b c d =>
        have carries : Address.carriedQuad? (Address.groupsOfBytes (carrierBytes ++
            [a, b, c, d])) = some (a, b, c, d) := by
          show some (_, _, _, _) = _
          rw [high_groupOfOctets, low_groupOfOctets, high_groupOfOctets, low_groupOfOctets]
        rw [address?_of_length rfl, Address.ofGroupsUnmapped?, carries]
        rfl
    | groups groups plain =>
        have length : (groupBytes groups.values).length = 16 := by
          rw [length_groupBytes, groups.length_eq]
        have none : Address.carriedQuad? groups.values = none := by
          cases carried : Address.carriedQuad? groups.values with
          | none => rfl
          | some quad =>
              obtain ⟨a, b, c, d⟩ := quad
              rw [Address.carriedQuad?_eq_some carried, groupBytes_carrier] at plain
              exact absurd ⟨_, rfl⟩ plain
        rw [address?_of_length length, groupsOfBytes_groupBytes, Address.ofGroupsUnmapped?,
          none]
        simp only [Address.ofGroups?_values, Option.map_some]

end Binary

/-! ## Encodings -/

/-- What a binary cell encodes: a text, a list of texts, or an address if any. -/
inductive Encoding where
  | text
  | texts
  | address
  deriving DecidableEq

namespace Encoding

/-- The values that an encoding has bytes for. -/
abbrev Value : Encoding → Type
  | text => String
  | texts => List String
  | address => Option Address

/-- Bytes that encode a value. Behind a text or a list of texts anything may stand. -/
def Encodes : (encoding : Encoding) → encoding.Value → List UInt8 → Prop
  | text, (value : String), bytes =>
      Binary.HasLength value ∧ Binary.textBytes value <+: bytes
  | texts, (values : List String), bytes =>
      values.length < 256 ^ 8 ∧ (∀ value ∈ values, Binary.HasLength value) ∧
        Binary.textsBytes values <+: bytes
  | address, (value : Option Address), bytes => Binary.AddressBytes value bytes

/-- The value that a row holds in a column of documents. -/
def read : (encoding : Encoding) → Row → String → Option encoding.Value
  | text => readDocument Json.text? ""
  | texts => readTexts
  | address => readDocument (Json.option? Address.ofJson?) none

/-- The document of a value. -/
def document : (encoding : Encoding) → encoding.Value → Json
  | text, (value : String) => .text value
  | texts, (values : List String) => .texts values
  | address, (value : Option Address) => .ofOption Address.toJson value

/-- The value that some bytes encode. -/
def decode? : (encoding : Encoding) → List UInt8 → Option encoding.Value
  | text => Binary.text?
  | texts => Binary.texts?
  | address => Binary.address?

/-- A decoder knows exactly the bytes that encode a value, and gives that value. -/
theorem decode?_eq_some_iff
    {encoding : Encoding}
    {bytes : List UInt8}
    {value : encoding.Value} :
    encoding.decode? bytes = some value ↔ encoding.Encodes value bytes := by
  cases encoding with
  | text => exact Binary.text?_eq_some_iff
  | texts => exact Binary.texts?_eq_some_iff
  | address => exact Binary.address?_eq_some_iff

/-- Whether a cell is not binary or encodes a value. -/
def knows (encoding : Encoding) : Cell → Bool
  | .blob bytes => (encoding.decode? bytes).isSome
  | _ => true

/-- A cell is known unless it holds bytes that nothing is written as. -/
theorem knows_iff {encoding : Encoding} {cell : Cell} :
    encoding.knows cell = true ↔
      ∀ bytes, cell = .blob bytes → ∃ value, encoding.Encodes value bytes := by
  cases cell with
  | blob bytes =>
      simp only [knows, Option.isSome_iff_exists, decode?_eq_some_iff, Cell.blob.injEq,
        forall_eq']
  | _ => simp [knows]

/-- What bytes are decoded to is a plain document. -/
theorem isPlain_document (encoding : Encoding) (value : encoding.Value) :
    (encoding.document value).IsPlain := by
  cases encoding with
  | text => exact Json.isPlain_text _
  | texts => exact Json.isPlain_texts _
  | address => exact Json.isPlain_ofOption Address.isPlain_toJson _

/-- A row that holds the document of a value gives back the value. -/
theorem read_eq_some
    (encoding : Encoding)
    (value : encoding.Value)
    {row : Row}
    {column : String}
    (holds : row.cell column = documentCell (encoding.document value)) :
    encoding.read row column = some value := by
  have plain := isPlain_document encoding value
  cases encoding with
  | text =>
      rw [read, readDocument_eq, holds, documentIn_documentCell plain]
      rfl
  | texts =>
      rw [read, readTexts_eq, holds]
      exact documentIn_texts _
  | address =>
      rw [read, readDocument_eq, holds, documentIn_documentCell plain]
      exact Json.option?_ofOption Address.ofJson?_toJson Address.toJson_ne_null _

/-! ## Documents in columns of numbers -/

/-- A text that begins like a document of an encoding spells no integer. -/
theorem integerOfText?_eq_none
    {text : String}
    {first : Char}
    {rest : List Char}
    (chars : text.toList = first :: rest)
    (begins : first = '"' ∨ first = '[' ∨ first = 'n') :
    Relational.integerOfText? text = none := by
  have noGap : Relational.isDigitGap first = false := by
    rcases begins with rfl | rfl | rfl <;> rfl
  have trimmed : ∃ kept, Relational.trimDigits (first :: rest) = first :: kept := by
    rw [Relational.trimDigits, List.dropWhile_cons_of_neg (by rw [noGap]; decide),
      List.reverse_cons, List.dropWhile_append]
    split
    · exact ⟨[], by rw [List.dropWhile_cons_of_neg (by rw [noGap]; decide)]; rfl⟩
    · exact ⟨_, by rw [List.reverse_append]; rfl⟩
  obtain ⟨kept, trimmed_eq⟩ := trimmed
  simp only [Relational.integerOfText?, chars, trimmed_eq]
  rcases begins with rfl | rfl | rfl <;> rfl

/-- What the document of a value begins with. -/
theorem compactText_begins (encoding : Encoding) (value : encoding.Value) :
    ∃ first rest, (encoding.document value).compactText.toList = first :: rest ∧
      (first = '"' ∨ first = '[' ∨ first = 'n') := by
  simp only [Json.compactText, String.toList_ofList]
  cases encoding with
  | text => exact ⟨'"', _, rfl, by decide⟩
  | texts => exact ⟨'[', _, rfl, by decide⟩
  | address =>
      cases (value : Option Address) with
      | none => exact ⟨'n', _, rfl, by decide⟩
      | some address => exact ⟨'"', _, rfl, by decide⟩

/-- A column of any affinity stores the document of a value as it is. -/
theorem store_documentCell
    (affinity : Affinity)
    (encoding : Encoding)
    (value : encoding.Value) :
    affinity.store (documentCell (encoding.document value)) =
      documentCell (encoding.document value) := by
  cases affinity with
  | free => rfl
  | texts => rfl
  | numbers =>
      obtain ⟨first, rest, chars, begins⟩ := compactText_begins encoding value
      simp only [Affinity.store, documentCell, integerOfText?_eq_none chars begins]

end Encoding

end TenantStore.TableEngine
