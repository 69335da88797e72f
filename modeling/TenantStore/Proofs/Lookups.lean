import Mathlib.Data.List.TakeWhile
import TenantStore.Lookup
import TenantStore.Proofs.Accounts

namespace TenantStore

/-!
# Keys and their holders

An index knows the keys of an account in comparable form, and a lookup checks
what it is given against the account itself. `Lookup.Names` says what it means
for a key to name something of an account. For ASCII keys the check, the
comparable form and this meaning agree.
-/

/-! ## Letter case -/

namespace Text

theorem toNat_toLower (char : Char) :
    char.toLower.toNat =
      if 65 ≤ char.toNat ∧ char.toNat ≤ 90 then char.toNat + 32
      else char.toNat := by
  change (if upper : 65 ≤ char.val ∧ char.val ≤ 90 then
    Char.mk (char.val + 32) _ else char).toNat = _
  simp only [UInt32.le_iff_toNat_le]
  split
  · rename_i upper
    have bounds : 65 ≤ char.toNat ∧ char.toNat ≤ 90 := by simpa using upper
    rw [if_pos bounds]
    show (char.val + 32).toNat = _
    rw [UInt32.toNat_add, Char.toNat_val]
    have offset : (32 : UInt32).toNat = 32 := rfl
    omega
  · rename_i other
    rw [if_neg (by simpa using other)]

theorem toNat_toUpper (char : Char) :
    char.toUpper.toNat =
      if 97 ≤ char.toNat ∧ char.toNat ≤ 122 then char.toNat - 32
      else char.toNat := by
  change (if lower : 97 ≤ char.val ∧ char.val ≤ 122 then
    Char.mk (char.val + 4294967264) _ else char).toNat = _
  simp only [UInt32.le_iff_toNat_le]
  split
  · rename_i lower
    have bounds : 97 ≤ char.toNat ∧ char.toNat ≤ 122 := by simpa using lower
    rw [if_pos bounds]
    show (char.val + 4294967264).toNat = _
    rw [UInt32.toNat_add, Char.toNat_val]
    have offset : (4294967264 : UInt32).toNat = 4294967264 := rfl
    omega
  · rename_i other
    rw [if_neg (by simpa using other)]

/-- Characters agree in upper case exactly when they do in lower case. -/
theorem toUpper_eq_iff {left right : Char} :
    left.toUpper = right.toUpper ↔ left.toLower = right.toLower := by
  rw [← Char.toNat_inj, ← Char.toNat_inj, toNat_toUpper, toNat_toUpper,
    toNat_toLower, toNat_toLower]
  grind

theorem map_toUpper_eq_iff {left right : List Char} :
    left.map Char.toUpper = right.map Char.toUpper ↔
      left.map Char.toLower = right.map Char.toLower := by
  induction left generalizing right with
  | nil => simp
  | cons head tail inductionHypothesis =>
      cases right with
      | nil => simp
      | cons other rest =>
          simp only [List.map_cons, List.cons.injEq, toUpper_eq_iff,
            inductionHypothesis]

theorem equalIgnoringCase_iff_upperCase
    {left right : String}
    (leftAscii : isAscii left = true)
    (rightAscii : isAscii right = true) :
    equalIgnoringCase left right = true ↔ upperCase left = upperCase right := by
  rw [upperCase_of_isAscii leftAscii, upperCase_of_isAscii rightAscii,
    String.ofList_inj, map_toUpper_eq_iff, equalIgnoringCase, decide_eq_true_iff]

theorem equalIgnoringCase_iff_lowerCase
    {left right : String}
    (leftAscii : isAscii left = true)
    (rightAscii : isAscii right = true) :
    equalIgnoringCase left right = true ↔ lowerCase left = lowerCase right := by
  rw [lowerCase_of_isAscii leftAscii, lowerCase_of_isAscii rightAscii,
    lowerAscii, lowerAscii, String.ofList_inj, equalIgnoringCase,
    decide_eq_true_iff]

/-- What equals an ASCII text but for letter case is ASCII. -/
theorem isAscii_of_equalIgnoringCase
    {left right : String}
    (same : equalIgnoringCase left right = true)
    (ascii : isAscii left = true) :
    isAscii right = true := by
  rw [equalIgnoringCase, decide_eq_true_iff] at same
  rw [isAscii, List.all_eq_true] at ascii ⊢
  intro char member
  have lowered : char.toLower ∈ left.toList.map Char.toLower :=
    same ▸ List.mem_map_of_mem member
  obtain ⟨original, originalMember, sameLower⟩ := List.mem_map.mp lowered
  have small := ascii original originalMember
  have codes := congrArg Char.toNat sameLower
  rw [toNat_toLower, toNat_toLower] at codes
  simp only [decide_eq_true_eq] at small ⊢
  grind

/-! ## Comparison by a database -/

/-- A text without a NUL. -/
def HasNoNul (text : String) : Prop :=
  '\x00' ∉ text.toList

instance (text : String) : Decidable (HasNoNul text) :=
  inferInstanceAs (Decidable (¬_))

/-- An ASCII text has one byte for each character. -/
theorem utf8ByteSize_of_isAscii {text : String} (ascii : isAscii text = true) :
    text.utf8ByteSize = text.toList.length := by
  have chars : ∀ chars : List Char, chars.all (fun char => char.toNat < 128) = true →
      (String.ofList chars).utf8ByteSize = chars.length := by
    intro chars small
    induction chars with
    | nil => rfl
    | cons head tail inductionHypothesis =>
        rw [List.all_cons, Bool.and_eq_true, decide_eq_true_eq] at small
        have one : head.utf8Size = 1 := by
          rw [Char.utf8Size_eq_one_iff, UInt32.le_iff_toNat_le]
          exact Nat.le_of_lt_succ small.1
        have single : (String.ofList [head]).utf8ByteSize = head.utf8Size :=
          String.utf8ByteSize_singleton
        rw [← List.singleton_append, String.ofList_append, String.utf8ByteSize_append,
          inductionHypothesis small.2, single, one, List.length_append,
          List.length_singleton]
  have whole := chars text.toList ascii
  rwa [String.ofList_toList] at whole

theorem foldedHead_of_hasNoNul {text : String} (noNul : HasNoNul text) :
    foldedHead text = text.toList.map Char.toLower := by
  have whole : text.toList.takeWhile (· != '\x00') = text.toList := by
    rw [List.takeWhile_eq_self_iff]
    intro char member
    rw [bne_iff_ne]
    exact fun same => noNul (same ▸ member)
  rw [foldedHead, whole]

/-- Without NULs a database compares ASCII texts as the accounts do. -/
theorem equalNoCase_eq_equalIgnoringCase
    {left right : String}
    (leftAscii : isAscii left = true)
    (rightAscii : isAscii right = true)
    (leftNoNul : HasNoNul left)
    (rightNoNul : HasNoNul right) :
    equalNoCase left right = equalIgnoringCase left right := by
  rw [equalNoCase, equalIgnoringCase, foldedHead_of_hasNoNul leftNoNul,
    foldedHead_of_hasNoNul rightNoNul, utf8ByteSize_of_isAscii leftAscii,
    utf8ByteSize_of_isAscii rightAscii]
  by_cases same : left.toList.map Char.toLower = right.toList.map Char.toLower
  · have lengths := congrArg List.length same
    rw [List.length_map, List.length_map] at lengths
    simp [same, lengths]
  · simp [same]

end Text

/-! ## Holders -/

/-- The setup keys and the domain of an account are ASCII. -/
def Account.HasAsciiKeys (account : Account) : Prop :=
  (∀ stored ∈ account.setupKeys.values, Text.isAscii stored.key = true) ∧
    Text.isAscii account.domain = true

instance (account : Account) : Decidable account.HasAsciiKeys :=
  inferInstanceAs (Decidable (_ ∧ _))

namespace Lookup

/-- Whether keys of a kind are compared without regard to letter case. -/
def ignoresCase : Lookup → Bool
  | .setupKey => true
  | .peerKey => false
  | .peerId => false
  | .user => false
  | .privateDomain => true

/-- A key names something of an account. Peers cannot be named by empty keys. -/
def Names : Lookup → Account → String → Prop
  | .setupKey, account, key =>
      ∃ stored ∈ account.setupKeys.values,
        Text.equalIgnoringCase stored.key key = true
  | .peerKey, account, key =>
      key ≠ "" ∧ ∃ peer ∈ account.peers.values, peer.key = key
  | .peerId, account, key => key ≠ "" ∧ key ∈ account.peers.values.map Peer.id
  | .user, account, key => key ∈ account.users.values.map User.id
  | .privateDomain, account, key =>
      account.ownsPrivateDomain = true ∧
        Text.equalIgnoringCase account.domain key = true

instance (lookup : Lookup) (account : Account) (key : String) :
    Decidable (lookup.Names account key) :=
  match lookup with
  | .setupKey => inferInstanceAs (Decidable (∃ stored ∈ account.setupKeys.values, _))
  | .peerKey => inferInstanceAs (Decidable (_ ∧ ∃ peer ∈ account.peers.values, _))
  | .peerId => inferInstanceAs (Decidable (_ ∧ _ ∈ _))
  | .user => inferInstanceAs (Decidable (_ ∈ _))
  | .privateDomain => inferInstanceAs (Decidable (_ ∧ _))

/-- An account gives up every key that it is found by. -/
theorem mem_keysReleased
    {lookup : Lookup}
    {account : Account}
    {key : String}
    (found : key ∈ lookup.keysOf account) :
    key ∈ lookup.keysReleased account := by
  cases lookup with
  | privateDomain =>
      simp only [keysOf] at found
      split at found
      · rename_i owns
        have named : account.domain.isEmpty = false := by
          simp only [Account.ownsPrivateDomain, Bool.and_eq_true,
            Bool.not_eq_true'] at owns
          exact owns.2
        simpa [keysReleased, named] using found
      · cases found
  | setupKey => exact found
  | peerKey => exact found
  | peerId => exact found
  | user => exact found

/-- A key names something of an account exactly when it is in its index. -/
theorem names_iff_mem_keysOf
    {lookup : Lookup}
    {account : Account}
    {key : String}
    (ascii : lookup.ignoresCase = true →
      account.HasAsciiKeys ∧ Text.isAscii key = true) :
    lookup.Names account key ↔ lookup.normalize key ∈ lookup.keysOf account := by
  cases lookup with
  | setupKey =>
      obtain ⟨⟨setupKeys, _⟩, keyAscii⟩ := ascii rfl
      simp only [Names, normalize, keysOf, List.mem_map]
      constructor
      · rintro ⟨stored, member, same⟩
        exact ⟨stored, member, (Text.equalIgnoringCase_iff_upperCase
          (setupKeys stored member) keyAscii).mp same⟩
      · rintro ⟨stored, member, same⟩
        exact ⟨stored, member, (Text.equalIgnoringCase_iff_upperCase
          (setupKeys stored member) keyAscii).mpr same⟩
  | privateDomain =>
      obtain ⟨⟨_, domain⟩, keyAscii⟩ := ascii rfl
      simp only [Names, normalize, keysOf,
        Text.equalIgnoringCase_iff_lowerCase domain keyAscii]
      cases account.ownsPrivateDomain
      · simp
      · simp [eq_comm]
  | peerKey =>
      simp [Names, normalize, keysOf, and_comm]
  | peerId =>
      simp [Names, normalize, keysOf, and_comm]
  | user => rfl

/-- A key that names something of an account with ASCII keys is ASCII itself. -/
theorem Names.isAscii
    {lookup : Lookup}
    {account : Account}
    {key : String}
    (names : lookup.Names account key)
    (ignores : lookup.ignoresCase = true)
    (ascii : account.HasAsciiKeys) :
    Text.isAscii key = true := by
  cases lookup with
  | setupKey =>
      obtain ⟨stored, member, same⟩ := names
      exact Text.isAscii_of_equalIgnoringCase same (ascii.1 stored member)
  | privateDomain => exact Text.isAscii_of_equalIgnoringCase names.2 ascii.2
  | peerKey => cases ignores
  | peerId => cases ignores
  | user => cases ignores

/-- What a key names is held by the account. -/
theorem Names.holds
    {lookup : Lookup}
    {account : Account}
    (normal : account.IsNormal)
    {key : String}
    (names : lookup.Names account key) :
    lookup.holds account key = true := by
  cases lookup with
  | setupKey =>
      obtain ⟨stored, member, same⟩ := names
      obtain ⟨slot, found⟩ := Dict.mem_values_iff.mp member
      exact Dict.find?_isSome_iff.mpr ⟨slot, stored, found, same⟩
  | peerKey =>
      obtain ⟨_, peer, member, same⟩ := names
      obtain ⟨slot, found⟩ := Dict.mem_values_iff.mp member
      exact Dict.find?_isSome_iff.mpr ⟨slot, peer, found, by simpa using same⟩
  | peerId =>
      obtain ⟨peer, member, same⟩ := List.mem_map.mp names.2
      obtain ⟨slot, found⟩ := Dict.mem_values_iff.mp member
      refine Dict.contains_iff.mpr ⟨peer, ?_⟩
      rw [← same, normal.peer_id found, found]
  | user =>
      obtain ⟨user, member, same⟩ := List.mem_map.mp names
      obtain ⟨slot, found⟩ := Dict.mem_values_iff.mp member
      refine Dict.contains_iff.mpr ⟨user, ?_⟩
      rw [← same, normal.user_id found, found]
  | privateDomain =>
      simp only [Lookup.holds, Bool.and_eq_true]
      exact names

end Lookup

end TenantStore
