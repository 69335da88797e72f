import TenantStore.Proofs.Json.Compact
import TenantStore.Proofs.Json.Records
import TenantStore.TableEngine.Cells

namespace TenantStore

/-!
# Cells read back

What is written into a cell is kept as it is by a column of the right
affinity and is read back from it. The readers of `TableEngine.Cells` look at
one cell of a row, so they are stated here as functions of that cell.
-/

/-- A sequence succeeds if both of its parts do. -/
theorem Except.bind_eq_ok_iff {found : Except ε α} {next : α → Except ε β} {value : β} :
    (found >>= next) = .ok value ↔ ∃ middle, found = .ok middle ∧ next middle = .ok value := by
  cases found <;> simp [bind, Except.bind]

namespace Relational

/-! ## Affinities -/

/-- A text stays what it is in a column of texts. -/
@[simp] theorem Affinity.store_texts_text (value : String) :
    Affinity.texts.store (.text value) = .text value :=
  rfl

/-- Nothing stays nothing in a column of texts. -/
@[simp] theorem Affinity.store_texts_null : Affinity.texts.store .null = .null :=
  rfl

/-- A number stays what it is in a column of numbers. -/
@[simp] theorem Affinity.store_numbers_integer (value : Int) :
    Affinity.numbers.store (.integer value) = .integer value :=
  rfl

/-- A truth value stays what it is in a column of numbers. -/
@[simp] theorem Affinity.store_numbers_flag (value : Bool) :
    Affinity.numbers.store (.flag value) = .flag value :=
  rfl

namespace Cell

@[simp] theorem text?_text (value : String) : (Cell.text value).text? = some value :=
  rfl

@[simp] theorem integer?_integer (value : Int) :
    (Cell.integer value).integer? = some value :=
  rfl

/-- A truth value is read back from one or zero. -/
@[simp] theorem flag?_flag (value : Bool) : (Cell.flag value).flag? = some value := by
  cases value <;> rfl

@[simp] theorem isNull_text (value : String) : (Cell.text value).isNull = false :=
  rfl

@[simp] theorem isNull_integer (value : Int) : (Cell.integer value).isNull = false :=
  rfl

@[simp] theorem isNull_flag (value : Bool) : (Cell.flag value).isNull = false :=
  rfl

/-- Texts have the same value if they are equal. -/
@[simp] theorem sameValue_text (left right : String) :
    (Cell.text left).sameValue (.text right) = decide (left = right) := by
  simp [sameValue]

/-- A text is among the texts of some cells. -/
theorem any_sameValue_text (values : List String) (value : String) :
    (values.map text).any (fun cell => cell.sameValue (.text value)) =
      decide (value ∈ values) := by
  rw [Bool.eq_iff_iff]
  simp only [List.any_map, List.any_eq_true, Function.comp, sameValue_text,
    decide_eq_true_eq]
  constructor
  · rintro ⟨other, member, rfl⟩
    exact member
  · intro member
    exact ⟨value, member, rfl⟩

end Cell

end Relational

namespace TableEngine

open Relational (Cell Row Affinity)

/-! ## Writing -/

/-- A number of 32 bits stays what it is in a column of numbers. -/
@[simp] theorem store_shortCell (value : UInt32) :
    Affinity.numbers.store (shortCell value) = shortCell value :=
  rfl

@[simp] theorem isNull_shortCell (value : UInt32) : (shortCell value).isNull = false :=
  rfl

/-- A document stays what it is in a column of texts. -/
@[simp] theorem store_documentCell (json : Json) :
    Affinity.texts.store (documentCell json) = documentCell json :=
  rfl

/-- A number of 64 bits can be written if it fits a signed one. -/
theorem wideCell_eq_ok_iff {number : WideNumber} {value : UInt64} {cell : Cell} :
    wideCell number value = .ok cell ↔
      value.toNat < 0x8000000000000000 ∧ cell = .integer value.toNat := by
  rw [wideCell]
  split
  · rename_i fits
    rw [Except.ok.injEq, and_iff_right fits, eq_comm]
  · rename_i wide
    constructor
    · intro same
      cases same
    · intro both
      exact absurd both.1 wide

/-- A timestamp can be written if it fits a signed number of 64 bits. -/
theorem timeCell_eq_ok_iff {time : Timestamp} {cell : Cell} :
    timeCell time = .ok cell ↔
      time.millis.toNat < 0x8000000000000000 ∧ cell = .integer time.millis.toNat :=
  wideCell_eq_ok_iff

/-! ## Reading -/

/-- The natural number in a cell, below a bound. -/
def natIn (bound : Nat) (cell : Cell) : Option Nat :=
  match cell.integer? with
  | some (.ofNat value) => if value < bound then some value else none
  | _ => none

/-- The document in a cell. -/
def documentIn (read : Json → Option α) (default : α) : Cell → Option α
  | .null => some default
  | .text text => if text.isEmpty then some default else (Json.ofText? text).bind read
  | _ => none

section Readers

variable (row : Row) (column : String)

/-- A text is read from the cell of its column. -/
theorem readText_eq : readText row column = (row.cell column).text? :=
  rfl

/-- A document is read from the cell of its column. -/
theorem readDocument_eq (read : Json → Option α) (default : α) :
    readDocument read default row column =
      documentIn read default (row.cell column) := by
  unfold readDocument documentIn
  rfl

/-- A list of texts is read from the document in its column. -/
theorem readTexts_eq :
    readTexts row column = documentIn Json.texts? [] (row.cell column) :=
  readDocument_eq row column Json.texts? []

end Readers

/-- A number below the bound is read. -/
theorem natIn_integer {bound value : Nat} (small : value < bound) :
    natIn bound (.integer value) = some value := by
  show (if value < bound then some value else none) = _
  rw [if_pos small]

/-- A number of 32 bits is read back. -/
@[simp] theorem natIn_shortCell (value : UInt32) :
    natIn UInt32.size (shortCell value) = some value.toNat :=
  natIn_integer value.toNat_lt_size

/-- Nothing is read as the default. -/
theorem documentIn_null (read : Json → Option α) (default : α) :
    documentIn read default .null = some default :=
  rfl

/-- A plain document is read back from its cell if it is read back at all. -/
theorem documentIn_documentCell
    {read : Json → Option α}
    {default : α}
    {json : Json}
    (plain : json.IsPlain) :
    documentIn read default (documentCell json) = read json := by
  show (if json.compactText.isEmpty then _ else _) = _
  rw [Json.compactText_ne_empty plain, if_neg Bool.false_ne_true,
    Json.ofText?_compactText plain, Option.bind_some]

/-- A list of texts is read back. -/
@[simp] theorem documentIn_texts (values : List String) :
    documentIn Json.texts? [] (documentCell (.texts values)) = some values := by
  rw [documentIn_documentCell (Json.isPlain_texts values), Json.texts?_texts]

end TableEngine

end TenantStore
