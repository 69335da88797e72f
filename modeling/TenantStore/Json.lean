import TenantStore.Dict

namespace TenantStore

/-!
# JSON documents

A document as it stands on paper: members of an object keep their order and
may repeat a key, numbers keep the form in which they were written, and a
string literal whose escapes or bytes spell no text is kept as `none`. What a
document means for a type is decided where the type is read (`Json.Fields`).
-/

/-- A number as it was written. -/
inductive Numeral where
  /-- An integer without fraction and exponent. -/
  | integer (value : Int)
  /-- Any other spelling, such as `1.5`, `1e3` or `-0`. -/
  | decimal (spelling : String)
  deriving Repr, DecidableEq

/-- A JSON document. -/
inductive Json where
  | null
  | bool (value : Bool)
  | number (numeral : Numeral)
  | string (text : Option String)
  | array (items : List Json)
  | object (members : List (Option String × Json))
  deriving Repr

namespace Json

instance : Inhabited Json :=
  ⟨.null⟩

/-- A string literal that spells a text. -/
def text (value : String) : Json :=
  .string (some value)

/-- An integer. -/
def int (value : Int) : Json :=
  .number (.integer value)

/-- A natural number. -/
def nat (value : Nat) : Json :=
  .number (.integer value)

/-- An object with the given keys in the given order. -/
def record (members : List (String × Json)) : Json :=
  .object (members.map (fun entry => (some entry.1, entry.2)))

/-- A list of texts. -/
def texts (values : List String) : Json :=
  .array (values.map text)

/-- The object of a dictionary, in key order. -/
def ofDict (write : α → Json) (dict : Dict α) : Json :=
  record (dict.entries.map (fun entry => (entry.1, write entry.2)))

/-- `null` for an absent value. -/
def ofOption (write : α → Json) : Option α → Json
  | none => .null
  | some value => write value

end Json

end TenantStore
