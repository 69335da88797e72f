import TenantStore.Json

namespace TenantStore.Json

/-!
# Reading types from documents

A record is read from an object or from an array. In an object the fields may
stand in any order, fields that the record does not know are skipped, and a
known field may not be given twice; in an array they stand in the order of
their declaration, and missing ones at the end are as good as absent.
-/

/-- The fields of a record that a document gives. -/
structure Fields where
  given : List (String × Json)
  deriving Repr

/-- The members of an object under their keys, if every key is a text. -/
def namedMembers? :
    List (Option String × Json) →
    Option (List (String × Json))
  | [] => some []
  | (some key, value) :: rest => do
      let others ← namedMembers? rest
      some ((key, value) :: others)
  | (none, _) :: _ => none

/-- Whether no key stands twice. -/
def keysDistinct : List (String × Json) → Bool
  | [] => true
  | (name, _) :: rest =>
      rest.all (fun entry => entry.1 != name) && keysDistinct rest

/-- The fields with the given names, in the order of declaration. -/
def fields? (names : List String) : Json → Option Fields
  | .object members => do
      let named ← namedMembers? members
      let known := named.filter (fun entry => names.contains entry.1)
      if keysDistinct known then some ⟨known⟩ else none
  | .array items =>
      if items.length ≤ names.length then some ⟨names.zip items⟩ else none
  | _ => none

/-- Read a field that has a default. -/
def Fields.get
    (fields : Fields)
    (name : String)
    (read : Json → Option α)
    (default : α) :
    Option α :=
  match List.lookup name fields.given with
  | some json => read json
  | none => some default

/-- Read a field that must be given. -/
def Fields.require
    (fields : Fields)
    (name : String)
    (read : Json → Option α) :
    Option α :=
  (List.lookup name fields.given).bind read

/-! ## Plain values -/

/-- A text. -/
def text? : Json → Option String
  | .string text => text
  | _ => none

/-- A truth value. -/
def bool? : Json → Option Bool
  | .bool value => some value
  | _ => none

/-- An integer literal. -/
def int? : Json → Option Int
  | .number (.integer value) => some value
  | _ => none

/-- An integer from zero up to a bound, which is excluded. -/
def natBelow? (bound : Nat) (json : Json) : Option Nat :=
  match json.int? with
  | some (.ofNat value) => if value < bound then some value else none
  | _ => none

/-- A 64-bit natural number. -/
def uint64? (json : Json) : Option UInt64 :=
  (json.natBelow? UInt64.size).map UInt64.ofNat

/-- A 32-bit natural number. -/
def uint32? (json : Json) : Option UInt32 :=
  (json.natBelow? UInt32.size).map UInt32.ofNat

/-- A 16-bit natural number. -/
def uint16? (json : Json) : Option UInt16 :=
  (json.natBelow? UInt16.size).map UInt16.ofNat

/-- A 64-bit integer. -/
def int64? (json : Json) : Option Int64 :=
  match json.int? with
  | some value =>
      if -0x8000000000000000 ≤ value && value < 0x8000000000000000 then
        some (Int64.ofInt value)
      else
        none
  | none => none

/-- Read every item of a list. -/
def readAll? (read : Json → Option α) : List Json → Option (List α)
  | [] => some []
  | json :: rest => do
      let value ← read json
      let values ← readAll? read rest
      some (value :: values)

/-- A list. -/
def list? (read : Json → Option α) : Json → Option (List α)
  | .array items => readAll? read items
  | _ => none

/-- A list of texts. -/
def texts? : Json → Option (List String) :=
  list? text?

/-- Read the value of every member. -/
def readValues?
    (read : Json → Option α) :
    List (Option String × Json) →
    Option (List (String × α))
  | [] => some []
  | (none, _) :: _ => none
  | (some key, json) :: rest => do
      let value ← read json
      let values ← readValues? read rest
      some ((key, value) :: values)

/-- A dictionary; of equal keys the last one counts. -/
def dict? (read : Json → Option α) : Json → Option (Dict α)
  | .object members => (readValues? read members).map Dict.ofList
  | _ => none

/-- A value, or `null` for none. -/
def option? (read : Json → Option α) : Json → Option (Option α)
  | .null => some none
  | json => (read json).map some

/-- One of several named values: its name, or an object of its name and `null`. -/
def variant? (variants : List (String × α)) : Json → Option α
  | .string (some name) => List.lookup name variants
  | .object [(some name, .null)] => List.lookup name variants
  | _ => none

end TenantStore.Json
