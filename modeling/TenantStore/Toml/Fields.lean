import TenantStore.Toml

namespace TenantStore.Toml

/-!
# Reading types from configuration documents

A record is read from a table, in which other keys are skipped, or from an
array, in which the fields stand in the order of their declaration.
-/

/-- The fields of a record that a value gives. -/
def fields? (names : List String) : Toml → Option Entries
  | .table _ entries => some entries
  | .tables items => some (names.zip (items.map (.table .header)))
  | .array items => some (names.zip items)
  | _ => none

/-- Read a field, or take its default. -/
def get
    (entries : Entries)
    (name : String)
    (read : Toml → Option α)
    (default : α) :
    Option α :=
  match entries.lookup name with
  | some value => read value
  | none => some default

/-- A text. -/
def text? : Toml → Option String
  | .text value => some value
  | _ => none

/-- A truth value. -/
def bool? : Toml → Option Bool
  | .bool value => some value
  | _ => none

/-- A natural number. -/
def nat? : Toml → Option Nat
  | .integer (.ofNat value) => some value
  | _ => none

/-- Whether a value holds nothing. -/
def isEmpty : Toml → Bool
  | .table _ entries => entries.isEmpty
  | .array items => items.isEmpty
  | .tables items => items.isEmpty
  | _ => false

/-- One of several named values: its name, or a table of its name alone. -/
def variant? (variants : List (String × α)) : Toml → Option α
  | .text name => variants.lookup name
  | .table _ [(name, value)] =>
      if value.isEmpty then variants.lookup name else none
  | _ => none

end TenantStore.Toml
