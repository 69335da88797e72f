namespace TenantStore

/-!
# Configuration documents

A document in TOML is a table of keyed values. Tables remember how they came
into being, because that decides whether later lines may add to them:
`Toml.addSection` puts the lines under one header into a document, and refuses
what would define a key twice.
-/

/-- How a table came into being. -/
inductive TableOrigin where
  /-- Written between braces, and complete with that. -/
  | inline
  /-- By a header of its own. -/
  | header
  /-- By the header of a table inside it. -/
  | implied
  /-- By a key with dots. -/
  | dotted
  deriving Repr, DecidableEq

/-- Whether keys with dots may add to a table. -/
def TableOrigin.isOpen : TableOrigin → Bool
  | .implied => true
  | .dotted => true
  | _ => false

/-- A value of a document. -/
inductive Toml where
  | text (value : String)
  | integer (value : Int)
  /-- A number with a fraction or an exponent, as it was written. -/
  | decimal (spelling : String)
  | bool (value : Bool)
  /-- A date, a time of day or both, as it was written. -/
  | moment (spelling : String)
  | array (items : List Toml)
  /-- Tables under the same header in double brackets. -/
  | tables (items : List (List (String × Toml)))
  | table (origin : TableOrigin) (entries : List (String × Toml))
  deriving Repr

namespace Toml

instance : Inhabited Toml :=
  ⟨.bool false⟩

/-- What a table holds. -/
abbrev Entries := List (String × Toml)

/-- Put a value under a key, in place of what is there. -/
def setEntry (key : String) (value : Toml) : Entries → Entries
  | [] => [(key, value)]
  | entry :: rest =>
      if entry.1 = key then
        (key, value) :: rest
      else
        entry :: setEntry key value rest

/-- Put a value under a key that is not there yet. -/
def addEntry (key : String) (value : Toml) (entries : Entries) : Option Entries :=
  match entries.lookup key with
  | some _ => none
  | none => some (entries ++ [(key, value)])

/-! ## Changing a table inside a document -/

/-- How to go down to a table inside another one. -/
structure Descent where
  /-- How tables come into being that are missing on the way. -/
  creates : TableOrigin
  /-- Whether a table may be entered. -/
  enters : TableOrigin → Bool

/-- Headers go through any table that is not complete. -/
def byHeader : Descent where
  creates := .implied
  enters := fun origin => origin != .inline

/-- Keys with dots go through tables that such keys may add to. -/
def byDots : Descent where
  creates := .dotted
  enters := TableOrigin.isOpen

/-- Change the last item of a list. -/
def changeLast (change : α → Option α) : List α → Option (List α)
  | [] => none
  | [last] => (change last).map (fun changed => [changed])
  | first :: rest => (changeLast change rest).map (first :: ·)

/--
Change the table under a path. Of tables under one header in double brackets
the last one is meant.
-/
def changeAt
    (descent : Descent)
    (change : TableOrigin → Entries → Option Entries)
    (origin : TableOrigin)
    (entries : Entries) :
    List String →
    Option Entries
  | [] => change origin entries
  | key :: path =>
      match entries.lookup key with
      | none => do
          let created ← changeAt descent change descent.creates [] path
          some (setEntry key (.table descent.creates created) entries)
      | some (.table inner found) =>
          if descent.enters inner then do
            let changed ← changeAt descent change inner found path
            some (setEntry key (.table inner changed) entries)
          else
            none
      | some (.tables items) => do
          let changed ←
            changeLast
              (fun last => changeAt descent change .header last path) items
          some (setEntry key (.tables changed) entries)
      | some _ => none

/-! ## Lines -/

/-- A line that gives a value to a key, which may have dots. -/
structure Line where
  /-- The parts of the key before the last dot. -/
  path : List String
  key : String
  value : Toml

/-- Add a line to a table. -/
def addLine (origin : TableOrigin) (entries : Entries) (line : Line) :
    Option Entries :=
  changeAt byDots
    (fun reached entries =>
      if line.path.isEmpty || reached = .dotted then
        addEntry line.key line.value entries
      else
        none)
    origin entries line.path

/-- Add lines to a table. -/
def addLines (origin : TableOrigin) (entries : Entries) (lines : List Line) :
    Option Entries :=
  lines.foldlM (addLine origin) entries

/-- The table of some lines between braces. -/
def ofLines? (lines : List Line) : Option Toml :=
  (addLines .inline [] lines).map (.table .inline)

/-! ## Headers -/

/-- A header: the parts of its key before the last dot, and the last part. -/
structure Header where
  path : List String
  key : String
  /-- Whether it stands in double brackets. -/
  repeats : Bool

/-- Open the table of a header in single brackets, and add lines to it. -/
def openTable (key : String) (lines : List Line) (entries : Entries) :
    Option Entries := do
  let start ←
    match entries.lookup key with
    | none => some []
    | some (.table .implied found) => some found
    | some _ => none
  let table ← addLines .header start lines
  some (setEntry key (.table .header table) entries)

/-- Add a table under a header in double brackets. -/
def openItem (key : String) (lines : List Line) (entries : Entries) :
    Option Entries := do
  let items ←
    match entries.lookup key with
    | none => some []
    | some (.tables items) => some items
    | some _ => none
  let table ← addLines .header [] lines
  some (setEntry key (.tables (items ++ [table])) entries)

/-- A header with the lines under it. -/
structure Section where
  header : Header
  lines : List Line

/-- Add a header with its lines to a document. -/
def addSection (document : Entries) (added : Section) : Option Entries :=
  let header := added.header
  changeAt byHeader
    (fun _ entries =>
      if header.repeats then
        openItem header.key added.lines entries
      else
        openTable header.key added.lines entries)
    .header document header.path

/-- The document of some lines and the sections that follow them. -/
def ofSections? (lines : List Line) (sections : List Section) : Option Entries := do
  let start ← addLines .header [] lines
  sections.foldlM addSection start

end Toml

end TenantStore
