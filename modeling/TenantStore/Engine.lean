import TenantStore.Json.Fields
import TenantStore.Problem
import TenantStore.Text.Blank
import TenantStore.Text.Case

namespace TenantStore

/-!
# Engines

The two ways in which a store keeps its accounts.
-/

/-- How a store keeps its accounts. -/
inductive Engine where
  /-- All accounts in memory and in one file. -/
  | jsonFile
  /-- One table for each kind of entity. -/
  | sqlite
  deriving Repr, DecidableEq

namespace Engine

/-- The name of an engine in files, in output and in messages. -/
def name : Engine → String
  | .jsonFile => "jsonfile"
  | .sqlite => "sqlite"

/-- The engines under their names. -/
def named : List (String × Engine) :=
  [("jsonfile", .jsonFile), ("sqlite", .sqlite)]

/-- The engine of a fresh store when nothing else decides. -/
def default : Engine :=
  .jsonFile

/-- The engine that a person names: in any case, with blanks around it. -/
def parse (text : String) : Except Problem Engine :=
  match Text.lowerAscii (Text.trim text) with
  | "jsonfile" => .ok .jsonFile
  | "json" => .ok .jsonFile
  | "sqlite" => .ok .sqlite
  | other => .error (.unknownEngine other)

/-- An engine is written as its name. -/
def toJson (engine : Engine) : Json :=
  .text engine.name

/-- The engine that a document spells. -/
def ofJson? : Json → Option Engine :=
  Json.variant? named

end Engine

end TenantStore
