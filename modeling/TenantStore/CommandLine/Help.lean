import TenantStore.CommandLine.Shape

namespace TenantStore.CommandLine

/-!
# Help

The help of a command says what it does, how it is called, and what its
commands, arguments and options are, each in a list of two columns.
-/

/-- The name of an option in the help. -/
def OptionShape.label (option : OptionShape) : String :=
  let short :=
    match option.short with
    | some letter => String.ofList ['-', letter, ',', ' ']
    | none => "    "
  let value :=
    match option.value with
    | some name => " <" ++ name ++ ">"
    | none => ""
  short ++ "--" ++ option.long ++ value

/-- A text with blanks behind it up to a length. -/
def padTo (length : Nat) (text : String) : String :=
  text ++ String.ofList (List.replicate (length - text.length) ' ')

/-- A list of two columns under a title; nothing if it has no rows. -/
def helpList (title : String) (rows : List (String × String)) : List String :=
  if rows.isEmpty then
    []
  else
    let width := (rows.map (fun row => row.1.length)).foldl max 0
    ["", title ++ ":"]
      ++ rows.map (fun row => "  " ++ padTo width row.1 ++ "  " ++ row.2)

/-- The help of a command that is called by some words. -/
def helpText (words : List String) (shape : CommandShape) : String :=
  let lines :=
    [shape.about, "",
      "Usage: " ++ " ".intercalate (words ++ shape.synopsis)]
    ++ helpList "Commands" shape.subcommands
    ++ helpList "Arguments"
      (shape.arguments.map (fun argument => (argument.name, argument.about)))
    ++ helpList "Options"
      (shape.options.map (fun option => (option.label, option.about)))
  String.join (lines.map (· ++ "\n"))

/-- What is printed for the version. -/
def versionText : String :=
  tool.name ++ " " ++ version ++ "\n"

end TenantStore.CommandLine
