import TenantStore.CommandLine.Help

namespace TenantStore.CommandLine

/-!
# Reading a command line

The words of a command line are read from left to right: options with their
values, arguments, and at last the name of a command, after which its own words
follow. Reading stops early when the words are misused, or when one of them
asks for help.

The value that follows an option as a word of its own is looked at when the
next option begins, so that what comes first is judged first.
-/

/-- Why a command line is not carried out. -/
inductive Stop where
  /-- The words do not fit the shape of the command line. -/
  | misuse
  /-- A text is printed instead. -/
  | shown (text : String)
  deriving Repr, DecidableEq

/-- What has been read. -/
structure Reading where
  /-- Values under the long names of their options; those of switches are empty. -/
  values : List (String × String) := []
  arguments : List String := []
  /-- An option and its value that are still to be looked at. -/
  pending : Option (OptionShape × String) := none
  /-- The name of a command, and the words that follow it. -/
  command : Option (String × List String) := none

namespace Reading

/-- The value of an option. -/
def value? (reading : Reading) (option : OptionShape) : Option String :=
  reading.values.lookup option.long

/-- Whether an option has been given. -/
def has (reading : Reading) (option : OptionShape) : Bool :=
  (reading.value? option).isSome

/-- Take an option with its value into account. It may not be given twice. -/
def add (reading : Reading) (option : OptionShape) (value : String) :
    Except Stop Reading :=
  if reading.has option || !option.accepts value then
    .error .misuse
  else
    .ok { reading with values := reading.values ++ [(option.long, value)] }

/-- Look at what is pending. -/
def settle (reading : Reading) : Except Stop Reading :=
  match reading.pending with
  | none => .ok reading
  | some (option, value) => ({ reading with pending := none }).add option value

end Reading

/-- How words are read: those of one command, called by some words. -/
structure Context where
  words : List String
  shape : CommandShape

/-- The context of the words before a command. -/
def toolContext : Context where
  words := [tool.name]
  shape := tool

/-- The context of the words behind a command. -/
def commandContext (shape : CommandShape) : Context where
  words := [tool.name, shape.name]
  shape := shape

namespace Context

/-- Take a switch into account; those for help and version end the reading. -/
def addSwitch (context : Context) (reading : Reading) (option : OptionShape) :
    Except Stop Reading :=
  if option.long = helpOption.long then
    .error (.shown (helpText context.words context.shape))
  else if option.long = versionOption.long then
    .error (.shown versionText)
  else
    reading.add option ""

/-- What reading an option leads to. -/
inductive Step where
  | done (reading : Reading)
  /-- The value of the option is the next word. -/
  | awaits (reading : Reading) (option : OptionShape)

/-- Split a list at the first equals sign. -/
def splitAtEquals (chars : List Char) : String × Option String :=
  match chars.dropWhile (· != '=') with
  | [] => (String.ofList chars, none)
  | _ :: value =>
      (String.ofList (chars.takeWhile (· != '=')), some (String.ofList value))

/-- Read an option behind two dashes. -/
def readLong (context : Context) (reading : Reading) (chars : List Char) :
    Except Stop Step :=
  let (name, attached) := splitAtEquals chars
  match context.shape.options.find? (fun option => option.long = name) with
  | none => .error .misuse
  | some option => do
      let reading ← reading.settle
      match option.value, attached with
      | some _, some value => (reading.add option value).map .done
      | some _, none => .ok (.awaits reading option)
      | none, some _ => .error .misuse
      | none, none => (context.addSwitch reading option).map .done

/-- Read the options behind one dash. The first that takes a value takes the rest. -/
def readShort (context : Context) (reading : Reading) :
    List Char →
    Except Stop Step
  | [] => .ok (.done reading)
  | letter :: rest =>
      match context.shape.options.find? (fun option => option.short = some letter) with
      | none => .error .misuse
      | some option => do
          let reading ← reading.settle
          if option.value.isSome then
            match rest with
            | [] => .ok (.awaits reading option)
            | '=' :: value => (reading.add option (String.ofList value)).map .done
            | value => (reading.add option (String.ofList value)).map .done
          else
            let reading ← context.addSwitch reading option
            context.readShort reading rest

/-- Whether a word is an option by its form. -/
def isOption (word : String) : Bool :=
  word.startsWith "-" && word != "-"

/-- Read an argument. -/
def readArgument (context : Context) (reading : Reading) (word : String) :
    Except Stop Reading :=
  if reading.arguments.length < context.shape.arguments.length then do
    let reading ← reading.settle
    .ok { reading with arguments := reading.arguments ++ [word] }
  else
    .error .misuse

/-- Read an option. -/
def readOption (context : Context) (reading : Reading) (word : String) :
    Except Stop Step :=
  match word.toList with
  | '-' :: '-' :: chars => context.readLong reading chars
  | chars => context.readShort reading chars.tail

/-- Read words. Behind two lone dashes all words are arguments. -/
def readWords (context : Context) (reading : Reading) :
    List String →
    Except Stop Reading
  | [] => .ok reading
  | word :: rest =>
      if context.shape.subcommands.any (fun entry => entry.1 = word) then
        .ok { reading with command := some (word, rest) }
      else if word = "--" then
        rest.foldlM context.readArgument reading
      else if isOption word then
        match context.readOption reading word with
        | .error stop => .error stop
        | .ok (.done reading) => context.readWords reading rest
        | .ok (.awaits reading option) =>
            match rest with
            | [] => .error .misuse
            | value :: rest =>
                if isOption value then
                  .error .misuse
                else
                  context.readWords
                    { reading with pending := some (option, value) } rest
      else
        match context.readArgument reading word with
        | .error stop => .error stop
        | .ok reading => context.readWords reading rest

end Context

end TenantStore.CommandLine
