import TenantStore.Json.Printer
import TenantStore.Notice

namespace TenantStore

/-!
# The log

What the log of a process reads. A setup shows the notices from its level on;
each of them is a line, either a text in colours or a document.
-/

/-- What a log reads off the clock. -/
structure Clock where
  /--
  The time of a line, in microseconds since the start of 1970, given the number
  of lines before it.
  -/
  stamp : Nat → Nat := fun _ => 0
  /-- How long writing to storage takes, given how often was written before. -/
  took : Nat → Span := fun _ => .zero

/-! ## Times -/

/-- The year, month and day that begin some days after 1970 began. -/
def civilDate (days : Nat) : Nat × Nat × Nat :=
  -- Years begin in March here, so that a leap day is the last day of its year.
  let shifted := days + 719468
  let dayOfEra := shifted % 146097
  let yearOfEra :=
    (dayOfEra - dayOfEra / 1460 + dayOfEra / 36524 - dayOfEra / 146096) / 365
  let dayOfYear := dayOfEra - (365 * yearOfEra + yearOfEra / 4 - yearOfEra / 100)
  let monthOfYear := (5 * dayOfYear + 2) / 153
  let month := if monthOfYear < 10 then monthOfYear + 3 else monthOfYear - 9
  let year := yearOfEra + shifted / 146097 * 400
  (if month ≤ 2 then year + 1 else year, month,
    dayOfYear - (153 * monthOfYear + 2) / 5 + 1)

/-- A number of microseconds since the start of 1970 as a date and a time of day. -/
def stampText (micros : Nat) : String :=
  let seconds := micros / 1000000
  let (year, month, day) := civilDate (seconds / 86400)
  let digits (width number : Nat) : String :=
    String.ofList (Text.paddedDecimal width number)
  digits 4 year ++ "-" ++ digits 2 month ++ "-" ++ digits 2 day ++ "T"
    ++ digits 2 (seconds / 3600 % 24) ++ ":" ++ digits 2 (seconds / 60 % 60) ++ ":"
    ++ digits 2 (seconds % 60) ++ "." ++ digits 6 (micros % 1000000) ++ "Z"

example : stampText 1795172883933071 = "2026-11-20T11:08:03.933071Z" := by
  decide +kernel

/-! ## Lines -/

namespace LogLevel

/-- The name of a level in the log. -/
def label : LogLevel → String
  | .trace => "TRACE"
  | .debug => "DEBUG"
  | .info => "INFO"
  | .warn => "WARN"
  | .error => "ERROR"

/-- The number of the colour that a level has on a terminal. -/
def colour : LogLevel → Nat
  | .trace => 35
  | .debug => 34
  | .info => 32
  | .warn => 33
  | .error => 31

/-- The label of a level, filled up with blanks in front to five characters. -/
def paddedLabel (level : LogLevel) : String :=
  String.ofList (List.replicate (5 - level.label.length) ' ') ++ level.label

end LogLevel

namespace LogSetup

/-- Whether a log shows a notice. -/
def shows (setup : LogSetup) (notice : Notice) : Bool :=
  setup.level.admits notice.level

/-- A text that a terminal shows in the style of a number. -/
def styled (style : Nat) (text : String) : String :=
  "\x1b[" ++ Text.showNat style ++ "m" ++ text ++ "\x1b[0m"

/-- The style of what stands back. -/
def dimmed (text : String) : String :=
  styled 2 text

/-- A notice as a line of text. -/
def textLine (setup : LogSetup) (stamp : String) (notice : Notice) : String :=
  let source :=
    if setup.withTarget then dimmed notice.target ++ dimmed ":" ++ " " else ""
  dimmed stamp ++ " " ++ styled notice.level.colour notice.level.paddedLabel ++ " "
    ++ source ++ notice.text

/-- A notice as a document. -/
def document (setup : LogSetup) (stamp : String) (notice : Notice) : Json :=
  .record ([
    ("timestamp", .text stamp),
    ("level", .text notice.level.label),
    ("fields", .record [("message", .text notice.text)])]
    ++ if setup.withTarget then [("target", .text notice.target)] else [])

/-- The line of a notice. -/
def line (setup : LogSetup) (stamp : String) (notice : Notice) : String :=
  (if setup.jsonFormat then
    (setup.document stamp notice).compactText
  else
    setup.textLine stamp notice) ++ "\n"

/-- The log of some notices, line by line. -/
def log (setup : LogSetup) (clock : Clock) (notices : List Notice) : String :=
  String.join (notices.mapIdx (fun number notice =>
    setup.line (stampText (clock.stamp number)) notice))

end LogSetup

end TenantStore
