import TenantStore.Text.Blank
import TenantStore.Text.Decimal

namespace TenantStore

/-!
# Spans of time

A span counts whole seconds and nanoseconds. Its text is a list of amounts
with units, such as `1h 30m`: amounts of the same or of different units may
follow each other in any order and are added up. Printing uses each unit at
most once, from years down to nanoseconds, so a span has one printed form.
-/

/-- A span of time. -/
structure Span where
  seconds : Nat
  nanos : Nat
  seconds_lt : seconds < 0x10000000000000000 := by decide
  nanos_lt : nanos < 1000000000 := by decide
  deriving Repr, DecidableEq

namespace Span

/-- The empty span. -/
def zero : Span where
  seconds := 0
  nanos := 0

/-- A span of whole seconds. -/
def ofSeconds
    (seconds : Nat)
    (seconds_lt : seconds < 0x10000000000000000 := by decide) : Span where
  seconds := seconds
  nanos := 0
  seconds_lt := seconds_lt

/-- Units of time. -/
inductive TimeUnit where
  | nanosecond
  | microsecond
  | millisecond
  | second
  | minute
  | hour
  | day
  | week
  | month
  | year
  deriving Repr, DecidableEq

namespace TimeUnit

/-- How long a unit is: in nanoseconds below a second, else in seconds. -/
def length : TimeUnit → Nat
  | .nanosecond => 1
  | .microsecond => 1000
  | .millisecond => 1000000
  | .second => 1
  | .minute => 60
  | .hour => 3600
  | .day => 86400
  | .week => 604800
  | .month => 2630016
  | .year => 31557600

/-- Whether a unit is shorter than a second. -/
def isSubsecond : TimeUnit → Bool
  | .nanosecond => true
  | .microsecond => true
  | .millisecond => true
  | _ => false

/-- The seconds and nanoseconds of a number of units. -/
def amount (unit : TimeUnit) (number : Nat) : Nat × Nat :=
  if unit.isSubsecond then
    (0, number * unit.length)
  else
    (number * unit.length, 0)

/-- The grain of fractions of a unit: nanoseconds up to minutes, then seconds. -/
def fractionLength : TimeUnit → Nat × Bool
  | .second => (1000000000, true)
  | .minute => (60000000000, true)
  | unit => (unit.length, unit.isSubsecond)

/-- The unit with a given name. -/
def ofName? (name : String) : Option TimeUnit :=
  if ["nanos", "nsec", "ns"].contains name then some .nanosecond
  else if ["usec", "us", "µs"].contains name then some .microsecond
  else if ["millis", "msec", "ms"].contains name then some .millisecond
  else if ["seconds", "second", "secs", "sec", "s"].contains name then some .second
  else if ["minutes", "minute", "min", "mins", "m"].contains name then some .minute
  else if ["hours", "hour", "hr", "hrs", "h"].contains name then some .hour
  else if ["days", "day", "d"].contains name then some .day
  else if ["weeks", "week", "wk", "wks", "w"].contains name then some .week
  else if ["months", "month", "M"].contains name then some .month
  else if ["years", "year", "yr", "yrs", "y"].contains name then some .year
  else none

end TimeUnit

/-- A span with some seconds and nanoseconds more, unless it gets too long. -/
def add? (span : Span) (seconds nanos : Nat) : Option Span :=
  let allNanos := span.nanos + nanos
  if allNanos < 0x10000000000000000 then
    if seconds_lt :
        span.seconds + seconds + allNanos / 1000000000 < 0x10000000000000000 then
      some {
        seconds := span.seconds + seconds + allNanos / 1000000000
        nanos := allNanos % 1000000000
        seconds_lt := seconds_lt
        nanos_lt := Nat.mod_lt _ (by decide)
      }
    else
      none
  else
    none

/-! ## Reading -/

/-- Digits with blanks among them, and the rest. -/
def takeSpacedDigits : List Char → List Char × List Char
  | [] => ([], [])
  | char :: rest =>
      if char.isDigit then
        (char :: (takeSpacedDigits rest).1, (takeSpacedDigits rest).2)
      else if Text.isBlank char then
        takeSpacedDigits rest
      else
        ([], char :: rest)

/-- Whether a character may be part of the name of a unit. -/
def isUnitChar (char : Char) : Bool :=
  ('a' ≤ char && char ≤ 'z') || ('A' ≤ char && char ≤ 'Z') || char = 'µ'

/-- The fraction behind a decimal point: its digits, and the rest. -/
def readFraction (chars : List Char) : Option (List Char × List Char) :=
  match chars with
  | '.' :: rest =>
      match takeSpacedDigits rest with
      | ([], _) => none
      | found => some found
  | _ => some ([], chars)

/-- A span with a fraction of a unit more; the fraction must come out whole. -/
def addFraction? (span : Span) (unit : TimeUnit) (digits : List Char) : Option Span :=
  if digits.isEmpty then
    some span
  else
    let denominator := Nat.pow 10 digits.length
    let (grain, inNanos) := unit.fractionLength
    let numerator := Text.natOfDigits digits * grain
    if denominator < 0x10000000000000000 && numerator < 0x10000000000000000
        && numerator % denominator = 0 then
      let part := numerator / denominator
      if inNanos then span.add? 0 part else span.add? part 0
    else
      none

/-- A span with the amounts that a text lists more. -/
def readAmounts : Nat → Span → List Char → Option Span
  | 0, _, _ => none
  | fuel + 1, span, chars =>
      match chars.dropWhile Text.isBlank with
      | [] => some span
      | first :: rest =>
          if first.isDigit then do
            let (digits, rest) := takeSpacedDigits (first :: rest)
            let number := Text.natOfDigits digits
            let (fraction, rest) ← readFraction rest
            let unit ← TimeUnit.ofName?
              (String.ofList (rest.takeWhile isUnitChar))
            if number < 0x10000000000000000 then
              let (seconds, nanos) := unit.amount number
              let longer ← span.add? seconds nanos
              let longest ← longer.addFraction? unit fraction
              readAmounts fuel longest (rest.dropWhile isUnitChar)
            else
              none
          else
            none

/-- The span that a text spells: a lone zero, or at least one amount. -/
def ofText? (text : String) : Option Span :=
  if text = "0" then
    some zero
  else if text.toList.all Text.isBlank then
    none
  else
    readAmounts (text.toList.length + 1) zero text.toList

/-! ## Writing -/

/-- An amount of a unit, left out when it is zero. -/
def showAmount (number : Nat) (unit : String) : List String :=
  if number = 0 then [] else [Text.showNat number ++ unit]

/-- An amount of a unit whose name takes an `s` in the plural. -/
def showCounted (number : Nat) (unit : String) : List String :=
  showAmount number (if number > 1 then unit ++ "s" else unit)

/-- The amounts that make up a span, from the longest unit to the shortest. -/
def amounts (span : Span) : List String :=
  let inYear := span.seconds % 31557600
  let inMonth := inYear % 2630016
  let inDay := inMonth % 86400
  showCounted (span.seconds / 31557600) "year"
    ++ showCounted (inYear / 2630016) "month"
    ++ showCounted (inMonth / 86400) "day"
    ++ showAmount (inDay / 3600) "h"
    ++ showAmount (inDay % 3600 / 60) "m"
    ++ showAmount (inDay % 60) "s"
    ++ showAmount (span.nanos / 1000000) "ms"
    ++ showAmount (span.nanos / 1000 % 1000) "us"
    ++ showAmount (span.nanos % 1000) "ns"

/-- The printed form of a span. -/
def text (span : Span) : String :=
  match span.amounts with
  | [] => "0s"
  | amounts => " ".intercalate amounts

/-! ## Measured times -/

/-- The digits of a fraction behind a point, without zeros at the end. -/
def showFraction (width fraction : Nat) : String :=
  match ((Text.paddedDecimal width fraction).reverse.dropWhile (· = '0')).reverse with
  | [] => ""
  | digits => "." ++ String.ofList digits

/-- A span as a measured time: in one unit, which is the longest that fits. -/
def elapsedText (span : Span) : String :=
  if 0 < span.seconds then
    Text.showNat span.seconds ++ showFraction 9 span.nanos ++ "s"
  else if 1000000 ≤ span.nanos then
    Text.showNat (span.nanos / 1000000) ++ showFraction 6 (span.nanos % 1000000)
      ++ "ms"
  else if 1000 ≤ span.nanos then
    Text.showNat (span.nanos / 1000) ++ showFraction 3 (span.nanos % 1000) ++ "µs"
  else
    Text.showNat span.nanos ++ "ns"

end Span

end TenantStore
