import ScopedAccess.Duration
import ScopedAccess.Json.Record
import ScopedAccess.Text.Blank
import ScopedAccess.Text.Decimal

/-!
# ScopedAccess.Duration.Text

Durations as text such as `1h 30m`: amounts with a unit, added up.

* `Duration.ofText?` reads one or more amounts, or a lone `0`. Blanks may stand between the digits
  of an amount, before its unit and around it, but not inside the unit. An amount may have a
  fraction as long as it comes out in whole nanoseconds, and from hours up in whole seconds.
* `Duration.text` writes the parts that are not zero, the largest unit first.
-/

namespace ScopedAccess

/-- Unit of an amount of time. -/
inductive TimeUnit where
  | nanosecond
  | microsecond
  | millisecond
  | second
  | minute
  | hour
  | day
  | week
  | month
  | year
deriving DecidableEq

namespace TimeUnit

/-- Length of a unit in nanoseconds. A year has 365.25 days and a month 30.44, so that twelve months
are a little longer than a year. -/
def nanos : TimeUnit → Nat
  | nanosecond => 1
  | microsecond => 1000
  | millisecond => 1000000
  | second => 1000000000
  | minute => 60 * 1000000000
  | hour => 3600 * 1000000000
  | day => 86400 * 1000000000
  | week => 604800 * 1000000000
  | month => 2630016 * 1000000000
  | year => 31557600 * 1000000000

/-- What the whole part of an amount is counted in: seconds from seconds up. -/
def wholeGrain : TimeUnit → Nat
  | nanosecond | microsecond | millisecond => 1
  | _ => 1000000000

/-- What the fraction of an amount is counted in: seconds from hours up. -/
def fractionGrain : TimeUnit → Nat
  | nanosecond | microsecond | millisecond | second | minute => 1
  | _ => 1000000000

def names : List (String × TimeUnit) :=
  [("nanos", nanosecond), ("nsec", nanosecond), ("ns", nanosecond),
    ("usec", microsecond), ("us", microsecond), ("µs", microsecond),
    ("millis", millisecond), ("msec", millisecond), ("ms", millisecond),
    ("seconds", second), ("second", second), ("secs", second), ("sec", second), ("s", second),
    ("minutes", minute), ("minute", minute), ("min", minute), ("mins", minute), ("m", minute),
    ("hours", hour), ("hour", hour), ("hr", hour), ("hrs", hour), ("h", hour),
    ("days", day), ("day", day), ("d", day),
    ("weeks", week), ("week", week), ("wk", week), ("wks", week), ("w", week),
    ("months", month), ("month", month), ("M", month),
    ("years", year), ("year", year), ("yr", year), ("yrs", year), ("y", year)]

def ofName? (name : String) : Option TimeUnit := Json.chosen? names name

end TimeUnit

/-- A number with a unit, as it is written. -/
structure Amount where
  whole : List Char
  fraction : Option (List Char)
  unit : List Char
deriving DecidableEq

namespace Amount

open Text Text.Decimal

/-- Whether a character may stand in a unit. -/
def isLetter (c : Char) : Bool := ('a' ≤ c && c ≤ 'z') || ('A' ≤ c && c ≤ 'Z') || c == 'µ'

/-- Whether a character may stand in a number. -/
def isNumeral (c : Char) : Bool := isDigit c || isBlank c

/-- The amount a text starts with, and what follows it. The text starts with a digit. -/
def read? (cs : List Char) : Option (Amount × List Char) :=
  match cs with
  | [] => none
  | c :: _ =>
    if !isDigit c then none
    else
      let whole := (cs.takeWhile isNumeral).filter isDigit
      match cs.dropWhile isNumeral with
      | '.' :: rest =>
        let fraction := (rest.takeWhile isNumeral).filter isDigit
        let tail := rest.dropWhile isNumeral
        if fraction.isEmpty || (tail.takeWhile isLetter).isEmpty then none
        else some (⟨whole, some fraction, tail.takeWhile isLetter⟩, tail.dropWhile isLetter)
      | tail =>
        if (tail.takeWhile isLetter).isEmpty then none
        else some (⟨whole, none, tail.takeWhile isLetter⟩, tail.dropWhile isLetter)

/-- All amounts of a text. `fuel` bounds their number. -/
def readAll? : Nat → List Char → Option (List Amount)
  | 0, _ => none
  | fuel + 1, cs =>
    match read? (cs.dropWhile isBlank) with
    | none => none
    | some (a, rest) =>
      if rest.all isBlank then some [a]
      else
        match readAll? fuel rest with
        | none => none
        | some as => some (a :: as)

/-- A number that fits 64 bits. -/
def word? (n : Nat) : Option Nat := if n < UInt64.size then some n else none

/-- The denominator of a fraction: ten for each digit. -/
def denominator : List Char → Nat
  | [] => 1
  | _ :: digits => 10 * denominator digits

/-- A sum of nanoseconds. What is counted in single nanoseconds is added to those beyond the last
whole second, and that sum has 64 bits. -/
def add? (total count grain : Nat) : Option Nat :=
  if grain = 1 ∧ UInt64.size ≤ total % 1000000000 + count then none
  else (Duration.ofNanos? (total + count * grain)).map Duration.nanos

def addWhole? (total : Nat) (unit : TimeUnit) (whole : List Char) : Option Nat :=
  match word? (valueFrom 0 whole) with
  | none => none
  | some n =>
    match word? (n * (unit.nanos / unit.wholeGrain)) with
    | none => none
    | some count => add? total count unit.wholeGrain

/-- Adds the fraction of an amount. It has to come out even. -/
def addFraction? (total : Nat) (unit : TimeUnit) : Option (List Char) → Option Nat
  | none => some total
  | some fraction =>
    if unit = .nanosecond then none
    else
      match word? (valueFrom 0 fraction), word? (denominator fraction) with
      | some n, some d =>
        match word? (n * (unit.nanos / unit.fractionGrain)) with
        | none => none
        | some scaled =>
          if scaled % d = 0 then add? total (scaled / d) unit.fractionGrain else none
      | _, _ => none

def addTo? (total : Nat) (a : Amount) : Option Nat :=
  match TimeUnit.ofName? (String.ofList a.unit) with
  | none => none
  | some unit =>
    match addWhole? total unit a.whole with
    | none => none
    | some total => addFraction? total unit a.fraction

/-- The sum of amounts, in nanoseconds. -/
def sum? (total : Nat) : List Amount → Option Nat
  | [] => some total
  | a :: as =>
    match addTo? total a with
    | none => none
    | some total => sum? total as

end Amount

namespace Duration

open Text.Decimal

def ofText? (s : String) : Option Duration :=
  if s = "0" then some zero
  else
    match Amount.readAll? (s.toList.length + 1) s.toList with
    | none => none
    | some as =>
      match Amount.sum? 0 as with
      | none => none
      | some n => ofNanos? n

/-- How many of a unit there are beside whole ones of the next larger unit. -/
structure Part where
  count : Nat
  unit : List Char
deriving DecidableEq

/-- The letters of a long unit: one of them is singular. -/
def plural (unit : String) (count : Nat) : List Char :=
  if count = 1 then unit.toList else unit.toList ++ ['s']

def parts (d : Duration) : List Part :=
  let seconds := d.nanos / 1000000000
  let inYear := seconds % 31557600
  let inMonth := inYear % 2630016
  let inDay := inMonth % 86400
  let nanos := d.nanos % 1000000000
  let years := seconds / 31557600
  let months := inYear / 2630016
  let days := inMonth / 86400
  [⟨years, plural "year" years⟩, ⟨months, plural "month" months⟩, ⟨days, plural "day" days⟩,
    ⟨inDay / 3600, ['h']⟩, ⟨inDay % 3600 / 60, ['m']⟩, ⟨inDay % 60, ['s']⟩,
    ⟨nanos / 1000000, ['m', 's']⟩, ⟨nanos / 1000 % 1000, ['u', 's']⟩, ⟨nanos % 1000, ['n', 's']⟩]

def Part.chars (p : Part) : List Char := digits p.count ++ p.unit

def joinParts : List Part → List Char
  | [] => []
  | [p] => p.chars
  | p :: rest => p.chars ++ ' ' :: joinParts rest

def text (d : Duration) : String :=
  match d.parts.filter fun p => p.count != 0 with
  | [] => "0s"
  | ps => String.ofList (joinParts ps)

/-- Reads a duration from a string, whatever blanks are around it. -/
def ofJson? (p : Json.Place) (v : Json) : Option Duration :=
  match Json.readStr p v with
  | some s => ofText? (Text.trim s)
  | none => none

def toJson (d : Duration) : Json := .str d.text

end Duration

end ScopedAccess
