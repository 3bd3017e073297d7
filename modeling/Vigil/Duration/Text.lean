import Vigil.Duration.Basic
import Vigil.Text.Blank

/-!
# Durations as people write them

A written duration is a sequence of items such as `1h 30m` or `1.5s`: a decimal number and the
name of a unit. Blank characters may stand between items, before a unit and between digits.
A month has 30.44 days and a year 365.25. `Duration.parse` adds the items up; `Duration.text`
writes the largest units first and leaves out those that do not occur.
-/

set_option autoImplicit false

namespace Vigil

/-- The units of written durations. -/
inductive TimeUnit where
  | nanosecond | microsecond | millisecond | second | minute | hour | day | week | month | year
  deriving DecidableEq, Repr

/-- What one step of a count amounts to: so many nanoseconds, or so many seconds. -/
inductive Grain where
  | nanos (n : Nat)
  | seconds (n : Nat)
  deriving DecidableEq, Repr

namespace TimeUnit

/-- The unit with this name. Case matters: `m` is a minute and `M` a month. -/
def ofName? (name : String) : Option TimeUnit :=
  if name ∈ ["nanos", "nsec", "ns"] then some .nanosecond
  else if name ∈ ["usec", "us", "µs"] then some .microsecond
  else if name ∈ ["millis", "msec", "ms"] then some .millisecond
  else if name ∈ ["seconds", "second", "secs", "sec", "s"] then some .second
  else if name ∈ ["minutes", "minute", "mins", "min", "m"] then some .minute
  else if name ∈ ["hours", "hour", "hrs", "hr", "h"] then some .hour
  else if name ∈ ["days", "day", "d"] then some .day
  else if name ∈ ["weeks", "week", "wks", "wk", "w"] then some .week
  else if name ∈ ["months", "month", "M"] then some .month
  else if name ∈ ["years", "year", "yrs", "yr", "y"] then some .year
  else none

/-- The worth of one whole unit. -/
def grain : TimeUnit → Grain
  | .nanosecond => .nanos 1
  | .microsecond => .nanos 1000
  | .millisecond => .nanos 1000000
  | .second => .seconds 1
  | .minute => .seconds 60
  | .hour => .seconds 3600
  | .day => .seconds 86400
  | .week => .seconds 604800
  | .month => .seconds 2630016
  | .year => .seconds 31557600

/-- The worth of one unit for the part after the point; nanoseconds have no parts. -/
def fractionGrain? : TimeUnit → Option Grain
  | .nanosecond => none
  | .second => some (.nanos 1000000000)
  | .minute => some (.nanos 60000000000)
  | u => some u.grain

end TimeUnit

/-- Why a text is not a duration. Offsets count bytes. -/
inductive DurationFault where
  | empty
  | numberExpected (offset : Nat)
  | invalidCharacter (offset : Nat)
  | unitNeeded (count : Nat)
  | unknownUnit (name : String)
  | outOfRange
  deriving DecidableEq, Repr

namespace DurationFault

/-- The wording of a fault. -/
def message : DurationFault → String
  | .empty => "value was empty"
  | .numberExpected o => "expected number at " ++ toString o
  | .invalidCharacter o => "invalid character at " ++ toString o
  | .unitNeeded n =>
    "time unit needed, for example " ++ toString n ++ "sec or " ++ toString n ++ "ms"
  | .unknownUnit u =>
    "unknown time unit \"" ++ u ++ "\", supported units: ns, us/µs, ms, sec, min, hours, days, " ++
      "weeks, months, years (and few variations)"
  | .outOfRange =>
    "number is too large or cannot be represented without a lack of precision " ++
      "(values below 1ns are not supported)"

end DurationFault

namespace Duration

/-- The decimal part of a number: `numerator / denominator`, the latter a power of ten. -/
structure Fraction where
  numerator : Nat
  denominator : Nat
  deriving DecidableEq, Repr

/-- Counts are kept in 64 bits. -/
def fits (n : Nat) : Except DurationFault Nat :=
  if n < 0x10000000000000000 then .ok n else .error .outOfRange

/-- Adds `count` steps of a grain to a span. -/
def addSteps (total : Duration) (count : Nat) : Grain → Except DurationFault Duration
  | .nanos k => do
    let n ← fits (count * k)
    let _ ← fits (total.subsec + n)
    match ofNanos? (total.nanos + n) with
    | some d => .ok d
    | none => .error .outOfRange
  | .seconds k => do
    let s ← fits (count * k)
    match ofNanos? (total.nanos + s * 1_000_000_000) with
    | some d => .ok d
    | none => .error .outOfRange

/-- The number of steps in the decimal part of a number, which has to be whole. -/
def wholeSteps (f : Fraction) (k : Nat) : Except DurationFault Nat := do
  let n ← fits (f.numerator * k)
  if n % f.denominator == 0 then .ok (n / f.denominator) else .error .outOfRange

/-- Adds the decimal part of an item to a span. -/
def addFraction (total : Duration) (f : Fraction) (u : TimeUnit) :
    Except DurationFault Duration :=
  match u.fractionGrain? with
  | none => .error .outOfRange
  | some (.nanos k) => do addSteps total (← wholeSteps f k) (.nanos 1)
  | some (.seconds k) => do addSteps total (← wholeSteps f k) (.seconds 1)

/-- Adds one item: a number, its decimal part, and the name of its unit. -/
def addItem (total : Duration) (count : Nat) (fraction : Option Fraction) (unit : List Char) :
    Except DurationFault Duration :=
  match TimeUnit.ofName? (String.ofList unit) with
  | none =>
    if unit.isEmpty then .error (.unitNeeded count)
    else .error (.unknownUnit (String.ofList unit))
  | some u => do
    let total ← addSteps total count u.grain
    match fraction with
    | none => .ok total
    | some f => addFraction total f u

/-- Where a reader of durations stands. -/
inductive Reading where
  /-- Before the number of an item. -/
  | seek
  /-- Within the whole part of a number. -/
  | whole (count : Nat)
  /-- After the point; `mark` is the offset that a fault here is reported at. -/
  | decimals (count : Nat) (fraction : Fraction) (mark : Nat)
  /-- Within the name of a unit. -/
  | unit (count : Nat) (fraction : Option Fraction) (name : List Char)

/-- The letters that names of units are made of. -/
def isUnitChar (c : Char) : Bool := c.isAlpha || c == 'µ'

/-- The value of a decimal digit. -/
def digitValue (c : Char) : Nat := c.toNat - 48

/-- Reads the rest of a written duration from byte `offset` on. -/
def read (total : Duration) (offset : Nat) : Reading → List Char → Except DurationFault Duration
  | .seek, [] => .ok total
  | .seek, c :: r =>
    if c.isDigit then read total (offset + c.utf8Size) (.whole (digitValue c)) r
    else if Text.isBlank c then read total (offset + c.utf8Size) .seek r
    else .error (.numberExpected offset)
  | .whole n, [] => addItem total n none []
  | .whole n, c :: r =>
    if c.isDigit then
      match fits (n * 10 + digitValue c) with
      | .error e => .error e
      | .ok n => read total (offset + c.utf8Size) (.whole n) r
    else if Text.isBlank c then read total (offset + c.utf8Size) (.whole n) r
    else if isUnitChar c then read total (offset + c.utf8Size) (.unit n none [c]) r
    else if c == '.' then read total (offset + c.utf8Size) (.decimals n ⟨0, 1⟩ offset) r
    else .error (.invalidCharacter offset)
  | .decimals n f mark, [] =>
    if f.denominator == 1 then .error (.invalidCharacter mark) else addItem total n (some f) []
  | .decimals n f mark, c :: r =>
    if c.isDigit then
      match fits (f.denominator * 10), fits (f.numerator * 10 + digitValue c) with
      | .ok den, .ok num =>
        read total (offset + c.utf8Size) (.decimals n ⟨num, den⟩ (offset + c.utf8Size)) r
      | _, _ => .error .outOfRange
    else if Text.isBlank c then
      read total (offset + c.utf8Size) (.decimals n f (offset + c.utf8Size)) r
    else if isUnitChar c && f.denominator != 1 then
      read total (offset + c.utf8Size) (.unit n (some f) [c]) r
    else .error (.invalidCharacter mark)
  | .unit n f name, [] => addItem total n f name
  | .unit n f name, c :: r =>
    if isUnitChar c then read total (offset + c.utf8Size) (.unit n f (name ++ [c])) r
    else if c.isDigit then
      match addItem total n f name with
      | .error e => .error e
      | .ok total => read total (offset + c.utf8Size) (.whole (digitValue c)) r
    else if Text.isBlank c then
      match addItem total n f name with
      | .error e => .error e
      | .ok total => read total (offset + c.utf8Size) .seek r
    else .error (.invalidCharacter offset)

/-- The duration that a text writes, without regard to blank characters at its ends. A nought
alone needs no unit. -/
def parse (text : String) : Except DurationFault Duration :=
  let cs := Text.trimChars text.toList
  match cs with
  | [] => .error .empty
  | ['0'] => .ok zero
  | _ => read zero 0 .seek cs

/-- One item of a written duration, left out when the count is zero. -/
def item (count : Nat) (unit : String) : List String :=
  if count == 0 then [] else [toString count ++ unit]

/-- An item whose unit is spelled out and takes an `s` for more than one. -/
def spelledItem (count : Nat) (unit : String) : List String :=
  item count (if count == 1 then unit else unit ++ "s")

/-- The items of a written duration, largest unit first. -/
def items (d : Duration) : List String :=
  let inYear := d.seconds % 31557600
  let inMonth := inYear % 2630016
  let inDay := inMonth % 86400
  spelledItem (d.seconds / 31557600) "year" ++
  spelledItem (inYear / 2630016) "month" ++
  spelledItem (inMonth / 86400) "day" ++
  item (inDay / 3600) "h" ++
  item (inDay % 3600 / 60) "m" ++
  item (inDay % 60) "s" ++
  item (d.subsec / 1000000) "ms" ++
  item (d.subsec / 1000 % 1000) "us" ++
  item (d.subsec % 1000) "ns"

/-- The written form of a duration. -/
def text (d : Duration) : String :=
  if d.isZero then "0s" else " ".intercalate d.items

end Duration

end Vigil
