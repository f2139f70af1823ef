import MonitorQuery.Calendar.Day
import MonitorQuery.Decimal.Integer

/-!
Instants of time, the clock a zone shows at them, and their two texts.

An instant is a count of seconds since 1970-01-01 in UTC and a count of nanoseconds within the second; a
leap second is the second before it with a thousand million nanoseconds more. A timestamp is an instant
seen from a zone at a fixed offset.

`Timestamp.ofText?` reads the RFC 3339 form: a year of four digits, `T`, `t` or a space before the clock, a
second up to 60, any number of digits of a fraction of which nine count, and a zone `Z`, `z` or
`±hh:mm`. `Instant.render` writes the form that the servers take: UTC, milliseconds, `+0000`. It drops
the zone, so timestamps of one instant have one text (`Timestamp.render_eq_of_instant_eq`).
-/

namespace MonitorQuery.Calendar

open MonitorQuery.Decimal

/-- A point in time. -/
structure Instant where
  seconds : Int
  nanos : Nat
  deriving DecidableEq, Repr

/-- An instant seen from a zone so many seconds east of UTC. -/
structure Timestamp where
  instant : Instant
  offset : Int
  deriving DecidableEq, Repr

/-- What a clock and a calendar show together. -/
structure Clock where
  date : Date
  hour : Nat
  minute : Nat
  second : Nat
  nanos : Nat
  deriving DecidableEq, Repr

/-- The seconds of a day. -/
def secondsPerDay : Int := 86400

/-- The nanoseconds of a second. -/
def nanosPerSecond : Nat := 1000000000

namespace Instant

/-- What a clock in UTC shows at an instant. A leap second is shown as one more than its second. -/
def clock (i : Instant) : Clock :=
  let secondOfDay := (i.seconds % secondsPerDay).toNat
  { date := Date.ofDay (i.seconds / secondsPerDay)
    hour := secondOfDay / 3600
    minute := secondOfDay / 60 % 60
    second := secondOfDay % 60 + i.nanos / nanosPerSecond
    nanos := i.nanos % nanosPerSecond }

/-- A year as the servers take it: four digits, and a sign when that is not enough. -/
def yearText (year : Int) : List Char :=
  if 9999 < year then '+' :: padded 4 year.toNat
  else if year < 0 then '-' :: padded 4 (-year).toNat
  else padded 4 year.toNat

/-- The characters of an instant in the form `YYYY-MM-DDTHH:MM:SS.mmm+0000`. -/
def toChars (i : Instant) : List Char :=
  let c := i.clock
  yearText c.date.year ++ '-' :: padded 2 c.date.month ++ '-' :: padded 2 c.date.day ++
    'T' :: padded 2 c.hour ++ ':' :: padded 2 c.minute ++ ':' :: padded 2 c.second ++
    '.' :: padded 3 (c.nanos / 1000000) ++ ['+', '0', '0', '0', '0']

/-- An instant in the form that the servers take, in UTC and to the millisecond. -/
def render (i : Instant) : String := String.ofList i.toChars

end Instant

namespace Clock

/-- The instant at which a clock at an offset shows this. The sixtieth second is a leap second. -/
def toInstant (c : Clock) (offset : Int) : Instant :=
  let leap := if c.second = 60 then 1 else 0
  let shown := c.date.toDay * secondsPerDay + (c.hour * 3600 + c.minute * 60 + (c.second - leap) : Nat)
  ⟨shown - offset, c.nanos + leap * nanosPerSecond⟩

/-- A date of the calendar and a time of the day, the leap second included. -/
def isValid (c : Clock) : Bool := c.date.isValid && c.hour ≤ 23 && c.minute ≤ 59 && c.second ≤ 60

end Clock

/-- Takes exactly `n` digits off the front of a text. -/
def digits? (n : Nat) (cs : List Char) : Option (Nat × List Char) :=
  let front := cs.take n
  if front.length = n && front.all Char.isDigit then some (ofDigits front, cs.drop n) else none

/-- Takes one character with a property off the front of a text. -/
def skip? (p : Char → Bool) : List Char → Option (List Char)
  | [] => none
  | c :: cs => if p c then some cs else none

/-- Takes a fraction of a second off the front of a text, in nanoseconds. A point needs a digit behind it. -/
def fraction? : List Char → Option (Nat × List Char)
  | '.' :: cs =>
    let digits := cs.takeWhile Char.isDigit
    if digits.isEmpty then none
    else
      let nine := digits.take 9
      some (ofDigits (nine ++ List.replicate (9 - nine.length) '0'), cs.dropWhile Char.isDigit)
  | cs => some (0, cs)

/-- The minus signs that a zone may have. -/
def isMinus (c : Char) : Bool := c == '-' || c == '\u2212'

/-- Reads a zone that ends a text, in seconds east of UTC. -/
def zone? : List Char → Option Int
  | ['Z'] | ['z'] => some 0
  | sign :: cs =>
    if sign == '+' || isMinus sign then do
      let (hours, cs) ← digits? 2 cs
      let cs ← skip? (· == ':') cs
      let (minutes, cs) ← digits? 2 cs
      if cs.isEmpty && hours ≤ 23 && minutes ≤ 59 then
        let seconds : Int := (hours * 3600 + minutes * 60 : Nat)
        some (if isMinus sign then -seconds else seconds)
      else none
    else none
  | [] => none

namespace Timestamp

/-- Reads a timestamp in the form of RFC 3339. -/
def ofChars? (cs : List Char) : Option Timestamp := do
  let (year, cs) ← digits? 4 cs
  let cs ← skip? (· == '-') cs
  let (month, cs) ← digits? 2 cs
  let cs ← skip? (· == '-') cs
  let (day, cs) ← digits? 2 cs
  let cs ← skip? (fun c => c == 'T' || c == 't' || c == ' ') cs
  let (hour, cs) ← digits? 2 cs
  let cs ← skip? (· == ':') cs
  let (minute, cs) ← digits? 2 cs
  let cs ← skip? (· == ':') cs
  let (second, cs) ← digits? 2 cs
  let (nanos, cs) ← fraction? cs
  let offset ← zone? cs
  let clock : Clock := ⟨⟨year, month, day⟩, hour, minute, second, nanos⟩
  if clock.isValid then some ⟨clock.toInstant offset, offset⟩ else none

/-- Reads a timestamp in the form of RFC 3339. -/
def ofText? (s : String) : Option Timestamp := ofChars? s.toList

/-- A timestamp in the form that the servers take. -/
def render (t : Timestamp) : String := t.instant.render

/-- The zone does not show in the text. -/
theorem render_eq_of_instant_eq {s t : Timestamp} (h : s.instant = t.instant) :
    s.render = t.render := by
  simp [render, h]

end Timestamp

end MonitorQuery.Calendar
