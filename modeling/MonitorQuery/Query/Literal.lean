import MonitorQuery.Query.Value

/-!
The value that a token writes.

A severity label is one only on an attribute of severities. Then come integers of 64 bits, floating-point
numbers with a point among their digits, and timestamps. Everything else is a text, taken as it is, so a
number too long for an integer keeps all its digits.
-/

namespace MonitorQuery.Query

open MonitorQuery.Decimal MonitorQuery.Calendar

/-- The attribute `severity`, up to case, or one of a related resource. -/
def isSeverityAttr (attr : String) : Bool :=
  Text.sameFolded attr "severity" || ".severity".toList.isSuffixOf attr.toList

namespace Value

/-- The integer that a token writes. -/
def integerOf? (raw : String) : Option Int := integerIn? .signed64 raw.toList

/-- The severity that a token names. A number names none, blanks around it or not, unless it is no integer
as it stands. -/
def severityOf? (attr raw : String) : Option Severity :=
  if isSeverityAttr attr && (integerOf? raw).isNone then Severity.find raw else none

/-- The floating-point number that a token with a point writes. -/
def floatOf? (raw : String) : Option Binary64 :=
  if raw.toList.contains '.' then Binary64.ofText? raw else none

/-- The value that a token writes for an attribute. -/
def ofToken (attr raw : String) : Value :=
  match severityOf? attr raw with
  | some s => enumerated s.toEnumerated
  | none =>
    match integerOf? raw with
    | some n => integer n
    | none =>
      match floatOf? raw with
      | some x => float x
      | none =>
        match Timestamp.ofText? raw with
        | some t => date t
        | none => text raw

end Value

end MonitorQuery.Query
