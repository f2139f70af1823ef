import MonitorQuery.Decimal.Integer
import MonitorQuery.Text.Blank
import MonitorQuery.Text.Fold

/-!
Severities, and the enumerated values that they are an instance of.

The servers know an enumerated value by a number, people and the older interface by a label, so both
are kept. A severity is found by its number or by its label.
-/

namespace MonitorQuery.Query

/-- A value of a closed list on the server: its number there and its label. -/
structure Enumerated where
  id : Int
  label : String
  deriving DecidableEq, Repr

/-- The severities of alarms and events. -/
inductive Severity
  | indeterminate | cleared | normal | warning | minor | major | critical
  deriving DecidableEq, Repr

namespace Severity

/-- Every severity, from the least to the greatest. -/
def all : List Severity := [indeterminate, cleared, normal, warning, minor, major, critical]

/-- The number of a severity on the server. -/
def id : Severity → Int
  | indeterminate => 1
  | cleared => 2
  | normal => 3
  | warning => 4
  | minor => 5
  | major => 6
  | critical => 7

/-- The label of a severity. -/
def label : Severity → String
  | indeterminate => "INDETERMINATE"
  | cleared => "CLEARED"
  | normal => "NORMAL"
  | warning => "WARNING"
  | minor => "MINOR"
  | major => "MAJOR"
  | critical => "CRITICAL"

/-- A severity as an enumerated value. -/
def toEnumerated (s : Severity) : Enumerated := ⟨s.id, s.label⟩

/-- The severity with a number. -/
def ofId? (n : Int) : Option Severity := all.find? fun s => s.id == n

/-- The severity with a label, up to the case of ASCII letters. -/
def ofLabel? (name : String) : Option Severity := all.find? fun s => Text.sameFolded s.label name

/-- The severity that a token names by number or by label, blanks around it aside. A number of 32 bits is
taken as a number even when no severity has it. -/
def find (token : String) : Option Severity :=
  let trimmed := Text.trim token
  match Decimal.integerIn? .signed32 trimmed.toList with
  | some n => ofId? n
  | none => ofLabel? trimmed

end Severity

end MonitorQuery.Query
