import MonitorQuery.Text.Blank

/-!
The two query interfaces of the servers.

The first takes flat parameters, the second one FIQL search expression.
-/

namespace MonitorQuery.Server

/-- A generation of the query interface. -/
inductive Api
  | v1 | v2
  deriving DecidableEq, Repr

namespace Api

/-- The number of a generation. -/
def number : Api → Nat
  | v1 => 1
  | v2 => 2

/-- The name of a generation. -/
def label : Api → String
  | v1 => "v1"
  | v2 => "v2"

/-- The part of a text that should be the number of a generation: without blanks around it and without
any `v` in front. -/
def numberPart (s : String) : String :=
  String.ofList ((Text.trimChars s.toList).dropWhile fun c => c == 'v' || c == 'V')

/-- Reads a generation by its number or name. -/
def ofText? (s : String) : Option Api :=
  let n := numberPart s
  if n = "1" then some v1 else if n = "2" then some v2 else none

end Api

end MonitorQuery.Server
