import MonitorQuery.Json.Value

/-!
The members of a JSON object, by their names.

An object may name a member twice. Whoever looks for a member is told so (`occurrence`), and neither `required` nor
`optional` takes one of the two for the other. A null is a value as any other and stands in for no missing member.
-/

namespace MonitorQuery.Json

/-- How a member of an object occurs. -/
inductive Occurrence
  | absent
  | once (v : Value)
  | repeated

/-- How the member with a name occurs. -/
def occurrence (name : String) (members : List (String × Value)) : Occurrence :=
  match members.filter fun m => m.1 == name with
  | [] => .absent
  | [m] => .once m.2
  | _ => .repeated

/-- Reads the member with a name, which must occur once. -/
def required {α : Type} (read : Value → Option α) (name : String) (members : List (String × Value)) :
    Option α :=
  match occurrence name members with
  | .once v => read v
  | _ => none

/-- Reads the member with a name, which may be left out. -/
def optional {α : Type} (read : Value → Option α) (missing : α) (name : String)
    (members : List (String × Value)) : Option α :=
  match occurrence name members with
  | .absent => some missing
  | .once v => read v
  | .repeated => none

namespace Value

/-- Reads a text. -/
def asText? : Value → Option String
  | .string s => some s
  | _ => none

/-- Reads a truth value. -/
def asTruth? : Value → Option Bool
  | .truth b => some b
  | _ => none

end Value

end MonitorQuery.Json
