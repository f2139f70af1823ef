/-!
JSON values as they are written.

A number is kept as its text and an object as its members in order, names that repeat included: what
a number or a repeated name means is a matter of who reads the value.
-/

namespace MonitorQuery.Json

/-- A JSON value. -/
inductive Value
  | null
  | truth (b : Bool)
  | number (text : String)
  | string (s : String)
  | array (items : List Value)
  | object (members : List (String × Value))
  deriving Repr

end MonitorQuery.Json
