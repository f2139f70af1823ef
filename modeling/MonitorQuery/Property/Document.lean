import MonitorQuery.Json.Member
import MonitorQuery.Json.Reader
import MonitorQuery.Json.Writer
import MonitorQuery.Property.Basic

/-!
Documents of searchable properties, as the servers send them.

A document is an array of properties, or an object with the array under `searchProperty` and anything else beside
it. A property is an object, in which unknown members are passed over, or an array of its parts in
their order. Reading tells three failures apart: a text that ends too early, one that is no JSON, and JSON of the wrong
shape. The value is read to its end before its shape is looked at, and what stands behind it after that.
-/

namespace MonitorQuery

open MonitorQuery.Json

/-- Why a text is no document of properties. -/
inductive DocumentError
  | ended | malformed | misshapen
  deriving DecidableEq, Repr

/-- The failure that a fault of the text amounts to. -/
def DocumentError.ofFault : Json.Fault → DocumentError
  | .ended => ended
  | .malformed => malformed

namespace PropertyType

/-- Reads a type: its name, or an object with that name over a null. -/
def ofJson? : Json.Value → Option PropertyType
  | .string name => ofLabel? name
  | .object [(name, .null)] => ofLabel? name
  | _ => none

end PropertyType

namespace Property

/-- Gives a value a label. A value that has one keeps its place. -/
def setLabel (value label : String) : List (String × String) → List (String × String)
  | [] => [(value, label)]
  | (v, l) :: rest => if v = value then (v, label) :: rest else (v, l) :: setLabel value label rest

/-- Reads the allowed values, adding them to others. -/
def addValues? (values : List (String × String)) : List (String × Json.Value) → Option (List (String × String))
  | [] => some values
  | (value, .string label) :: members => addValues? (setLabel value label values) members
  | _ => none

/-- Reads the allowed values. -/
def valuesOfJson? : Json.Value → Option (List (String × String))
  | .object members => addValues? [] members
  | _ => none

/-- Reads a property from the members of an object. -/
def ofMembers? (members : List (String × Json.Value)) : Option Property := do
  let id ← required Value.asText? "id" members
  let name ← required Value.asText? "name" members
  let sortable ← optional Value.asTruth? false "orderBy" members
  let type ← required PropertyType.ofJson? "type" members
  let values ← optional valuesOfJson? [] "values" members
  some ⟨id, name, sortable, type, values⟩

/-- Reads a property from its parts in order, the allowed values given separately. -/
def ofParts? (id name sortable type : Json.Value) (values : Option (List (String × String))) : Option Property := do
  let id ← Value.asText? id
  let name ← Value.asText? name
  let sortable ← Value.asTruth? sortable
  let type ← PropertyType.ofJson? type
  let values ← values
  some ⟨id, name, sortable, type, values⟩

/-- Reads a property. -/
def ofJson? : Json.Value → Option Property
  | .object members => ofMembers? members
  | .array [id, name, sortable, type] => ofParts? id name sortable type (some [])
  | .array [id, name, sortable, type, values] => ofParts? id name sortable type (valuesOfJson? values)
  | _ => none

/-- Reads the properties of an array. -/
def listOfJson? : Json.Value → Option (List Property)
  | .array items => items.mapM ofJson?
  | _ => none

/-- Reads the properties of a document. -/
def documentOfJson? : Json.Value → Option (List Property)
  | .object members => required listOfJson? "searchProperty" members
  | v => listOfJson? v

/-- Reads the properties of the text of a document. -/
def ofDocument (text : String) : Except DocumentError (List Property) :=
  match Json.Value.leading text with
  | .error fault => .error (.ofFault fault)
  | .ok (v, alone) =>
    match documentOfJson? v with
    | none => .error .misshapen
    | some properties => if alone then .ok properties else .error .malformed

/-- The allowed values as an object. -/
def valuesToJson (values : List (String × String)) : Json.Value :=
  .object (values.map fun (value, label) => (value, .string label))

/-- A property as an object, without the allowed values if there are none. -/
def toJson (p : Property) : Json.Value :=
  .object ([("id", .string p.id), ("name", .string p.name), ("orderBy", .truth p.sortable),
      ("type", .string p.type.label)] ++
    if p.values.isEmpty then [] else [("values", valuesToJson p.values)])

end Property

end MonitorQuery
