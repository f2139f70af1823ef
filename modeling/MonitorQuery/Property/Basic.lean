import MonitorQuery.Query.Comparator

/-!
Searchable properties: the attributes that the servers let a filter restrict, with their types.

The type of an attribute says which comparators it takes and which placeholder stands for its null.
-/

namespace MonitorQuery

open MonitorQuery.Query

/-- The type of a searchable property. -/
inductive PropertyType
  | string | integer | float | long | ipAddress | timestamp
  deriving DecidableEq, Repr

namespace PropertyType

/-- Every type. -/
def all : List PropertyType := [string, integer, float, long, ipAddress, timestamp]

/-- The name of a type in documents and listings. -/
def label : PropertyType → String
  | string => "STRING"
  | integer => "INTEGER"
  | float => "FLOAT"
  | long => "LONG"
  | ipAddress => "IP_ADDRESS"
  | timestamp => "TIMESTAMP"

/-- The type with a name. -/
def ofLabel? (name : String) : Option PropertyType := all.find? fun t => t.label == name

/-- The comparators that the servers accept for a type. -/
def comparators : PropertyType → List Comparator
  | string => [.eq, .ne, .ilike, .like, .null, .notNull]
  | integer | float | long | timestamp => [.eq, .ne, .gt, .lt, .ge, .le, .null, .notNull]
  | ipAddress => [.eq, .ne, .like, .null, .notNull]

end PropertyType

/-- An attribute that a filter may restrict. -/
structure Property where
  /-- The name of the attribute in restrictions. -/
  id : String
  /-- The name shown to people. -/
  name : String
  /-- Results may be sorted by it. -/
  sortable : Bool
  type : PropertyType
  /-- The values that the server allows, each with its label; none if any value will do. -/
  values : List (String × String)
  deriving DecidableEq, Repr

namespace Property

/-- The first property with an id. -/
def find? (properties : List Property) (id : String) : Option Property :=
  properties.find? fun p => p.id == id

/-- The comparators that the property takes. -/
def comparators (p : Property) : List Comparator := p.type.comparators

/-- The property takes the comparator. -/
def supports (p : Property) (c : Comparator) : Bool := p.comparators.contains c

end Property

end MonitorQuery
