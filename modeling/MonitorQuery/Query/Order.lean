import MonitorQuery.Query.Vocabulary

/-!
Sort directions and sort keys.
-/

namespace MonitorQuery.Query

/-- A sort direction. -/
inductive Order
  | ascending | descending
  deriving DecidableEq, Repr

namespace Order

/-- Both directions, in the order of their numbers. -/
def all : List Order := [ascending, descending]

/-- The number of a direction. -/
def id : Order → Nat
  | ascending => 1
  | descending => 2

/-- The written name of a direction. -/
def label : Order → String
  | ascending => "ASC"
  | descending => "DESC"

/-- The other names of a direction. -/
def aliases : Order → List String
  | ascending => ["asc", "ascending"]
  | descending => ["desc", "descending"]

instance : Spelled Order := ⟨all, id, label, aliases⟩

instance : Inhabited Order := ⟨ascending⟩

/-- The direction that a token stands for. -/
def find (token : String) : Option Order := Spelled.find token

end Order

/-- An attribute to sort by, and the direction. -/
structure SortKey where
  attr : String
  order : Order
  deriving DecidableEq, Repr

end MonitorQuery.Query
