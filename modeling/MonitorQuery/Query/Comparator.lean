import MonitorQuery.Query.Vocabulary

/-!
The comparators of a restriction.

Eight of them compare an attribute with a value; `null` and `notNull` ask whether it has one.
-/

namespace MonitorQuery.Query

/-- How a restriction compares an attribute with its value. -/
inductive Comparator
  | eq | ne | ilike | like | gt | lt | ge | le | null | notNull
  deriving DecidableEq, Repr

namespace Comparator

/-- Every comparator, in the order of its number. -/
def all : List Comparator := [eq, ne, ilike, like, gt, lt, ge, le, null, notNull]

/-- The number of a comparator. -/
def id : Comparator → Nat
  | eq => 1
  | ne => 2
  | ilike => 3
  | like => 4
  | gt => 5
  | lt => 6
  | ge => 7
  | le => 8
  | null => 9
  | notNull => 10

/-- The written name of a comparator. -/
def label : Comparator → String
  | eq => "EQ"
  | ne => "NE"
  | ilike => "ILIKE"
  | like => "LIKE"
  | gt => "GT"
  | lt => "LT"
  | ge => "GE"
  | le => "LE"
  | null => "NULL"
  | notNull => "NOTNULL"

/-- The other names of a comparator. -/
def aliases : Comparator → List String
  | eq => ["=", "==", "eq"]
  | ne => ["!=", "<>", "ne"]
  | ilike => ["ilike"]
  | like => ["like", "~"]
  | gt => [">", "gt"]
  | lt => ["<", "lt"]
  | ge => [">=", "ge"]
  | le => ["<=", "le"]
  | null => ["null", "isnull", "is null"]
  | notNull => ["notnull", "isnotnull", "is not null"]

instance : Spelled Comparator := ⟨all, id, label, aliases⟩

/-- The comparators that ask whether an attribute has a value. -/
def isNullCheck : Comparator → Bool
  | null | notNull => true
  | _ => false

/-- The comparator that a token stands for. -/
def find (token : String) : Option Comparator := Spelled.find token

theorem mem_all (c : Comparator) : c ∈ all := by cases c <;> decide

end Comparator

end MonitorQuery.Query
