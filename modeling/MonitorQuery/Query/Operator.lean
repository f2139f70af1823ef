import MonitorQuery.Query.Vocabulary

/-!
The operators that join a clause to what stands before it, with their signs in a FIQL expression.
-/

namespace MonitorQuery.Query

/-- How a clause is joined to what stands before it. -/
inductive Operator
  | and | or
  deriving DecidableEq, Repr

namespace Operator

/-- Both operators, in the order of their numbers. -/
def all : List Operator := [and, or]

/-- The number of an operator. -/
def id : Operator → Nat
  | and => 1
  | or => 2

/-- The written name of an operator. -/
def label : Operator → String
  | and => "AND"
  | or => "OR"

/-- The other names of an operator. -/
def aliases : Operator → List String
  | and => ["&", "&&", ";"]
  | or => ["|", "||", ","]

instance : Spelled Operator := ⟨all, id, label, aliases⟩

/-- The sign between two terms of a FIQL expression. -/
def sign : Operator → Char
  | and => ';'
  | or => ','

/-- The operator that a token stands for. -/
def find (token : String) : Option Operator := Spelled.find token

end Operator

end MonitorQuery.Query
