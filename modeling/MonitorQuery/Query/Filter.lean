import MonitorQuery.Query.Comparator
import MonitorQuery.Query.Operator
import MonitorQuery.Query.Order
import MonitorQuery.Query.Value

/-!
Filters: restrictions, groups of them, and what joins them.

A clause is a restriction or a group of clauses, with the operator that joins it to everything before it
in the same list; the operator of a first clause joins nothing. A filter adds a limit and sort keys. Nothing
is checked here: what a server can be asked depends on its interface.
-/

namespace MonitorQuery.Query

/-- A predicate on one attribute. -/
structure Restriction where
  attr : String
  comparator : Comparator
  value : Option Value
  deriving DecidableEq, Repr

/-- A restriction or a group, with the operator that joins it to what stands before it. -/
inductive Clause
  | restriction (operator : Operator) (r : Restriction)
  | group (operator : Operator) (clauses : List Clause)
  deriving Repr

namespace Clause

/-- The operator that joins a clause to what stands before it. -/
def operator : Clause → Operator
  | restriction op _ => op
  | group op _ => op

end Clause

/-- The limit of a filter for which nobody chose one. -/
def defaultLimit : Nat := 1000

/-- A query: its limit, if any, its clauses and its sort keys. -/
structure Filter where
  limit : Option Nat := some defaultLimit
  clauses : List Clause := []
  sortKeys : List SortKey := []

namespace Filter

/-- A filter without clauses asks for everything. -/
def isEmpty (f : Filter) : Bool := f.clauses.isEmpty

end Filter

end MonitorQuery.Query
