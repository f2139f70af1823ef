import MonitorQuery.Query.Filter

/-!
The clauses of a filter at any depth.

* `Clause.nodes`, `nodesOf`: a clause with those in it, and all clauses of a list, from left to right. A group stands before
  what is in it.
-/

namespace MonitorQuery.Query

mutual

/-- A clause, and behind it the clauses in it from left to right. -/
def Clause.nodes : Clause → List Clause
  | .restriction op r => [.restriction op r]
  | .group op cs => .group op cs :: nodesOf cs

/-- The clauses of a list at any depth, from left to right, a group before what is in it. -/
def nodesOf : List Clause → List Clause
  | [] => []
  | c :: cs => c.nodes ++ nodesOf cs

end

theorem nodesOf_append (cs ds : List Clause) : nodesOf (cs ++ ds) = nodesOf cs ++ nodesOf ds := by
  induction cs with
  | nil => rfl
  | cons c cs ih => rw [List.cons_append, nodesOf, nodesOf, ih, List.append_assoc]

/-- A clause of a list is one of its nodes. -/
theorem mem_nodesOf {c : Clause} {cs : List Clause} (h : c ∈ cs) : c ∈ nodesOf cs := by
  induction cs with
  | nil => cases h
  | cons d cs ih =>
      rw [nodesOf, List.mem_append]
      obtain rfl | h := List.mem_cons.mp h
      · refine Or.inl ?_
        cases c with
        | restriction op r => exact List.mem_singleton_self _
        | group op ds => exact List.mem_cons_self
      · exact Or.inr (ih h)

end MonitorQuery.Query
