import MonitorQuery.Proofs.Fiql.Tree
import MonitorQuery.Proofs.Query.Nodes
import MonitorQuery.Proofs.Request.Directions

/-!
What a search expression cannot say.

A clause may be at fault by itself: a group with nothing in it, a restriction on a blank attribute, or one by ILIKE. The
compiler goes through the tree from left to right and rejects a filter for the first clause at fault; only then come the
sort keys.

* `offence?`: what is wrong with a clause by itself.
* `failure?_term`, `failure?_followers`: **the compiler fails on the first clause at fault**, by induction over the tree.
* `Askable`: the clauses without a fault (`askable_iff`).
* `accepts_iff_and_rejects_first_fault`: **which filters are rejected, and for what.**
-/

namespace MonitorQuery.Query

mutual

/-- The restrictions of a clause are those among its nodes. -/
lemma Clause.mem_restrictions_iff {r : Restriction} :
    ∀ {c : Clause}, r ∈ c.restrictions ↔ ∃ op, Clause.restriction op r ∈ c.nodes
  | .restriction op s => by simp [Clause.restrictions, Clause.nodes]
  | .group op cs => by
      rw [Clause.restrictions, mem_restrictionsOf_iff]
      simp [Clause.nodes]

/-- The restrictions of a list are those among its nodes. -/
lemma mem_restrictionsOf_iff {r : Restriction} :
    ∀ {cs : List Clause}, r ∈ restrictionsOf cs ↔ ∃ op, Clause.restriction op r ∈ nodesOf cs
  | [] => by simp [restrictionsOf, nodesOf]
  | c :: cs => by
      rw [restrictionsOf, nodesOf, List.mem_append, Clause.mem_restrictions_iff, mem_restrictionsOf_iff,
        ← exists_or]
      simp only [List.mem_append]

end

end MonitorQuery.Query

namespace MonitorQuery.Request.Fiql

open MonitorQuery.Query

/-! ### Clauses at fault -/

/-- What is wrong with a clause, those in it aside. -/
def offence? : Clause → Option Rejection
  | .restriction _ r =>
    if Text.isBlankText r.attr then some (.blankAttr r.comparator)
    else if r.comparator = .ilike then some .ilike
    else none
  | .group _ [] => some .emptyGroup
  | .group _ (_ :: _) => none

/-- Nothing is wrong with the clauses: no group is empty, no attribute is blank, and no comparison is by ILIKE. -/
structure Askable (cs : List Clause) : Prop where
  group_ne_nil : ∀ op, Clause.group op [] ∉ nodesOf cs
  attr_not_blank : ∀ r ∈ restrictionsOf cs, Text.isBlankText r.attr = false
  ne_ilike : ∀ r ∈ restrictionsOf cs, r.comparator ≠ .ilike

/-- The sort of reason for which a clause at fault is rejected. On a blank attribute a restriction is invalid whatever its
comparator; for the rest the interface has no form. -/
def faultKind : Clause → Rejection.Kind
  | .restriction _ r => if Text.isBlankText r.attr then .invalid else .unsupported
  | .group _ _ => .unsupported

lemma kind_of_offence? {c : Clause} {e : Rejection} (h : offence? c = some e) : e.kind = faultKind c := by
  match c with
  | .restriction op r =>
      rw [offence?] at h
      rw [faultKind]
      split_ifs at h ⊢ <;> cases h <;> rfl
  | .group op [] =>
      cases h
      rfl
  | .group op (d :: ds) => cases h

lemma offence?_restriction_eq_none_iff {op : Operator} {r : Restriction} :
    offence? (.restriction op r) = none ↔ Text.isBlankText r.attr = false ∧ r.comparator ≠ .ilike := by
  rw [offence?]
  cases Text.isBlankText r.attr with
  | true => simp
  | false => by_cases h : r.comparator = .ilike <;> simp [h]

/-- **Clauses can be asked if none of their nodes is at fault.** -/
lemma askable_iff {cs : List Clause} : Askable cs ↔ (nodesOf cs).findSome? offence? = none := by
  rw [List.findSome?_eq_none_iff]
  constructor
  · intro h c hc
    match c with
    | .restriction op r =>
        have hr : r ∈ restrictionsOf cs := mem_restrictionsOf_iff.mpr ⟨op, hc⟩
        exact offence?_restriction_eq_none_iff.mpr ⟨h.attr_not_blank r hr, h.ne_ilike r hr⟩
    | .group op [] => exact absurd hc (h.group_ne_nil op)
    | .group op (d :: ds) => rfl
  · intro h
    have hleaf : ∀ r ∈ restrictionsOf cs, Text.isBlankText r.attr = false ∧ r.comparator ≠ .ilike := by
      intro r hr
      obtain ⟨op, hmem⟩ := mem_restrictionsOf_iff.mp hr
      exact offence?_restriction_eq_none_iff.mp (h _ hmem)
    refine ⟨fun op hmem => ?_, fun r hr => (hleaf r hr).1, fun r hr => (hleaf r hr).2⟩
    cases h _ hmem

/-! ### Where the compiler fails -/

section Compiler

variable (properties : List Property)

/-- A restriction without a term is at fault, for the reason that the compiler gives. -/
lemma failure?_restrictionTerm (op : Operator) (r : Restriction) :
    failure? (restrictionTerm properties r) = offence? (.restriction op r) := by
  obtain ⟨attr, c, value⟩ := r
  rw [restrictionTerm, checkAttr, offence?]
  cases Text.isBlankText attr with
  | true => rfl
  | false => cases c <;> rfl

mutual

/-- **The compiler fails on the first node of a clause that is at fault.** -/
lemma failure?_term : ∀ c : Clause, failure? (term properties c) = c.nodes.findSome? offence?
  | .restriction op r => by
      rw [term, failure?_restrictionTerm properties op r, Clause.nodes]
      cases h : offence? (.restriction op r) <;> simp [h]
  | .group op [] => by
      rw [term, Clause.nodes, List.findSome?_cons]
      rfl
  | .group op (c :: cs) => by
      -- the group itself has something in it, so its first fault is the first fault in it
      rw [term, Clause.nodes, List.findSome?_cons]
      change _ = (nodesOf (c :: cs)).findSome? offence?
      rw [nodesOf, List.findSome?_append, ← failure?_term c, ← failure?_followers cs]
      exact failure?_bind_bind_ok _ _ _

/-- The compiler fails on the first node of further clauses that is at fault. -/
lemma failure?_followers : ∀ cs : List Clause, failure? (followers properties cs) = (nodesOf cs).findSome? offence?
  | [] => rfl
  | c :: cs => by
      rw [followers, nodesOf, List.findSome?_append, ← failure?_term c, ← failure?_followers cs]
      exact failure?_bind_bind_ok _ _ _

end

lemma failure?_expression (cs : List Clause) :
    failure? (expression properties cs) = (nodesOf cs).findSome? offence? := by
  cases cs with
  | nil => rfl
  | cons c cs =>
      rw [expression, nodesOf, List.findSome?_append, ← failure?_term properties c, ← failure?_followers properties cs]
      exact failure?_bind_bind_ok _ _ _

/-- **A filter is rejected for its first clause at fault**, or else for its sort keys. -/
lemma failure?_compile (f : Filter) :
    failure? (compile properties f)
      = ((nodesOf f.clauses).findSome? offence?).or (failure? (addSortKeys .empty f.sortKeys)) := by
  rw [compile, ← failure?_expression properties]
  exact failure?_bind fun search => failure?_addSortKeys _ _ _

/-- **A filter is accepted** if nothing is wrong with its clauses and its sort keys have one direction. -/
lemma exists_compile_iff {f : Filter} :
    (∃ p, compile properties f = .ok p) ↔ Askable f.clauses ∧ OneDirection f.sortKeys := by
  rw [← failure?_eq_none_iff, failure?_compile, Option.or_eq_none_iff, askable_iff, failure?_addSortKeys_eq_none_iff]

/-- **Which filters the interface rejects, and for what.** A filter is accepted exactly if no group in it is empty, no attribute
blank and no comparison by ILIKE, at any depth, and all its sort keys have one direction. If not, the rejection is that of the
first clause at fault from left to right, a group before what is in it. Sort keys that go in two directions are told only if
nothing is wrong with the clauses: the first of them, and the first that differs. -/
theorem accepts_iff_and_rejects_first_fault (f : Filter) :
    ((∃ p, compile properties f = .ok p) ↔ Askable f.clauses ∧ OneDirection f.sortKeys)
      ∧ (∀ e, compile properties f = .error e ↔
          (∃ before c behind, nodesOf f.clauses = before ++ c :: behind ∧ (∀ b ∈ before, offence? b = none)
              ∧ offence? c = some e)
            ∨ Askable f.clauses ∧ ∃ first other, FirstMixed f.sortKeys first other ∧ e = .directions first other)
      ∧ (∀ c e, offence? c = some e → e.kind = faultKind c)
      ∧ ∀ first other, (Rejection.directions first other).kind = .inconsistent
          ∧ (Rejection.directions first other).message
              = "Inconsistent filter: mixed sort directions are not supported: " ++ Rejection.sortKeyText first
                  ++ " and " ++ Rejection.sortKeyText other := by
  refine ⟨exists_compile_iff properties, fun e => ?_, fun _ _ => kind_of_offence?,
    fun first other => ⟨rfl, message_directions first other⟩⟩
  rw [← failure?_eq_some_iff, failure?_compile, Option.or_eq_some_iff, ← askable_iff, failure?_addSortKeys_eq_some_iff,
    List.findSome?_eq_some_iff]
  refine or_congr ?_ Iff.rfl
  constructor
  · rintro ⟨before, c, behind, hnodes, hfault, hbefore⟩
    exact ⟨before, c, behind, hnodes, hbefore, hfault⟩
  · rintro ⟨before, c, behind, hnodes, hbefore, hfault⟩
    exact ⟨before, c, behind, hnodes, hfault, hbefore⟩

end Compiler

end MonitorQuery.Request.Fiql
