import MonitorQuery.Proofs.Request.Calls
import MonitorQuery.Request.Flat

/-!
The calls that write a flat request.

A filter that is accepted is a flat list of restrictions, and its request is written by one call for each of them, one for the
comparator in front of the first restriction that has a part in it, one for the limit and those for the sort keys.

* `leading`, `remaining`: the null checks before the first comparison, and what stands from there on.
* `filterCalls`: the calls for a filter.
* `Progress.add_eq_ok_iff`: **what one more clause can do**; `Progress.of_foldlM_add` follows by induction on the clauses,
  and from the first comparison on `Progress.of_foldlM_add_some`.
* `of_compile`: **an accepted filter is written by its calls.**
-/

namespace MonitorQuery.Request.Flat

open MonitorQuery.Query

/-- The restrictions of a list of clauses that stand in no group. -/
def restrictionsOf (cs : List Clause) : List Restriction :=
  cs.filterMap fun
    | .restriction _ r => some r
    | .group _ _ => none

lemma restrictionsOf_cons (op : Operator) (r : Restriction) (cs : List Clause) :
    restrictionsOf (.restriction op r :: cs) = r :: restrictionsOf cs := rfl

/-- The null checks before the first comparison. -/
def leading (rs : List Restriction) : List Restriction := rs.takeWhile (·.comparator.isNullCheck)

/-- The restrictions from the first comparison on. -/
def remaining (rs : List Restriction) : List Restriction := rs.dropWhile (·.comparator.isNullCheck)

lemma leading_append_remaining (rs : List Restriction) : leading rs ++ remaining rs = rs := List.takeWhile_append_dropWhile

/-- The call for a restriction. -/
def callOf (r : Restriction) : Params.Call := .append r.attr (textOf r)

/-- The call for the comparator of a restriction. -/
def comparatorCall (r : Restriction) : Params.Call := .set comparatorKey (Text.fold r.comparator.label)

/-- The calls for restrictions. The comparator is set once, just before the first comparison. -/
def restrictionCalls (rs : List Restriction) : List Params.Call :=
  (leading rs).map callOf ++ ((remaining rs).head?.map comparatorCall).toList ++ (remaining rs).map callOf

/-- The call for a limit. -/
def limitCalls (limit : Option Nat) : List Params.Call :=
  limit.toList.map fun n => .set limitKey (Decimal.renderNat n)

/-- The calls for a filter. -/
def filterCalls (f : Filter) : List Params.Call :=
  limitCalls f.limit ++ restrictionCalls (restrictionsOf f.clauses) ++ sortCalls f.sortKeys

lemma restrictionCalls_cons_nullCheck {r : Restriction} (h : r.comparator.isNullCheck = true) (rs : List Restriction) :
    restrictionCalls (r :: rs) = callOf r :: restrictionCalls rs := by
  simp [restrictionCalls, leading, remaining, h]

lemma restrictionCalls_cons_comparison {r : Restriction} (h : r.comparator.isNullCheck = false) (rs : List Restriction) :
    restrictionCalls (r :: rs) = comparatorCall r :: (r :: rs).map callOf := by
  simp [restrictionCalls, leading, remaining, h]

namespace Progress

variable {p q : Progress}

/-- What a comparator can do: a null check has no part in the request, the first other comparator is set, and all others are
the same as that one. -/
lemma share_eq_ok_iff {c : Comparator} :
    p.share c = .ok q ↔ (c.isNullCheck = true ∧ q = p)
      ∨ (c.isNullCheck = false ∧ p.shared = none ∧ q = ⟨p.params.set comparatorKey (Text.fold c.label), some c⟩)
      ∨ (c.isNullCheck = false ∧ p.shared = some c ∧ q = p) := by
  rw [share]
  cases hnull : c.isNullCheck with
  | true => simp [eq_comm]
  | false =>
      cases hshared : p.shared with
      | none => simp [eq_comm]
      | some first =>
          by_cases hfirst : first = c
          · simp [hfirst, eq_comm]
          · simp [hfirst]

/-- **What one more clause can do.** It is a restriction joined by OR, its attribute is not blank, and its comparator goes with
those before it. -/
lemma add_eq_ok_iff {c : Clause} :
    p.add c = .ok q ↔ ∃ r s, c = .restriction .or r ∧ checkAttr r = .ok () ∧ p.share r.comparator = .ok s
      ∧ q = ⟨s.params.perform (callOf r), s.shared⟩ := by
  cases c with
  | group op cs => simp [add]
  | restriction op r =>
      cases op with
      | and => simp [add]
      | or =>
          cases hattr : checkAttr r with
          | error e => simp [add, hattr]
          | ok u =>
              cases hshare : p.share r.comparator with
              | error e => simp [add, hattr, hshare]
              | ok s => simp [add, hattr, hshare, Params.perform, callOf, eq_comm]

lemma foldlM_add_cons_eq_ok_iff {c : Clause} {cs : List Clause} :
    (c :: cs).foldlM add p = .ok q ↔ ∃ r s, c = .restriction .or r ∧ checkAttr r = .ok () ∧ p.share r.comparator = .ok s
      ∧ cs.foldlM add ⟨s.params.perform (callOf r), s.shared⟩ = .ok q := by
  rw [List.foldlM_cons, bind_eq_ok]
  constructor
  · rintro ⟨p', hadd, h⟩
    obtain ⟨r, s, hc, hattr, hshare, rfl⟩ := add_eq_ok_iff.mp hadd
    exact ⟨r, s, hc, hattr, hshare, h⟩
  · rintro ⟨r, s, hc, hattr, hshare, h⟩
    exact ⟨_, add_eq_ok_iff.mpr ⟨r, s, hc, hattr, hshare, rfl⟩, h⟩

/-- Clauses that are accepted are restrictions joined by OR. -/
lemma eq_map_of_foldlM_add {cs : List Clause} (h : cs.foldlM add p = .ok q) :
    cs = (restrictionsOf cs).map (.restriction .or) := by
  induction cs generalizing p with
  | nil => rfl
  | cons c cs ih =>
      obtain ⟨r, s, rfl, -, -, hrest⟩ := foldlM_add_cons_eq_ok_iff.mp h
      rw [restrictionsOf_cons, List.map_cons, ← ih hrest]

/-- Once the comparator is set, every clause is one call. -/
lemma of_foldlM_add_some {cs : List Clause} {first : Comparator} (hshared : p.shared = some first)
    (h : cs.foldlM add p = .ok q) :
    q.params = ((restrictionsOf cs).map callOf).foldl Params.perform p.params := by
  induction cs generalizing p with
  | nil =>
      rw [← Except.ok.inj h]
      rfl
  | cons c cs ih =>
      obtain ⟨r, s, rfl, -, hshare, hrest⟩ := foldlM_add_cons_eq_ok_iff.mp h
      have hs : s = p := by
        obtain ⟨-, hs⟩ | ⟨-, hnone, -⟩ | ⟨-, -, hs⟩ := share_eq_ok_iff.mp hshare
        · exact hs
        · rw [hshared] at hnone
          cases hnone
        · exact hs
      rw [hs] at hrest
      exact ih (p := ⟨p.params.perform (callOf r), p.shared⟩) hshared hrest

/-- **The clauses of a filter are written by the calls for its restrictions.** Up to the first comparison every clause is one
call; that one sets the comparator. -/
lemma of_foldlM_add {cs : List Clause} (hshared : p.shared = none) (h : cs.foldlM add p = .ok q) :
    q.params = (restrictionCalls (restrictionsOf cs)).foldl Params.perform p.params := by
  induction cs generalizing p with
  | nil =>
      rw [← Except.ok.inj h]
      rfl
  | cons c cs ih =>
      obtain ⟨r, s, rfl, -, hshare, hrest⟩ := foldlM_add_cons_eq_ok_iff.mp h
      rw [restrictionsOf_cons]
      obtain ⟨hnull, rfl⟩ | ⟨hnull, -, rfl⟩ | ⟨-, hsome, -⟩ := share_eq_ok_iff.mp hshare
      · rw [restrictionCalls_cons_nullCheck hnull]
        exact ih (p := ⟨s.params.perform (callOf r), s.shared⟩) hshared hrest
      · rw [restrictionCalls_cons_comparison hnull]
        exact of_foldlM_add_some rfl hrest
      · rw [hshared] at hsome
        cases hsome

end Progress

lemma params_start (limit : Option Nat) : (start limit).params = (limitCalls limit).foldl Params.perform .empty := by
  cases limit <;> rfl

/-- **An accepted filter is a flat list of alternatives, and is written by its calls.** -/
theorem of_compile {f : Filter} {p : Params} (h : compile f = .ok p) :
    f.clauses = (restrictionsOf f.clauses).map (.restriction .or) ∧ p = (filterCalls f).foldl Params.perform .empty := by
  rw [compile, bind_eq_ok] at h
  obtain ⟨q, hclauses, hsort⟩ := h
  refine ⟨Progress.eq_map_of_foldlM_add hclauses, ?_⟩
  rw [of_addSortKeys hsort, Progress.of_foldlM_add rfl hclauses, params_start, filterCalls, List.foldl_append,
    List.foldl_append]

end MonitorQuery.Request.Flat
