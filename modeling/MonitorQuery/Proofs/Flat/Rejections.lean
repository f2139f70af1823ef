import MonitorQuery.Proofs.Flat.Calls
import MonitorQuery.Proofs.Request.Directions

/-!
What a flat request cannot say.

A flat request is a list of alternatives that share one comparator, null checks aside. Which comparator that is turns up at the
first comparison, so whether a clause fits depends on those before it.

* `comparators`: the comparators of restrictions, those of null checks left out.
* `Misfit`: why a clause does not go with those before it. `Progress.add_eq_error_iff` is one step.
* `IsFlat`: the clauses that a flat request can carry; `Progress.exists_foldlM_add_iff` by induction on the clauses.
* `exists_compile_iff`, `compile_eq_error_iff`: **the filters that are accepted**, and what decides about the others.
* `failure?_compile_nullCheck`: a null check has no say, wherever it stands.
* `accepts_iff_and_rejects_first_misfit`: **which filters are rejected, and for what.**
-/

namespace MonitorQuery.Request.Flat

open MonitorQuery.Query

/-! ### Clauses that do not fit -/

/-- The comparators of restrictions, null checks left out. -/
def comparators (rs : List Restriction) : List Comparator :=
  (rs.map (·.comparator)).filter fun c => !c.isNullCheck

lemma comparators_cons_nullCheck {r : Restriction} (h : r.comparator.isNullCheck = true) (rs : List Restriction) :
    comparators (r :: rs) = comparators rs := by
  simp [comparators, h]

lemma comparators_cons_comparison {r : Restriction} (h : r.comparator.isNullCheck = false) (rs : List Restriction) :
    comparators (r :: rs) = r.comparator :: comparators rs := by
  simp [comparators, h]

lemma mem_comparators {rs : List Restriction} {r : Restriction} (hr : r ∈ rs) (h : r.comparator.isNullCheck = false) :
    r.comparator ∈ comparators rs :=
  List.mem_filter.mpr ⟨List.mem_map_of_mem hr, by simp [h]⟩

/-- The comparators are all the same. -/
def OneComparator (cs : List Comparator) : Prop := ∀ c ∈ cs, ∀ c' ∈ cs, c = c'

lemma oneComparator_cons_iff {c : Comparator} {cs : List Comparator} :
    OneComparator (c :: cs) ↔ ∀ c' ∈ cs, c' = c := by
  constructor
  · intro h c' hc'
    exact h c' (List.mem_cons_of_mem _ hc') c List.mem_cons_self
  · intro h
    have hall : ∀ c' ∈ c :: cs, c' = c := List.forall_mem_cons.mpr ⟨rfl, h⟩
    exact fun a ha b hb => (hall a ha).trans (hall b hb).symm

/-- The clauses can stand in a flat request. They are restrictions joined by OR, no attribute is blank, and null checks aside
they have one comparator. -/
structure IsFlat (cs : List Clause) : Prop where
  alternative : ∀ c ∈ cs, ∃ r, c = .restriction .or r ∧ Text.isBlankText r.attr = false
  oneComparator : OneComparator (comparators (restrictionsOf cs))

/-- Why a clause does not go with those before it, whose comparators are `earlier`. -/
inductive Misfit (earlier : List Comparator) : Clause → Rejection → Prop
  | group (op : Operator) (cs : List Clause) : Misfit earlier (.group op cs) .nested
  | conjunction (r : Restriction) : Misfit earlier (.restriction .and r) (.conjunction r.attr)
  | blankAttr {r : Restriction} : Text.isBlankText r.attr = true →
      Misfit earlier (.restriction .or r) (.blankAttr r.comparator)
  | comparator {r : Restriction} {first : Comparator} : Text.isBlankText r.attr = false →
      r.comparator.isNullCheck = false → earlier.head? = some first → first ≠ r.comparator →
      Misfit earlier (.restriction .or r) (.comparators first r.comparator)

/-- The sort of reason for which a clause is rejected. -/
def misfitKind : Clause → Rejection.Kind
  | .group _ _ | .restriction .and _ => .unsupported
  | .restriction .or r => if Text.isBlankText r.attr then .invalid else .inconsistent

lemma Misfit.kind {earlier : List Comparator} {c : Clause} {e : Rejection} (h : Misfit earlier c e) :
    e.kind = misfitKind c := by
  cases h with
  | group op cs => rfl
  | conjunction r => rfl
  | blankAttr hblank =>
      rw [misfitKind, if_pos hblank]
      rfl
  | comparator hblank _ _ _ =>
      rw [misfitKind, hblank]
      rfl

/-- The message names both comparators. -/
lemma message_comparators (first other : Comparator) :
    (Rejection.comparators first other).message
      = "Inconsistent filter: the V1 API supports one comparator per request, found " ++ first.label ++ " and "
        ++ other.label := by
  have hlead : "Inconsistent filter" ++ ": " ++ "the V1 API supports one comparator per request, found "
      = "Inconsistent filter: the V1 API supports one comparator per request, found " := by decide
  rw [← hlead]
  exact message_of_detail rfl

/-! ### One clause more -/

namespace Progress

variable {p q : Progress} {cs : List Clause}

lemma checkAttr_eq_ok_iff {r : Restriction} : checkAttr r = .ok () ↔ Text.isBlankText r.attr = false := by
  rw [checkAttr]
  cases Text.isBlankText r.attr <;> simp

/-- **Why one clause more fails**: it does not go with the comparator that is set. -/
lemma add_eq_error_iff {earlier : List Comparator} (hshared : p.shared = earlier.head?) {c : Clause} {e : Rejection} :
    p.add c = .error e ↔ Misfit earlier c e := by
  constructor
  · intro h
    match c with
    | .group op cs =>
        cases h
        exact .group op cs
    | .restriction .and r =>
        cases h
        exact .conjunction r
    | .restriction .or r =>
        rw [add, checkAttr] at h
        cases hblank : Text.isBlankText r.attr with
        | true =>
            rw [hblank] at h
            cases h
            exact .blankAttr hblank
        | false =>
            rw [hblank, if_neg (by decide), ok_bind, share] at h
            cases hnull : r.comparator.isNullCheck with
            | true =>
                rw [hnull] at h
                cases h
            | false =>
                rw [hnull, if_neg (by decide)] at h
                cases hfirst : p.shared with
                | none =>
                    rw [hfirst] at h
                    cases h
                | some first =>
                    rw [hfirst] at h
                    by_cases heq : first = r.comparator
                    · simp [heq] at h
                    · simp only [if_neg heq, error_bind, Except.error.injEq] at h
                      rw [← h]
                      exact .comparator hblank hnull (hshared.symm.trans hfirst) heq
  · intro h
    cases h with
    | group op cs => rfl
    | conjunction r => rfl
    | blankAttr hblank => simp [add, checkAttr, hblank]
    | comparator hblank hnull hfirst hne =>
        have hset := hshared.trans hfirst
        simp [add, checkAttr, hblank, share, hnull, hset, hne]

/-! ### All clauses -/

/-- **The comparator that is set** is that of the first comparison. -/
lemma shared_of_foldlM_add (h : cs.foldlM add p = .ok q) :
    q.shared = p.shared.or (comparators (restrictionsOf cs)).head? := by
  induction cs generalizing p with
  | nil =>
      rw [← Except.ok.inj h]
      exact Option.or_none.symm
  | cons c cs ih =>
      obtain ⟨r, s, rfl, -, hshare, hrest⟩ := foldlM_add_cons_eq_ok_iff.mp h
      rw [ih hrest, restrictionsOf_cons]
      obtain ⟨hnull, rfl⟩ | ⟨hnull, hnone, rfl⟩ | ⟨hnull, hsome, rfl⟩ := share_eq_ok_iff.mp hshare
      · rw [comparators_cons_nullCheck hnull]
      · rw [comparators_cons_comparison hnull, hnone]
        rfl
      · rw [hsome, Option.some_or, Option.some_or]

/-- **The clauses that can be added**, to a comparator that is set or to none. -/
lemma exists_foldlM_add_iff : (∃ q, cs.foldlM add p = .ok q) ↔
    (∀ c ∈ cs, ∃ r, c = .restriction .or r ∧ Text.isBlankText r.attr = false)
      ∧ OneComparator (p.shared.toList ++ comparators (restrictionsOf cs)) := by
  induction cs generalizing p with
  | nil =>
      refine iff_of_true ⟨p, rfl⟩ ⟨by simp, ?_⟩
      cases p.shared <;> simp [OneComparator, comparators, restrictionsOf]
  | cons c cs ih =>
      constructor
      · rintro ⟨q, h⟩
        obtain ⟨r, s, rfl, hattr, hshare, hrest⟩ := foldlM_add_cons_eq_ok_iff.mp h
        obtain ⟨halternative, hone⟩ := ih.mp ⟨q, hrest⟩
        refine ⟨List.forall_mem_cons.mpr ⟨⟨r, rfl, checkAttr_eq_ok_iff.mp hattr⟩, halternative⟩, ?_⟩
        rw [restrictionsOf_cons]
        obtain ⟨hnull, rfl⟩ | ⟨hnull, hnone, rfl⟩ | ⟨hnull, hsome, rfl⟩ := share_eq_ok_iff.mp hshare
        · rwa [comparators_cons_nullCheck hnull]
        · rwa [comparators_cons_comparison hnull, hnone]
        · -- the comparator is set already and comes once more
          rw [comparators_cons_comparison hnull, hsome]
          rw [hsome] at hone
          have hrest := oneComparator_cons_iff.mp hone
          exact oneComparator_cons_iff.mpr (List.forall_mem_cons.mpr ⟨rfl, hrest⟩)
      · rintro ⟨halternative, hone⟩
        obtain ⟨⟨r, rfl, hattr⟩, hbehind⟩ := List.forall_mem_cons.mp halternative
        rw [restrictionsOf_cons] at hone
        have hshare : ∃ s, p.share r.comparator = .ok s
            ∧ OneComparator (s.shared.toList ++ comparators (restrictionsOf cs)) := by
          cases hnull : r.comparator.isNullCheck with
          | true =>
              rw [comparators_cons_nullCheck hnull] at hone
              exact ⟨p, share_eq_ok_iff.mpr (.inl ⟨hnull, rfl⟩), hone⟩
          | false =>
              rw [comparators_cons_comparison hnull] at hone
              cases hfirst : p.shared with
              | none =>
                  rw [hfirst] at hone
                  exact ⟨_, share_eq_ok_iff.mpr (.inr (.inl ⟨hnull, hfirst, rfl⟩)), hone⟩
              | some first =>
                  rw [hfirst] at hone
                  have hall := oneComparator_cons_iff.mp hone
                  obtain ⟨heq, hrest⟩ := List.forall_mem_cons.mp hall
                  refine ⟨p, share_eq_ok_iff.mpr (.inr (.inr ⟨hnull, ?_, rfl⟩)), ?_⟩
                  · rw [hfirst, heq]
                  · rw [hfirst]
                    exact oneComparator_cons_iff.mpr hrest
        obtain ⟨s, hshare, hone⟩ := hshare
        obtain ⟨q, hrest⟩ := ih (p := ⟨s.params.perform (callOf r), s.shared⟩).mpr ⟨hbehind, hone⟩
        exact ⟨q, foldlM_add_cons_eq_ok_iff.mpr ⟨r, s, rfl, checkAttr_eq_ok_iff.mpr hattr, hshare, hrest⟩⟩

/-- **Why clauses cannot be added**: one of them does not go with those before it. -/
lemma foldlM_add_eq_error_iff {e : Rejection} : cs.foldlM add p = .error e ↔
    ∃ before c behind, cs = before ++ c :: behind
      ∧ ((∀ b ∈ before, ∃ r, b = .restriction .or r ∧ Text.isBlankText r.attr = false)
        ∧ OneComparator (p.shared.toList ++ comparators (restrictionsOf before)))
      ∧ Misfit (p.shared.toList ++ comparators (restrictionsOf before)) c e := by
  -- those before the misfit have been added, so the comparator that is set is the first of theirs
  have hset : ∀ {before : List Clause} {q : Progress}, before.foldlM add p = .ok q →
      q.shared = (p.shared.toList ++ comparators (restrictionsOf before)).head? := by
    intro before q h
    rw [shared_of_foldlM_add h]
    cases p.shared <;> rfl
  rw [foldlM_eq_error_iff]
  constructor
  · rintro ⟨before, c, behind, q, hcs, hbefore, hfails⟩
    exact ⟨before, c, behind, hcs, exists_foldlM_add_iff.mp ⟨q, hbefore⟩, (add_eq_error_iff (hset hbefore)).mp hfails⟩
  · rintro ⟨before, c, behind, hcs, hfits, hmisfit⟩
    obtain ⟨q, hbefore⟩ := exists_foldlM_add_iff.mpr hfits
    exact ⟨before, c, behind, q, hcs, hbefore, (add_eq_error_iff (hset hbefore)).mpr hmisfit⟩

/-- Whether clauses can be added, and why not, depends on the comparator that is set and on nothing else. -/
lemma failure?_foldlM_add (hshared : p.shared = q.shared) (cs : List Clause) :
    failure? (cs.foldlM add p) = failure? (cs.foldlM add q) := by
  refine Option.ext fun e => ?_
  rw [failure?_eq_some_iff, failure?_eq_some_iff, foldlM_add_eq_error_iff, foldlM_add_eq_error_iff, hshared]

/-- A null check that can be added leaves the comparator as it is. -/
lemma add_nullCheck {r : Restriction} (hnull : r.comparator.isNullCheck = true)
    (hblank : Text.isBlankText r.attr = false) (p : Progress) :
    p.add (.restriction .or r) = .ok ⟨p.params.perform (callOf r), p.shared⟩ :=
  add_eq_ok_iff.mpr ⟨r, p, rfl, checkAttr_eq_ok_iff.mpr hblank, share_eq_ok_iff.mpr (.inl ⟨hnull, rfl⟩), rfl⟩

/-- **A null check has no say** in whether the clauses around it can be added, or why not. -/
lemma failure?_foldlM_nullCheck {r : Restriction} (hnull : r.comparator.isNullCheck = true)
    (hblank : Text.isBlankText r.attr = false) (before behind : List Clause) (p : Progress) :
    failure? ((before ++ .restriction .or r :: behind).foldlM add p) = failure? ((before ++ behind).foldlM add p) := by
  rw [List.foldlM_append, List.foldlM_append]
  cases before.foldlM add p with
  | error e => rfl
  | ok q =>
      rw [ok_bind, ok_bind, List.foldlM_cons, add_nullCheck hnull hblank, ok_bind]
      have hshared : (Progress.mk (q.params.perform (callOf r)) q.shared).shared = q.shared := rfl
      exact failure?_foldlM_add hshared behind

end Progress

/-! ### Filters -/

lemma shared_start (limit : Option ℕ) : (start limit).shared = none := rfl

/-- A filter is rejected for its clauses, or else for its sort keys. -/
lemma failure?_compile (f : Filter) :
    failure? (compile f)
      = (failure? (f.clauses.foldlM Progress.add (start f.limit))).or (failure? (addSortKeys .empty f.sortKeys)) :=
  failure?_bind fun _ => failure?_addSortKeys _ _ _

/-- The clauses of a filter that a flat request can carry. -/
lemma exists_foldlM_start_iff {cs : List Clause} {limit : Option ℕ} :
    (∃ q, cs.foldlM Progress.add (start limit) = .ok q) ↔ IsFlat cs := by
  rw [Progress.exists_foldlM_add_iff, shared_start]
  exact ⟨fun h => ⟨h.1, h.2⟩, fun h => ⟨h.1, h.2⟩⟩

/-- **A filter is accepted** if its clauses can stand in a flat request and its sort keys have one direction. -/
lemma exists_compile_iff {f : Filter} : (∃ p, compile f = .ok p) ↔ IsFlat f.clauses ∧ OneDirection f.sortKeys := by
  rw [← failure?_eq_none_iff, failure?_compile, Option.or_eq_none_iff, failure?_eq_none_iff, exists_foldlM_start_iff,
    failure?_addSortKeys_eq_none_iff]

/-- **A filter is rejected for the first clause that does not fit**, or else for its sort keys. -/
lemma compile_eq_error_iff {f : Filter} {e : Rejection} : compile f = .error e ↔
    (∃ before c behind, f.clauses = before ++ c :: behind ∧ IsFlat before
        ∧ Misfit (comparators (restrictionsOf before)) c e)
      ∨ IsFlat f.clauses ∧ ∃ first other, FirstMixed f.sortKeys first other ∧ e = .directions first other := by
  rw [← failure?_eq_some_iff, failure?_compile, Option.or_eq_some_iff, failure?_eq_none_iff, exists_foldlM_start_iff,
    failure?_addSortKeys_eq_some_iff, failure?_eq_some_iff, Progress.foldlM_add_eq_error_iff, shared_start]
  refine or_congr ?_ Iff.rfl
  constructor
  · rintro ⟨before, c, behind, hcs, ⟨halternative, hone⟩, hmisfit⟩
    exact ⟨before, c, behind, hcs, ⟨halternative, hone⟩, hmisfit⟩
  · rintro ⟨before, c, behind, hcs, hflat, hmisfit⟩
    exact ⟨before, c, behind, hcs, ⟨hflat.alternative, hflat.oneComparator⟩, hmisfit⟩

/-- A null check can be left out of a filter without a change to whether it is rejected, or why. -/
lemma failure?_compile_nullCheck {f : Filter} {before behind : List Clause} {r : Restriction}
    (hnull : r.comparator.isNullCheck = true) (hblank : Text.isBlankText r.attr = false)
    (hclauses : f.clauses = before ++ .restriction .or r :: behind) :
    failure? (compile f) = failure? (compile { f with clauses := before ++ behind }) := by
  rw [failure?_compile, failure?_compile, hclauses, Progress.failure?_foldlM_nullCheck hnull hblank]

/-- **Which filters the interface rejects, and for what.** A filter is accepted exactly if all its clauses are restrictions joined
by OR, the first one too, on attributes that are not blank, all comparators apart from null checks are the same, and all sort
keys have one direction. If not, the rejection is that of the first clause that does not go with those before it: a group, an
AND, a blank attribute, or a comparator that is not the first one, in this order. Sort keys that go in two directions are told
only if all clauses fit. A null check on an attribute that is not blank changes none of this, wherever it stands. -/
theorem accepts_iff_and_rejects_first_misfit (f : Filter) :
    ((∃ p, compile f = .ok p) ↔ IsFlat f.clauses ∧ OneDirection f.sortKeys)
      ∧ (∀ e, compile f = .error e ↔
          (∃ before c behind, f.clauses = before ++ c :: behind ∧ IsFlat before
              ∧ Misfit (comparators (restrictionsOf before)) c e)
            ∨ IsFlat f.clauses ∧ ∃ first other, FirstMixed f.sortKeys first other ∧ e = .directions first other)
      ∧ (∀ before r behind, r.comparator.isNullCheck = true → Text.isBlankText r.attr = false →
          f.clauses = before ++ .restriction .or r :: behind →
            failure? (compile f) = failure? (compile { f with clauses := before ++ behind }))
      ∧ (∀ earlier c e, Misfit earlier c e → e.kind = misfitKind c)
      ∧ (∀ first other, (Rejection.comparators first other).message
          = "Inconsistent filter: the V1 API supports one comparator per request, found " ++ first.label ++ " and "
              ++ other.label)
      ∧ ∀ first other, (Rejection.directions first other).kind = .inconsistent
          ∧ (Rejection.directions first other).message
              = "Inconsistent filter: mixed sort directions are not supported: " ++ Rejection.sortKeyText first
                  ++ " and " ++ Rejection.sortKeyText other := by
  refine ⟨exists_compile_iff, fun e => compile_eq_error_iff, ?_, fun _ _ _ => Misfit.kind, message_comparators,
    fun first other => ⟨rfl, message_directions first other⟩⟩
  intro before r behind hnull hblank hclauses
  exact failure?_compile_nullCheck hnull hblank hclauses

end MonitorQuery.Request.Flat
