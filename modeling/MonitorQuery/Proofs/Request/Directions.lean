import MonitorQuery.Proofs.Computation
import MonitorQuery.Request.Sorting

/-!
The directions of sort keys.

A request has one direction for all its sort keys, whatever else stands in it.

* `OneDirection`: the keys that a request can carry.
* `FirstMixed`: the first key, and the first behind it with another direction.
* `failure?_addSortKeys_eq_some_iff`, `failure?_addSortKeys_eq_none_iff`: **sort keys are rejected for those two, or taken.**
* `message_directions`: the message of the rejection has both keys in it, with their directions.
-/

namespace MonitorQuery.Request

open MonitorQuery.Query

/-- All keys have the same direction. -/
def OneDirection (keys : List SortKey) : Prop := ∀ k ∈ keys, ∀ k' ∈ keys, k.order = k'.order

instance : DecidablePred OneDirection := fun keys =>
  inferInstanceAs (Decidable (∀ k ∈ keys, ∀ k' ∈ keys, k.order = k'.order))

lemma oneDirection_nil : OneDirection [] := by
  intro k hk
  cases hk

/-- The keys begin with `first`, and `other` is the first one with another direction. -/
def FirstMixed (keys : List SortKey) (first other : SortKey) : Prop :=
  ∃ between behind, keys = first :: (between ++ other :: behind) ∧ (∀ k ∈ between, k.order = first.order)
    ∧ other.order ≠ first.order

variable {p : Params} {keys : List SortKey}

/-- Whether sort keys can be added, and why not, does not depend on what is there. -/
lemma failure?_addSortKeys (p q : Params) (keys : List SortKey) :
    failure? (addSortKeys p keys) = failure? (addSortKeys q keys) := by
  cases keys with
  | nil => rfl
  | cons first rest =>
      rw [addSortKeys, addSortKeys]
      cases rest.find? fun k => k.order != first.order <;> rfl

/-- **Sort keys are rejected for the first two that differ.** -/
lemma failure?_addSortKeys_eq_some_iff {e : Rejection} :
    failure? (addSortKeys p keys) = some e ↔ ∃ first other, FirstMixed keys first other ∧ e = .directions first other := by
  cases keys with
  | nil =>
      constructor
      · intro h
        cases h
      · rintro ⟨first, other, ⟨between, behind, hkeys, -⟩, -⟩
        cases hkeys
  | cons first rest =>
      have hfind : ∀ other, rest.find? (fun k => k.order != first.order) = some other
          ↔ FirstMixed (first :: rest) first other := by
        intro other
        rw [List.find?_eq_some_iff_append, FirstMixed]
        simp only [bne_iff_ne, List.cons.injEq, true_and, Bool.not_eq_true', bne_eq_false_iff_eq]
        constructor
        · rintro ⟨hother, between, behind, hrest, hbetween⟩
          exact ⟨between, behind, hrest, hbetween, hother⟩
        · rintro ⟨between, behind, hrest, hbetween, hother⟩
          exact ⟨hother, between, behind, hrest, hbetween⟩
      rw [addSortKeys, failure?_eq_some_iff]
      constructor
      · intro h
        split at h
        · next other hother =>
            cases h
            exact ⟨first, other, (hfind other).mp hother, rfl⟩
        · cases h
      · rintro ⟨first', other, hmixed, rfl⟩
        obtain rfl : first = first' := by
          obtain ⟨between, behind, hkeys, -⟩ := hmixed
          exact (List.cons.inj hkeys).1
        rw [(hfind other).mpr hmixed]

/-- **Sort keys are taken if they have one direction.** -/
lemma failure?_addSortKeys_eq_none_iff : failure? (addSortKeys p keys) = none ↔ OneDirection keys := by
  cases keys with
  | nil => simp [addSortKeys, failure?, OneDirection]
  | cons first rest =>
      rw [addSortKeys]
      cases hfind : rest.find? (fun k => k.order != first.order) with
      | some other =>
          have hne : other.order ≠ first.order := by simpa using List.find?_some hfind
          have hmem : other ∈ rest := List.mem_of_find?_eq_some hfind
          refine iff_of_false (by simp [failure?]) fun h => ?_
          exact hne (h other (List.mem_cons_of_mem _ hmem) first List.mem_cons_self)
      | none =>
          have hall : ∀ k ∈ first :: rest, k.order = first.order := by
            intro k hk
            obtain rfl | hk := List.mem_cons.mp hk
            · rfl
            · simpa using List.find?_eq_none.mp hfind k hk
          exact iff_of_true rfl fun k hk k' hk' => (hall k hk).trans (hall k' hk').symm

/-- A message that names two things begins with the sort of reason. -/
lemma message_of_detail {e : Rejection} {text first other : String} (h : e.detail = text ++ first ++ " and " ++ other) :
    e.message = e.kind.label ++ ": " ++ text ++ first ++ " and " ++ other := by
  rw [Rejection.message, h]
  simp only [String.append_assoc]

/-- The message names both keys. -/
lemma message_directions (first other : SortKey) :
    (Rejection.directions first other).message
      = "Inconsistent filter: mixed sort directions are not supported: " ++ Rejection.sortKeyText first ++ " and "
        ++ Rejection.sortKeyText other := by
  have hlead : "Inconsistent filter" ++ ": " ++ "mixed sort directions are not supported: "
      = "Inconsistent filter: mixed sort directions are not supported: " := by decide
  rw [← hlead]
  exact message_of_detail rfl

end MonitorQuery.Request
