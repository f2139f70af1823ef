import Mathlib.Tactic

/-!
Computations that may fail.

A computation in two steps, taken apart: where the first step is known, where both have succeeded, and where one of them
has failed.

* `failure?`: why a computation fails. It is compared without the result (`failure?_bind`).
* `foldlM_eq_error_iff`: **a fold fails at one member**, after a fold over those before it that succeeds.
-/

namespace MonitorQuery

variable {ε α β : Type}

@[simp] lemma ok_bind (a : α) (f : α → Except ε β) : (.ok a : Except ε α) >>= f = f a := rfl

@[simp] lemma error_bind (e : ε) (f : α → Except ε β) : (.error e : Except ε α) >>= f = .error e := rfl

/-- A computation in two steps succeeds when both do. -/
lemma bind_eq_ok {x : Except ε α} {f : α → Except ε β} {b : β} :
    x >>= f = .ok b ↔ ∃ a, x = .ok a ∧ f a = .ok b := by
  cases x <;> simp

/-- A computation in two steps fails as the first does, or as the second does for what the first gives. -/
lemma bind_eq_error {x : Except ε α} {f : α → Except ε β} {e : ε} :
    x >>= f = .error e ↔ x = .error e ∨ ∃ a, x = .ok a ∧ f a = .error e := by
  cases x <;> simp

/-- A computation with another form for its result succeeds as it did. -/
lemma map_eq_ok {f : α → β} {x : Except ε α} {b : β} : x.map f = .ok b ↔ ∃ a, x = .ok a ∧ f a = b := by
  cases x <;> simp [Except.map]

/-- A computation with other words for its failures fails as it did. -/
lemma mapError_eq_error {ε' : Type} {f : ε → ε'} {x : Except ε α} {e' : ε'} :
    x.mapError f = .error e' ↔ ∃ e, x = .error e ∧ f e = e' := by
  cases x <;> simp [Except.mapError]

lemma mapError_eq_ok {ε' : Type} {f : ε → ε'} {x : Except ε α} {a : α} : x.mapError f = .ok a ↔ x = .ok a := by
  cases x <;> simp [Except.mapError]

/-- The failure of a computation, if it fails. -/
def failure? : Except ε α → Option ε
  | .error e => some e
  | .ok _ => none

@[simp] lemma failure?_eq_some_iff {x : Except ε α} {e : ε} : failure? x = some e ↔ x = .error e := by
  cases x <;> simp [failure?]

lemma failure?_eq_none_iff {x : Except ε α} : failure? x = none ↔ ∃ a, x = .ok a := by
  cases x <;> simp [failure?]

/-- A computation in two steps fails as the first does, or else as the second does. -/
lemma failure?_bind {x : Except ε α} {f : α → Except ε β} {o : Option ε} (h : ∀ a, failure? (f a) = o) :
    failure? (x >>= f) = (failure? x).or o := by
  cases x with
  | error e => rfl
  | ok a => exact h a

/-- Two computations whose results are put together fail as the first does, or else as the second does. -/
lemma failure?_bind_bind_ok {γ : Type} (x : Except ε α) (y : Except ε β) (g : α → β → γ) :
    failure? (x >>= fun a => y >>= fun b => .ok (g a b)) = (failure? x).or (failure? y) := by
  refine failure?_bind fun a => ?_
  cases y <;> rfl

/-- **A fold fails at one member**: those before it are taken, and what they lead to fails on it. -/
lemma foldlM_eq_error_iff {f : β → α → Except ε β} {as : List α} {b : β} {e : ε} :
    as.foldlM f b = .error e ↔
      ∃ before a behind b', as = before ++ a :: behind ∧ before.foldlM f b = .ok b' ∧ f b' a = .error e := by
  constructor
  · intro h
    induction as generalizing b with
    | nil => cases h
    | cons a as ih =>
        rw [List.foldlM_cons] at h
        cases hstep : f b a with
        | error e' =>
            rw [hstep, error_bind] at h
            exact ⟨[], a, as, b, rfl, rfl, hstep.trans h⟩
        | ok b' =>
            rw [hstep, ok_bind] at h
            obtain ⟨before, a', behind, c, rfl, hbefore, hfails⟩ := ih h
            refine ⟨a :: before, a', behind, c, rfl, ?_, hfails⟩
            rw [List.foldlM_cons, hstep, ok_bind, hbefore]
  · rintro ⟨before, a, behind, b', rfl, hbefore, hfails⟩
    rw [List.foldlM_append, hbefore, ok_bind, List.foldlM_cons, hfails, error_bind]

end MonitorQuery
