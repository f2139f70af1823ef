import MonitorQuery.Proofs.Cache.Entries

/-!
Calls with a fetch that overlap.

A call looks its key up, runs its fetch if nothing is there, and puts in what the fetch has brought. The cache is locked for
the first step and for the last and not in between, so calls for one key can overlap: one is made while another fetches, or
by the fetch itself. Two of them may both find nothing and bring different properties. Each then returns what it has brought,
and the insertion that comes last stays.

* `Step`, `Runs`: the steps of calls for one key, taken in any order, with the properties they put in.
* `Runs.getOrFetch`: **a call of `getOrFetch`, with all that is done while it fetches, is such a run.**
* `Consistent`: the invariant of a run. What stands at the key was put in last, and the calls have returned what was put
  in and nothing else (`Consistent.step`, `Runs.consistent`).
* `runs_agree_iff`: **the calls agree** just if all properties that were put in are the same.
* `not_runs_agree`: two calls that overlap and do not agree, one made by the fetch of the other.
-/

namespace MonitorQuery.Cache

variable {ι ε : Type}

/-! ### Steps -/

/-- How far a call has come. -/
inductive Stage (ε : Type)
  /-- The key is not looked up yet. -/
  | waiting
  /-- Nothing was found, and the fetch is running. -/
  | fetching
  /-- The fetch has brought properties that are not put in yet. -/
  | fetched (properties : List Property)
  /-- The call has returned. -/
  | returned (answer : Except ε (List Property))

/-- A cache, and calls for one of its keys. -/
structure Shared (ι ε : Type) where
  cache : Cache
  stages : ι → Stage ε

/-- A step of one of the calls, with what it puts in. In between the cache may change under other keys. -/
inductive Step [DecidableEq ι] (key : CacheKey) (s : Shared ι ε) : List (List Property) → Shared ι ε → Prop
  | hit {i : ι} {p : List Property} : s.stages i = .waiting → s.cache.get? key = some p →
      Step key s [] ⟨s.cache, Function.update s.stages i (.returned (.ok p))⟩
  | miss {i : ι} : s.stages i = .waiting → s.cache.get? key = none →
      Step key s [] ⟨s.cache, Function.update s.stages i .fetching⟩
  | bring {i : ι} (p : List Property) : s.stages i = .fetching →
      Step key s [] ⟨s.cache, Function.update s.stages i (.fetched p)⟩
  | fail {i : ι} (e : ε) : s.stages i = .fetching →
      Step key s [] ⟨s.cache, Function.update s.stages i (.returned (.error e))⟩
  | insert {i : ι} {p : List Property} : s.stages i = .fetched p →
      Step key s [p] ⟨s.cache.put key p, Function.update s.stages i (.returned (.ok p))⟩
  | other {c : Cache} : c.get? key = s.cache.get? key → Step key s [] ⟨c, s.stages⟩

/-- Steps one after the other, with what they put in. -/
inductive Runs [DecidableEq ι] (key : CacheKey) (s : Shared ι ε) : List (List Property) → Shared ι ε → Prop
  | start : Runs key s [] s
  | step {ps qs : List (List Property)} {t u : Shared ι ε} : Runs key s ps t → Step key t qs u →
      Runs key s (ps ++ qs) u

/-! ### The invariant -/

/-- **The invariant.** What was put in last stands at the key, or else what stood there before. The calls have returned what was
put in or stood there before; all that was put in has been returned; and where something stood nothing is put in. -/
structure Consistent (key : CacheKey) (before : Option (List Property)) (ps : List (List Property))
    (s : Shared ι ε) : Prop where
  get? : s.cache.get? key = ps.getLast?.or before
  answered : ∀ {i p}, s.stages i = .returned (.ok p) → p ∈ ps ∨ before = some p
  inserted : ∀ {p}, p ∈ ps → ∃ i, s.stages i = .returned (.ok p)
  present : ∀ {p}, before = some p → ps = [] ∧ ∀ i, s.stages i = .waiting ∨ s.stages i = .returned (.ok p)

namespace Consistent

variable {key : CacheKey} {before : Option (List Property)} {ps qs : List (List Property)} {s t : Shared ι ε}

lemma start (key : CacheKey) (hwaiting : ∀ i, s.stages i = .waiting) : Consistent key (s.cache.get? key) [] s where
  get? := rfl
  answered {i p} h := by simp [hwaiting i] at h
  inserted h := by simp at h
  present _ := ⟨rfl, fun i => .inl (hwaiting i)⟩

/-- What stands at the key was put in or stood there before. -/
lemma of_get? (hc : Consistent key before ps s) {p : List Property} (h : s.cache.get? key = some p) :
    p ∈ ps ∨ before = some p := by
  rw [hc.get?, Option.or_eq_some_iff] at h
  exact h.imp List.mem_of_getLast? And.right

/-- A call that has looked the key up and has not returned properties found nothing. -/
lemma before_eq_none (hc : Consistent key before ps s) {i : ι} {stage : Stage ε} (hstage : s.stages i = stage)
    (hwaiting : stage ≠ .waiting) (hreturned : ∀ p, stage ≠ .returned (.ok p)) : before = none := by
  cases hbefore : before with
  | none => rfl
  | some p =>
      obtain h | h := (hc.present hbefore).2 i
      · exact absurd (hstage.symm.trans h) hwaiting
      · exact absurd (hstage.symm.trans h) (hreturned p)

variable [DecidableEq ι]

/-- A call that has not returned properties comes to another stage, and properties are put in only to be returned. -/
lemma move (hc : Consistent key before ps s) {i : ι} {old new : Stage ε} {c : Cache}
    (hold : s.stages i = old) (hreturned : ∀ p, old ≠ .returned (.ok p))
    (hget : c.get? key = (ps ++ qs).getLast?.or before)
    (hanswered : ∀ p, new = .returned (.ok p) → p ∈ ps ++ qs ∨ before = some p)
    (hinserted : ∀ p ∈ qs, new = .returned (.ok p))
    (hpresent : ∀ p, before = some p → qs = [] ∧ new = .returned (.ok p)) :
    Consistent key before (ps ++ qs) ⟨c, Function.update s.stages i new⟩ where
  get? := hget
  answered {j p} h := by
    by_cases hj : j = i
    · subst hj
      exact hanswered p (by simpa using h)
    · simp only [Function.update_of_ne hj] at h
      exact (hc.answered h).imp_left (List.mem_append_left qs)
  inserted {p} hp := by
    obtain hp | hp := List.mem_append.mp hp
    · obtain ⟨j, hj⟩ := hc.inserted hp
      have hne : j ≠ i := by
        rintro rfl
        exact hreturned p (hold.symm.trans hj)
      exact ⟨j, by simpa only [Function.update_of_ne hne] using hj⟩
    · exact ⟨i, by simp only [Function.update_self, hinserted p hp]⟩
  present {p} hbefore := by
    obtain ⟨hps, hstages⟩ := hc.present hbefore
    obtain ⟨hqs, hnew⟩ := hpresent p hbefore
    refine ⟨by rw [hps, hqs, List.append_nil], fun j => ?_⟩
    by_cases hj : j = i
    · subst hj
      exact .inr (by simpa only [Function.update_self] using hnew)
    · simpa only [Function.update_of_ne hj] using hstages j

/-- **Every step keeps the invariant.** -/
lemma step (hc : Consistent key before ps s) (hstep : Step key s qs t) : Consistent key before (ps ++ qs) t := by
  have hkept : s.cache.get? key = (ps ++ []).getLast?.or before := by rw [List.append_nil, hc.get?]
  cases hstep with
  | @hit i p hwaiting hget =>
      refine hc.move hwaiting (by simp) hkept (fun q hq => ?_) (by simp) (fun q hq => ⟨rfl, ?_⟩)
      · cases hq
        rw [List.append_nil]
        exact hc.of_get? hget
      · rw [hc.get?, (hc.present hq).1, hq] at hget
        cases hget
        rfl
  | miss hwaiting hget =>
      have hbefore : before = none := by
        rw [hc.get?, Option.or_eq_none_iff] at hget
        exact hget.2
      exact hc.move hwaiting (by simp) hkept (by simp) (by simp) (by simp [hbefore])
  | bring p hfetching =>
      have hbefore := hc.before_eq_none hfetching (by simp) (by simp)
      exact hc.move hfetching (by simp) hkept (by simp) (by simp) (by simp [hbefore])
  | fail e hfetching =>
      have hbefore := hc.before_eq_none hfetching (by simp) (by simp)
      exact hc.move hfetching (by simp) hkept (by simp) (by simp) (by simp [hbefore])
  | @insert i p hfetched =>
      have hbefore := hc.before_eq_none hfetched (by simp) (by simp)
      exact hc.move hfetched (by simp) (by simp [get?_put]) (by simp) (by simp) (by simp [hbefore])
  | other hget =>
      rw [List.append_nil]
      exact ⟨hget.trans hc.get?, hc.answered, hc.inserted, hc.present⟩

end Consistent

variable [DecidableEq ι]

/-- **The invariant holds throughout a run.** -/
lemma Runs.consistent {key : CacheKey} {s t : Shared ι ε} {ps : List (List Property)} (h : Runs key s ps t)
    (hwaiting : ∀ i, s.stages i = .waiting) : Consistent key (s.cache.get? key) ps t := by
  induction h with
  | start => exact .start key hwaiting
  | step _ hstep ih => exact ih.step hstep

/-! ### Calls -/

/-- A call that finds something is a single step. -/
lemma Step.getOrFetch {key : CacheKey} {s : Shared ι ε} {i : ι} {p : List Property} (hwaiting : s.stages i = .waiting)
    (hget : s.cache.get? key = some p) (fetch : StateM Cache (Except ε (List Property))) :
    Step key s [] ⟨((Cache.getOrFetch key fetch).run s.cache).2,
      Function.update s.stages i (.returned ((Cache.getOrFetch key fetch).run s.cache).1)⟩ := by
  rw [run_getOrFetch, hget]
  exact .hit hwaiting hget

lemma Runs.trans {key : CacheKey} {s t u : Shared ι ε} {ps qs : List (List Property)} (h : Runs key s ps t)
    (h' : Runs key t qs u) : Runs key s (ps ++ qs) u := by
  induction h' with
  | start => rwa [List.append_nil]
  | step _ hstep ih =>
      rw [← List.append_assoc]
      exact ih.step hstep

/-- A fetch ends, and what it has brought is put in. -/
lemma Runs.settle {key : CacheKey} {s : Shared ι ε} {i : ι} (hfetching : s.stages i = .fetching)
    (outcome : Except ε (List Property)) :
    Runs key s outcome.toOption.toList
      ⟨s.cache.settle key outcome, Function.update s.stages i (.returned outcome)⟩ := by
  cases outcome with
  | error e => exact .step .start (.fail e hfetching)
  | ok p =>
      have hbring : Runs key s [] ⟨s.cache, Function.update s.stages i (.fetched p)⟩ := Runs.start.step (.bring p hfetching)
      have hinsert := hbring.step (.insert (Function.update_self i _ _))
      rw [Function.update_idem] at hinsert
      exact hinsert

/-- **A call that finds nothing is a run**: it looks the key up, other calls take steps while it fetches, and it puts in what
it has brought. -/
lemma Runs.getOrFetch {key : CacheKey} {s t : Shared ι ε} {i : ι} {ps : List (List Property)}
    (hwaiting : s.stages i = .waiting) (hget : s.cache.get? key = none)
    (fetch : StateM Cache (Except ε (List Property)))
    (hruns : Runs key ⟨s.cache, Function.update s.stages i .fetching⟩ ps t) (hfetching : t.stages i = .fetching)
    (hcache : (fetch.run s.cache).2 = t.cache) :
    Runs key s (ps ++ (fetch.run s.cache).1.toOption.toList)
      ⟨((Cache.getOrFetch key fetch).run s.cache).2,
        Function.update t.stages i (.returned ((Cache.getOrFetch key fetch).run s.cache).1)⟩ := by
  have hcall : (Cache.getOrFetch key fetch).run s.cache
      = ((fetch.run s.cache).1, t.cache.settle key (fetch.run s.cache).1) := by
    rw [run_getOrFetch, hget, ← hcache]
    rfl
  rw [hcall]
  exact ((Runs.start.step (.miss hwaiting hget)).trans hruns).trans (.settle hfetching _)

/-! ### Agreement -/

/-- **When overlapping calls agree.** Calls for one key are made on any cache, their steps are taken in any order, and the cache
does not otherwise change under the key. All that return properties return the same, which then stand at the key, just if
all properties that were put in are the same. What was put in last stands at the key; what a call returns was put in or stood
there before; and where something stood nothing is put in and every call returns that. -/
theorem runs_agree_iff {key : CacheKey} {s t : Shared ι ε} {ps : List (List Property)}
    (hwaiting : ∀ i, s.stages i = .waiting) (hruns : Runs key s ps t) :
    ((∀ i p, t.stages i = .returned (.ok p) → t.cache.get? key = some p) ↔ ∀ p ∈ ps, ∀ q ∈ ps, p = q)
      ∧ t.cache.get? key = ps.getLast?.or (s.cache.get? key)
      ∧ (∀ i p, t.stages i = .returned (.ok p) → p ∈ ps ∨ s.cache.get? key = some p)
      ∧ ∀ p, s.cache.get? key = some p → ps = [] ∧ ∀ i q, t.stages i = .returned (.ok q) → q = p := by
  have hc := hruns.consistent hwaiting
  refine ⟨⟨fun hagree p hp q hq => ?_, fun hsame i p hi => ?_⟩, hc.get?, fun i p => hc.answered, fun p hp => ?_⟩
  · obtain ⟨i, hi⟩ := hc.inserted hp
    obtain ⟨j, hj⟩ := hc.inserted hq
    exact Option.some.inj ((hagree i p hi).symm.trans (hagree j q hj))
  · rw [hc.get?]
    obtain hp | hp := hc.answered hi
    · cases hlast : ps.getLast? with
      | none =>
          rw [List.getLast?_eq_none_iff.mp hlast] at hp
          cases hp
      | some q => rw [hsame p hp q (List.mem_of_getLast? hlast), Option.some_or]
    · rw [(hc.present hp).1, hp]
      rfl
  · obtain ⟨hps, hstages⟩ := hc.present hp
    refine ⟨hps, fun i q hi => ?_⟩
    obtain h | h := hstages i
    · rw [hi] at h
      cases h
    · rw [hi] at h
      cases h
      rfl

/-- A new cache, and two calls for one key that are not yet made. -/
def unasked : Shared Bool Unit := ⟨empty, fun _ => .waiting⟩

/-- A fetch that makes a call for the same key, which brings `q`, and brings `p` itself. -/
def nestedFetch (key : CacheKey) (p q : List Property) : StateM Cache (Except Unit (List Property)) := do
  let _ ← getOrFetch key (pure (.ok q) : StateM Cache (Except Unit (List Property)))
  pure (.ok p)

/-- What is there when both calls have returned, the one that the fetch makes and the one that fetches. -/
def answered (key : CacheKey) (p q : List Property) : Shared Bool Unit :=
  ⟨((getOrFetch key (nestedFetch key p q)).run empty).2, fun inner => .returned (.ok (if inner then q else p))⟩

/-- A call overlaps with the call that its fetch makes. -/
lemma runs_nestedFetch (key : CacheKey) (p q : List Property) : Runs key unasked [q, p] (answered key p q) := by
  have hinner : Runs key ⟨empty, Function.update unasked.stages false .fetching⟩ [q] _ :=
    Runs.getOrFetch (i := true) rfl rfl (pure (.ok q)) .start rfl rfl
  have houter := Runs.getOrFetch (s := unasked) (i := false) rfl rfl (nestedFetch key p q) hinner rfl rfl
  convert houter using 2
  · rfl
  · rfl
  · funext inner
    cases inner <;> rfl

/-- Calls that overlap and bring the same agree. -/
theorem runs_agree_iff_nestedFetch :
    (∀ i, unasked.stages i = .waiting)
      ∧ Runs ⟨.alarms, ⟨"http://localhost", "21.0.0", .horizon⟩⟩ unasked [[], []]
          (answered ⟨.alarms, ⟨"http://localhost", "21.0.0", .horizon⟩⟩ [] [])
      ∧ ∀ i p, (answered ⟨.alarms, ⟨"http://localhost", "21.0.0", .horizon⟩⟩ [] []).stages i = .returned (.ok p) →
          (answered ⟨.alarms, ⟨"http://localhost", "21.0.0", .horizon⟩⟩ [] []).cache.get?
            ⟨.alarms, ⟨"http://localhost", "21.0.0", .horizon⟩⟩ = some p :=
  ⟨fun _ => rfl, runs_nestedFetch _ [] [], (runs_agree_iff (fun _ => rfl) (runs_nestedFetch _ [] [])).1.mpr (by simp)⟩

/-- **Calls that overlap need not agree.** The call within a fetch finds nothing, as the call that fetches did, and returns
what it has brought; the call that fetches returns something else, and puts it in. -/
theorem not_runs_agree :
    ¬ ∀ (key : CacheKey) (s t : Shared Bool Unit) (ps : List (List Property)), (∀ i, s.stages i = .waiting) →
      Runs key s ps t → ∀ i j p q, t.stages i = .returned (.ok p) → t.stages j = .returned (.ok q) → p = q := by
  let inner : Property := ⟨"inner", "inner", true, .string, []⟩
  let outer : Property := ⟨"outer", "outer", true, .string, []⟩
  intro h
  have hsame := h ⟨.alarms, ⟨"http://localhost", "21.0.0", .horizon⟩⟩ _ _ _ (fun _ => rfl)
    (runs_nestedFetch _ [outer] [inner]) true false [inner] [outer] rfl rfl
  exact absurd hsame (by decide)

end MonitorQuery.Cache
