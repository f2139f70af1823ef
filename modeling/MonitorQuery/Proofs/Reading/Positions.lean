import MonitorQuery.Proofs.Reading.Grammar

/-!
Where a fault is reported.

Tokens are taken one by one, and what has been taken without a fault can be completed. So the tokens up to the one at which
reading fails are the shortest that nothing completes; and if there is no such token, the tokens have ended too early. A fault
is reported at that token, or behind the last one. But a token that should begin a restriction or compare is reported one place
too far.

* `Extendable`: tokens that further ones complete to clauses. `exists_completion`: **what has been read can be completed**, by
  induction on the open lists. `extendable_iff`: tokens are extendable just if they are read without a fault.
* `error_cases`: a reading fails at one token, or at the end. `isShortestStuck_of_step`: the tokens up to that one are the
  shortest front that is not extendable.
* `PointsAtFault`: a fault is reported at the last token of the shortest such front, or behind the tokens if there is none.
* `pointsAtFault_iff`: **when it is reported there.** `not_pointsAtFault`: not for an operator in the place of an attribute.
-/

namespace MonitorQuery.Query

/-- The token that the wording of a fault names as found. -/
def TokenFault.found? : TokenFault → Option String
  | .attributeExpected found | .comparatorUnknown found | .operatorExpected found => some found
  | _ => none

/-- Further tokens complete the tokens to some from which clauses are read. -/
def Extendable (ts : List String) : Prop := ∃ more cs, clausesOfTokens (ts ++ more) = .ok cs

/-- The shortest front of tokens that no further ones complete. -/
structure IsShortestStuck (ts front : List String) : Prop where
  front_le : front <+: ts
  stuck : ¬ Extendable front
  shortest : ∀ shorter, shorter <+: ts → shorter.length < front.length → Extendable shorter

/-- **A fault points at the token at fault**: at the last token of the shortest front that cannot be extended, or behind all
tokens if every front can be. A token that it names as found is the one at its position. -/
structure PointsAtFault (ts : List String) (e : TokenError) : Prop where
  at_stuck : ∀ front, IsShortestStuck ts front → e.position = front.length
  at_end : (∀ front, front <+: ts → Extendable front) → e.position = ts.length + 1
  names : ∀ found, e.fault.found? = some found → ts[e.position - 1]? = some found

/-! ### What has been read can be completed -/

section

variable {ts : List String} {r r' : Reading} {count : ℕ} {fault : TokenFault}

/-- Tokens that are read without a fault are passed over. -/
lemma takeAll_append (h : ts.foldlM Reading.step r = .ok r') (count : ℕ) (rest : List String) :
    r.takeAll count (ts ++ rest) = r'.takeAll (count + ts.length) rest := by
  induction ts generalizing r count with
  | nil =>
      cases h
      rfl
  | cons token ts ih =>
      obtain ⟨q, hstep, h⟩ := bind_eq_ok.mp h
      rw [List.cons_append, Reading.takeAll_cons hstep, ih h, List.length_cons, Nat.add_right_comm, Nat.add_assoc]

/-- Open lists are closed one by one. -/
lemma exists_closings (enclosing : List OpenList) (clauses : List Clause) :
    ∃ more cs, ∀ count, (Reading.mk enclosing clauses .link).takeAll count more = .ok cs := by
  induction enclosing generalizing clauses with
  | nil => exact ⟨[], clauses, fun _ => rfl⟩
  | cons outer enclosing ih =>
      obtain ⟨more, cs, hread⟩ := ih (outer.clauses ++ [.group outer.operator clauses])
      refine ⟨Token.closing :: more, cs, fun count => ?_⟩
      rw [Reading.takeAll_cons (step_closing outer enclosing clauses), hread]

/-- **What has been read can be completed**: with a restriction, or what is missing of it, and a `)` for every open list. -/
lemma exists_completion (r : Reading) : ∃ more cs, ∀ count, r.takeAll count more = .ok cs := by
  have hattr : IsAttribute "a" := ⟨by decide, by decide, by decide⟩
  have hfind : Comparator.find "eq" = some .eq := by decide
  obtain ⟨enclosing, clauses, awaiting⟩ := r
  cases awaiting with
  | link => exact exists_closings enclosing clauses
  | value op attr c =>
      obtain ⟨more, cs, hread⟩ := exists_closings enclosing _
      refine ⟨"x" :: more, cs, fun count => ?_⟩
      rw [Reading.takeAll_cons (step_value ..), hread]
  | comparator op attr =>
      obtain ⟨more, cs, hread⟩ := exists_closings enclosing _
      refine ⟨"eq" :: "x" :: more, cs, fun count => ?_⟩
      rw [Reading.takeAll_cons (step_comparator hfind rfl ..), Reading.takeAll_cons (step_value ..), hread]
  | term op =>
      obtain ⟨more, cs, hread⟩ := exists_closings enclosing _
      refine ⟨"a" :: "eq" :: "x" :: more, cs, fun count => ?_⟩
      rw [Reading.takeAll_cons (hattr.step ..), Reading.takeAll_cons (step_comparator hfind rfl ..),
        Reading.takeAll_cons (step_value ..), hread]

/-- What is read with further tokens behind it is read without a fault. -/
lemma exists_of_takeAll_append {more : List String} {cs : List Clause} (h : r.takeAll count (ts ++ more) = .ok cs) :
    ∃ r', ts.foldlM Reading.step r = .ok r' := by
  induction ts generalizing r count with
  | nil => exact ⟨r, rfl⟩
  | cons token ts ih =>
      obtain ⟨q, hstep, h⟩ := bind_eq_ok.mp h
      obtain ⟨r', hr'⟩ := ih h
      exact ⟨r', bind_eq_ok.mpr ⟨q, mapError_eq_ok.mp hstep, hr'⟩⟩

lemma clausesOfTokens_of_ne_nil (h : ts ≠ []) : clausesOfTokens ts = Reading.start.takeAll 0 ts := by
  obtain ⟨token, rest, rfl⟩ := List.exists_cons_of_ne_nil h
  rfl

/-- **Tokens can be extended to clauses just if they are read without a fault.** -/
lemma extendable_iff : Extendable ts ↔ ∃ r, ts.foldlM Reading.step Reading.start = .ok r := by
  constructor
  · rintro ⟨more, cs, h⟩
    by_cases hnil : ts ++ more = []
    · rw [(List.append_eq_nil_iff.mp hnil).1]
      exact ⟨Reading.start, rfl⟩
    · rw [clausesOfTokens_of_ne_nil hnil] at h
      exact exists_of_takeAll_append h
  · rintro ⟨r, h⟩
    obtain ⟨more, cs, hread⟩ := exists_completion r
    by_cases hnil : ts ++ more = []
    · exact ⟨more, [], by rw [hnil]; rfl⟩
    · exact ⟨more, cs, by rw [clausesOfTokens_of_ne_nil hnil, takeAll_append h, hread]⟩

/-! ### The token at fault -/

/-- Reading fails at a token, after those before it, or at the end. -/
lemma error_cases {e : TokenError} (h : clausesOfTokens ts = .error e) :
    (∃ before token behind r fault, ts = before ++ token :: behind ∧ before.foldlM Reading.step Reading.start = .ok r
        ∧ r.step token = .error fault ∧ e = ⟨fault, fault.positionAfter before.length⟩)
      ∨ ∃ r fault, ts.foldlM Reading.step Reading.start = .ok r ∧ r.finish = .error fault
        ∧ e = ⟨fault, fault.positionAfter ts.length⟩ := by
  have hne : ts ≠ [] := by
    rintro rfl
    cases h
  rw [clausesOfTokens_of_ne_nil hne] at h
  cases hfold : ts.foldlM Reading.step Reading.start with
  | error fault =>
      obtain ⟨before, token, behind, r, rfl, hbefore, hstep⟩ := foldlM_eq_error_iff.mp hfold
      rw [takeAll_append hbefore, Reading.takeAll, hstep, Nat.zero_add] at h
      cases h
      exact Or.inl ⟨before, token, behind, r, fault, rfl, hbefore, hstep, rfl⟩
  | ok r =>
      rw [← List.append_nil ts, takeAll_append hfold, Reading.takeAll, Nat.zero_add] at h
      obtain ⟨fault, hfinish, rfl⟩ := mapError_eq_error.mp h
      exact Or.inr ⟨r, fault, rfl, hfinish, rfl⟩

/-- The tokens up to the one at which reading fails are the shortest that cannot be extended. -/
lemma isShortestStuck_of_step {before behind : List String} {token : String}
    (hbefore : before.foldlM Reading.step Reading.start = .ok r) (hstep : r.step token = .error fault) :
    IsShortestStuck (before ++ token :: behind) (before ++ [token]) := by
  refine ⟨⟨behind, by simp⟩, ?_, ?_⟩
  · rw [extendable_iff]
    rintro ⟨q, hq⟩
    rw [List.foldlM_append, hbefore, ok_bind, List.foldlM_cons, hstep] at hq
    cases hq
  · intro shorter hshorter hlength
    rw [List.length_append, List.length_singleton] at hlength
    obtain ⟨rest, hrest⟩ : shorter <+: before :=
      List.prefix_of_prefix_length_le hshorter (List.prefix_append before (token :: behind)) (by omega)
    rw [extendable_iff]
    rw [← hrest, List.foldlM_append] at hbefore
    obtain ⟨q, hq, -⟩ := bind_eq_ok.mp hbefore
    exact ⟨q, hq⟩

/-- There is one such length. -/
lemma IsShortestStuck.length_eq {front other : List String} (h : IsShortestStuck ts front)
    (hother : IsShortestStuck ts other) : front.length = other.length := by
  rcases Nat.lt_trichotomy front.length other.length with hlt | heq | hgt
  · exact absurd (hother.shortest front h.front_le hlt) h.stuck
  · exact heq
  · exact absurd (h.shortest other hother.front_le hgt) hother.stuck

/-- A token that a fault names as found is the one that has been taken. -/
lemma eq_of_found {token found : String} (h : r.step token = .error fault) (hfound : fault.found? = some found) :
    found = token := by
  obtain ⟨enclosing, clauses, awaiting⟩ := r
  cases awaiting with
  | term op =>
      simp only [Reading.step] at h
      split_ifs at h
      cases h
      exact (Option.some.inj hfound).symm
  | comparator op attr =>
      simp only [Reading.step] at h
      split at h
      · cases h
        exact (Option.some.inj hfound).symm
      · split_ifs at h
  | value op attr c => cases h
  | link =>
      simp only [Reading.step] at h
      split_ifs at h
      · cases enclosing with
        | nil =>
            cases h
            cases hfound
        | cons outer enclosing => cases h
      · split at h
        · cases h
          exact (Option.some.inj hfound).symm
        · cases h

/-- What ends too early is reported behind the tokens, and nothing is named as found. -/
lemma of_finish (h : r.finish = .error fault) : fault.isTaken = false ∧ fault.found? = none := by
  obtain ⟨enclosing, clauses, awaiting⟩ := r
  cases awaiting with
  | link =>
      simp only [Reading.finish] at h
      split_ifs at h
      cases h
      exact ⟨rfl, rfl⟩
  | _ =>
      cases h
      exact ⟨rfl, rfl⟩

lemma exists_found_of_isTaken (h : fault.isTaken = true) : ∃ found, fault.found? = some found := by
  cases fault with
  | attributeExpected found => exact ⟨found, rfl⟩
  | comparatorUnknown found => exact ⟨found, rfl⟩
  | _ => cases h

lemma positionAfter_of_isTaken (h : fault.isTaken = true) : fault.positionAfter count = count + 2 := if_pos h

lemma positionAfter_of_not_isTaken (h : fault.isTaken = false) : fault.positionAfter count = count + 1 :=
  if_neg (by simp [h])

/-- A fault at a token points at it unless the token has been taken. -/
lemma pointsAtFault_step_iff {before behind : List String} {token : String}
    (hbefore : before.foldlM Reading.step Reading.start = .ok r) (hstep : r.step token = .error fault) :
    PointsAtFault (before ++ token :: behind) ⟨fault, fault.positionAfter before.length⟩ ↔ fault.isTaken = false := by
  have hstuck : IsShortestStuck (before ++ token :: behind) (before ++ [token]) := isShortestStuck_of_step hbefore hstep
  have hlength : (before ++ [token]).length = before.length + 1 := List.length_append
  constructor
  · intro h
    have hplace : fault.positionAfter before.length = (before ++ [token]).length := h.at_stuck _ hstuck
    by_contra htaken
    rw [positionAfter_of_isTaken (by simpa using htaken), hlength] at hplace
    omega
  · intro htaken
    rw [positionAfter_of_not_isTaken htaken]
    refine ⟨fun front hfront => ?_, fun hall => ?_, fun found hfound => ?_⟩
    · exact hlength.symm.trans (hstuck.length_eq hfront)
    · exact absurd (hall _ hstuck.front_le) hstuck.stuck
    · rw [eq_of_found hstep hfound, Nat.add_sub_cancel, List.getElem?_append_right le_rfl, Nat.sub_self]
      rfl

/-- A fault at the end of the tokens points behind them. -/
lemma pointsAtFault_of_finish (hread : ts.foldlM Reading.step Reading.start = .ok r) (hfinish : r.finish = .error fault) :
    PointsAtFault ts ⟨fault, fault.positionAfter ts.length⟩ := by
  obtain ⟨htaken, hfound⟩ := of_finish hfinish
  have hextendable : ∀ front, front <+: ts → Extendable front := by
    rintro front ⟨rest, rfl⟩
    rw [List.foldlM_append] at hread
    obtain ⟨q, hq, -⟩ := bind_eq_ok.mp hread
    exact extendable_iff.mpr ⟨q, hq⟩
  refine ⟨fun front hfront => ?_, fun _ => positionAfter_of_not_isTaken htaken, fun found hnamed => ?_⟩
  · exact absurd (hextendable front hfront.front_le) hfront.stuck
  · rw [hfound] at hnamed
    cases hnamed

end

/-- **When a fault points at the token at fault**: unless the token should have begun a restriction or been a comparator. Such a
token has been taken by then, and the fault, which names it, is reported one place behind it. -/
theorem pointsAtFault_iff {args : List String} {e : TokenError} (h : clausesOf args = .error e) :
    (PointsAtFault (Token.ofArguments args) e ↔ e.fault.isTaken = false)
      ∧ (e.fault.isTaken = true → ∃ front, IsShortestStuck (Token.ofArguments args) front
          ∧ e.position = front.length + 1 ∧ e.fault.found? = front.getLast?) := by
  rcases error_cases h with
    ⟨before, token, behind, r, fault, htokens, hbefore, hstep, rfl⟩ | ⟨r, fault, hread, hfinish, rfl⟩
  · rw [htokens]
    refine ⟨pointsAtFault_step_iff hbefore hstep, fun htaken => ?_⟩
    obtain ⟨found, hfound⟩ := exists_found_of_isTaken htaken
    refine ⟨before ++ [token], isShortestStuck_of_step hbefore hstep, ?_, ?_⟩
    · rw [List.length_append, List.length_singleton]
      exact positionAfter_of_isTaken htaken
    · rw [hfound, eq_of_found hstep hfound, List.getLast?_concat]
  · have htaken := (of_finish hfinish).1
    refine ⟨iff_of_true (pointsAtFault_of_finish hread hfinish) htaken, fun htrue => ?_⟩
    rw [htaken] at htrue
    cases htrue

/-- A word that is no comparator, in a group glued to its neighbours: it is the seventh token, and the eighth is reported. -/
theorem pointsAtFault_iff_group :
    ∃ front, IsShortestStuck ["(", "a", "eq", "1", "or", "b", "between", "2", ")"] front
      ∧ 8 = front.length + 1 ∧ some "between" = front.getLast? := by
  have hread : clausesOf ["(a", "eq", "1", "or", "b", "between", "2)"] = .error ⟨.comparatorUnknown "between", 8⟩ := rfl
  exact (pointsAtFault_iff hread).2 rfl

/-- **A fault does not always point at the token at fault**: an operator in the place of an attribute is the first token, and the
second is reported. -/
theorem not_pointsAtFault :
    ¬ ∀ (args : List String) (e : TokenError), clausesOf args = .error e → PointsAtFault (Token.ofArguments args) e := by
  intro h
  have hpoints := h ["and", "id", "eq", "1"] ⟨.attributeExpected "and", 2⟩ rfl
  have hbefore : [].foldlM Reading.step Reading.start = .ok Reading.start := rfl
  have hstuck : IsShortestStuck ([] ++ "and" :: ["id", "eq", "1"]) ([] ++ ["and"]) := isShortestStuck_of_step hbefore rfl
  have hplace := hpoints.at_stuck ["and"] hstuck
  exact absurd hplace (by decide)

end MonitorQuery.Query
