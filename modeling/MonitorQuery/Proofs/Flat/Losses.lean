import Mathlib.Data.List.TakeWhile
import MonitorQuery.Proofs.Flat.Calls

/-!
What a flat request loses.

Every restriction adds its text at its attribute, and texts at one attribute stand one after the other. But the comparator and the
direction take the place of what stands at their keys, and an attribute can have the name of either.

* `textsOn`: the texts of the restrictions on an attribute.
* `leave_restrictionCalls_of_ne`, `leave_restrictionCalls_comparator`: what the clauses leave at a key.
* `textsOn_sublist_leave_iff`: what they take away. What the sort keys take away is told beside their calls.
* `textsOn_sublist_getAll_iff`: **when a request has all the texts of an attribute.**
* `not_textsOn_sublist_getAll`: a null check on an attribute named `comparator` is lost to the comparison after it.
-/

namespace MonitorQuery.Request.Flat

open MonitorQuery.Query

variable {rs : List Restriction} {a : String}

/-- The texts of the restrictions on an attribute. -/
def textsOn (a : String) (rs : List Restriction) : List String := (rs.filter fun r => r.attr = a).map textOf

lemma textsOn_append (a : String) (rs qs : List Restriction) : textsOn a (rs ++ qs) = textsOn a rs ++ textsOn a qs := by
  rw [textsOn, List.filter_append, List.map_append]
  rfl

/-- The texts before the first comparison and those from there on. -/
lemma textsOn_eq (a : String) (rs : List Restriction) :
    textsOn a rs = textsOn a (leading rs) ++ textsOn a (remaining rs) := by
  rw [← textsOn_append, leading_append_remaining]

/-! ### What the clauses take away -/

/-- No comparison has the name that a null check is sent as. -/
lemma fold_label_ne {c : Comparator} (h : c.isNullCheck = false) :
    Text.fold c.label ≠ Value.nullWord ∧ Text.fold c.label ≠ notNullWord := by
  cases c with
  | null | notNull => cases h
  | _ => decide

lemma textOf_of_isNullCheck {r : Restriction} (h : r.comparator.isNullCheck = true) :
    textOf r = Value.nullWord ∨ textOf r = notNullWord := by
  obtain ⟨attr, c, value⟩ := r
  cases c with
  | null => exact .inl rfl
  | notNull => exact .inr rfl
  | _ => cases h

/-- The texts before the first comparison are those of null checks, so none is the name of a comparison. -/
lemma ne_fold_label_of_mem_leading {c : Comparator} (hc : c.isNullCheck = false) {text : String}
    (h : text ∈ textsOn a (leading rs)) : text ≠ Text.fold c.label := by
  obtain ⟨r, hr, rfl⟩ := List.mem_map.mp h
  have hnull : r.comparator.isNullCheck = true :=
    List.mem_takeWhile_imp (p := fun r : Restriction => r.comparator.isNullCheck) (List.mem_of_mem_filter hr)
  obtain htext | htext := textOf_of_isNullCheck hnull
  · rw [htext]
    exact (fold_label_ne hc).1.symm
  · rw [htext]
    exact (fold_label_ne hc).2.symm

/-- The restriction that sets the comparator is a comparison. -/
lemma isNullCheck_of_head?_remaining {r : Restriction} (h : (remaining rs).head? = some r) :
    r.comparator.isNullCheck = false := by
  have hhead := List.head?_dropWhile_not (fun r : Restriction => r.comparator.isNullCheck) rs
  rw [remaining] at h
  rwa [h] at hhead

/-- A comparison is in the way of the null checks before it: its name takes their place, and is not one of them. -/
lemma textsOn_sublist_cons_iff {r : Restriction} (hr : (remaining rs).head? = some r) :
    (textsOn a rs).Sublist (Text.fold r.comparator.label :: textsOn a (remaining rs)) ↔ textsOn a (leading rs) = [] := by
  rw [textsOn_eq]
  constructor
  · intro h
    cases hleading : textsOn a (leading rs) with
    | nil => rfl
    | cons text texts =>
        have hne : text ≠ Text.fold r.comparator.label :=
          ne_fold_label_of_mem_leading (isNullCheck_of_head?_remaining hr) (by rw [hleading]; exact List.mem_cons_self)
        -- Heads differ, so the first text would have to come from behind, where there are not enough texts.
        rw [hleading, List.cons_append] at h
        have hlength := (h.of_cons_of_ne hne).length_le
        rw [List.length_cons, List.length_append] at hlength
        omega
  · intro h
    rw [h, List.nil_append]
    exact List.sublist_cons_self _ _

lemma leave_map_callOf (values : List String) (rs : List Restriction) :
    (rs.map callOf).foldl (Params.Call.leave a) values = values ++ textsOn a rs :=
  Params.foldl_leave_map_append a Restriction.attr textOf values rs

/-- Restrictions leave their texts behind what stands at their attribute, unless that is the key of the comparator. -/
lemma leave_restrictionCalls_of_ne (ha : a ≠ comparatorKey) (values : List String) (rs : List Restriction) :
    (restrictionCalls rs).foldl (Params.Call.leave a) values = values ++ textsOn a rs := by
  rw [restrictionCalls, List.foldl_append, List.foldl_append, leave_map_callOf, leave_map_callOf,
    textsOn_eq a rs]
  cases (remaining rs).head? <;> simp [comparatorCall, Params.Call.leave, Ne.symm ha]

/-- At the key of the comparator the first comparison takes the place of all that stood there. -/
lemma leave_restrictionCalls_comparator (values : List String) (rs : List Restriction) :
    (restrictionCalls rs).foldl (Params.Call.leave comparatorKey) values
      = match (remaining rs).head? with
        | none => values ++ textsOn comparatorKey rs
        | some r => Text.fold r.comparator.label :: textsOn comparatorKey (remaining rs) := by
  rw [restrictionCalls, List.foldl_append, List.foldl_append, leave_map_callOf, leave_map_callOf,
    textsOn_eq comparatorKey rs]
  cases (remaining rs).head? <;> simp [comparatorCall, Params.Call.leave]

/-- **What the clauses take away**: the null checks before the first comparison, on an attribute named `comparator`. -/
lemma textsOn_sublist_leave_iff (values : List String) :
    (textsOn a rs).Sublist ((restrictionCalls rs).foldl (Params.Call.leave a) values)
      ↔ (a = comparatorKey → remaining rs ≠ [] → textsOn a (leading rs) = []) := by
  by_cases ha : a = comparatorKey
  · subst ha
    rw [leave_restrictionCalls_comparator]
    cases hhead : (remaining rs).head? with
    | none =>
        have hnil : remaining rs = [] := List.head?_eq_none_iff.mp hhead
        simp [hnil]
    | some r =>
        have hne : remaining rs ≠ [] := fun hnil => by rw [hnil] at hhead; cases hhead
        rw [textsOn_sublist_cons_iff hhead]
        exact ⟨fun h _ _ => h, fun h => h rfl hne⟩
  · rw [leave_restrictionCalls_of_ne ha]
    exact ⟨fun _ h => absurd h ha, fun _ => List.sublist_append_right _ _⟩

/-! ### What a request has -/

/-- The values of a request at a key are what the clauses, and then the sort keys, leave there. -/
lemma getAll_of_compile {f : Filter} {p : Params} (h : compile f = .ok p) (a : String) :
    p.getAll a = (sortCalls f.sortKeys).foldl (Params.Call.leave a)
      ((restrictionCalls (restrictionsOf f.clauses)).foldl (Params.Call.leave a)
        ((limitCalls f.limit).foldl (Params.Call.leave a) [])) := by
  rw [(of_compile h).2, Params.getAll_foldl_perform, filterCalls, List.foldl_append, List.foldl_append]
  rfl

/-- **When a request has all the texts of an attribute.** The clauses of an accepted filter are restrictions joined by OR. The
texts of those on an attribute are all there, in the order of the clauses, just if two things hold. For an attribute named
`comparator`, none of its null checks stands before the first comparison. For one named `order`, if there are sort keys there is
no text, or just the direction itself. So for all other attributes nothing is lost. -/
theorem textsOn_sublist_getAll_iff {f : Filter} {p : Params} (h : compile f = .ok p) :
    f.clauses = (restrictionsOf f.clauses).map (.restriction .or)
      ∧ ∀ a, (textsOn a (restrictionsOf f.clauses)).Sublist (p.getAll a)
        ↔ (a = comparatorKey → remaining (restrictionsOf f.clauses) ≠ [] →
              textsOn a (leading (restrictionsOf f.clauses)) = [])
            ∧ (a = orderKey → ∀ k ∈ f.sortKeys.head?,
                textsOn a (restrictionsOf f.clauses) = [] ∨ textsOn a (restrictionsOf f.clauses) = [k.order.label]) := by
  refine ⟨(of_compile h).1, fun a => ?_⟩
  rw [getAll_of_compile h]
  by_cases horder : a = orderKey
  · subst horder
    have hne : orderKey ≠ comparatorKey := by decide
    rw [leave_sortCalls_order]
    cases f.sortKeys.head? with
    | none => simp [leave_restrictionCalls_of_ne hne, hne]
    | some k => simp [List.sublist_singleton, hne]
  · by_cases horderBy : a = orderByKey
    · subst horderBy
      have hne : orderByKey ≠ comparatorKey := by decide
      rw [leave_sortCalls_orderBy, leave_restrictionCalls_of_ne hne]
      exact iff_of_true ((List.sublist_append_right _ _).trans (List.sublist_append_left _ _))
        ⟨fun heq => absurd heq hne, fun heq => absurd heq horder⟩
    · rw [leave_sortCalls_of_ne horder horderBy, textsOn_sublist_leave_iff]
      exact (and_iff_left fun heq => absurd heq horder).symm

/-- Behind a comparison a null check on an attribute named `comparator` arrives. -/
theorem textsOn_sublist_getAll_iff_nullCheck :
    ∃ p, compile { clauses := [.restriction .or ⟨"a", .eq, some (.text "1")⟩, .restriction .or ⟨"comparator", .null, none⟩] }
        = .ok p
      ∧ (textsOn comparatorKey [⟨"a", .eq, some (.text "1")⟩, ⟨"comparator", .null, none⟩]).Sublist
          (p.getAll comparatorKey) := by
  let f : Filter :=
    { clauses := [.restriction .or ⟨"a", .eq, some (.text "1")⟩, .restriction .or ⟨"comparator", .null, none⟩] }
  have h : compile f = .ok ⟨[("limit", ⟨"1000", []⟩), ("comparator", ⟨"eq", ["null"]⟩), ("a", ⟨"1", []⟩)]⟩ := by decide
  exact ⟨_, h, ((textsOn_sublist_getAll_iff h).2 comparatorKey).mpr
    ⟨fun _ _ => by decide, fun heq => absurd heq (by decide)⟩⟩

/-- **Not all texts arrive.** A null check on an attribute named `comparator` is lost to the comparison after it. -/
theorem not_textsOn_sublist_getAll :
    ¬ ∀ (f : Filter) (p : Params) (a : String), compile f = .ok p →
      (textsOn a (restrictionsOf f.clauses)).Sublist (p.getAll a) := by
  intro h
  have hlost := h { clauses := [.restriction .or ⟨"comparator", .null, none⟩, .restriction .or ⟨"a", .eq, some (.text "1")⟩] }
    ⟨[("limit", ⟨"1000", []⟩), ("comparator", ⟨"eq", []⟩), ("a", ⟨"1", []⟩)]⟩ "comparator" (by decide)
  exact absurd hlost (by decide)

end MonitorQuery.Request.Flat
