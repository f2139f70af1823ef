import MonitorQuery.Proofs.Flat.Layout

/-!
Null checks and comparisons with nothing.

A null check is sent as the word `null`, and so is the missing value of a comparison. What tells the two apart is the comparator of
the request, and that is set once, by the first comparison. So one clause can be a null check or a comparison without a value, and
the request need not show which.

* `Slot`: a filter in which one restriction is left open.
* `Slot.compile_eq_of_hasComparison`: **behind a comparison the null check and the comparison make the same request.**
* `Slot.getAll_comparatorKey_ne`: they make different ones where there is no other comparison.
* `Slot.getAll_eq_iff`, `Slot.keys_eq_iff`: where the next comparison stands behind the clause, the values are the same unless an
  attribute up to it is named `comparator`, and the keys stand in the same order unless a new attribute comes up to it.
* `compile_nullCheck_eq_iff`: **when a null check can be told from a comparison without a value.**
* `not_compile_nullCheck_ne`: it cannot always.
-/

namespace MonitorQuery.Request.Flat

open MonitorQuery.Query

/-! ### Restrictions before and behind others -/

lemma restrictionsOf_append (cs ds : List Clause) : restrictionsOf (cs ++ ds) = restrictionsOf cs ++ restrictionsOf ds :=
  List.filterMap_append

section Append

variable {rs : List Restriction} (qs : List Restriction)

/-- The first comparison is where it was if others are put behind. -/
lemma remaining_append_of_ne_nil (h : remaining rs ≠ []) : remaining (rs ++ qs) = remaining rs ++ qs := by
  rw [remaining, List.dropWhile_append, if_neg]
  · rfl
  · simpa [remaining] using h

lemma leading_append_of_ne_nil (h : remaining rs ≠ []) : leading (rs ++ qs) = leading rs := by
  have hparts := leading_append_remaining (rs ++ qs)
  rw [remaining_append_of_ne_nil qs h, ← List.append_assoc] at hparts
  have hsame := (List.append_cancel_right hparts).trans (leading_append_remaining rs).symm
  exact List.append_cancel_right hsame

/-- Behind null checks the first comparison is the first of those behind. -/
lemma leading_append_of_eq_nil (h : remaining rs = []) : leading (rs ++ qs) = rs ++ leading qs :=
  List.takeWhile_append_of_pos (remaining_eq_nil_iff.mp h)

lemma remaining_append_of_eq_nil (h : remaining rs = []) : remaining (rs ++ qs) = remaining qs :=
  List.dropWhile_append_of_pos (remaining_eq_nil_iff.mp h)

end Append

/-- Some clause is a comparison. -/
def HasComparison (cs : List Clause) : Prop := ∃ r ∈ restrictionsOf cs, r.comparator.isNullCheck = false

instance (cs : List Clause) : Decidable (HasComparison cs) := inferInstanceAs (Decidable (∃ r ∈ restrictionsOf cs, _))

lemma hasComparison_iff {cs : List Clause} : HasComparison cs ↔ remaining (restrictionsOf cs) ≠ [] :=
  remaining_ne_nil_iff.symm

/-! ### One restriction in a filter -/

/-- A filter in which one restriction is left open. -/
structure Slot where
  limit : Option ℕ
  before : List Clause
  op : Operator
  behind : List Clause
  sortKeys : List SortKey

namespace Slot

/-- The filter with the restriction. -/
def fill (s : Slot) (r : Restriction) : Filter := ⟨s.limit, s.before ++ .restriction s.op r :: s.behind, s.sortKeys⟩

/-- The keys that are in the request before the restriction. -/
def named (s : Slot) : List String := (s.limit.map fun _ => limitKey).toList ++ (restrictionsOf s.before).map (·.attr)

/-- The attributes behind the restriction, up to the next comparison. -/
def pending (s : Slot) : List String := (leading (restrictionsOf s.behind)).map (·.attr)

variable {s : Slot} {a : String} {c : Comparator} {p q : Params}

lemma restrictionsOf_fill (s : Slot) (r : Restriction) :
    restrictionsOf (s.fill r).clauses = restrictionsOf s.before ++ r :: restrictionsOf s.behind := by
  rw [fill, restrictionsOf_append, restrictionsOf_cons]

/-- A comparison without a value is the same call as a null check. -/
lemma callOf_eq (hc : c.isNullCheck = false) : callOf ⟨a, .null, none⟩ = callOf ⟨a, c, none⟩ := by
  rw [callOf, callOf]
  cases c with
  | null | notNull => cases hc
  | _ => rfl

/-- The texts of a restriction are those of its call. -/
lemma textsOn_eq_of_callOf_eq {r r' : Restriction} (h : callOf r = callOf r') (key : String) (rs : List Restriction) :
    textsOn key (r :: rs) = textsOn key (r' :: rs) := by
  obtain ⟨hattr, htext⟩ := Params.Call.append.inj h
  simp only [textsOn, List.filter_cons, hattr]
  split <;> simp [htext]

/-! ### A comparison before the clause -/

/-- Behind a comparison a restriction is no more than its call. -/
lemma restrictionCalls_append_cons_of_ne_nil {rs qs : List Restriction} {r r' : Restriction} (hrs : remaining rs ≠ [])
    (h : callOf r = callOf r') : restrictionCalls (rs ++ r :: qs) = restrictionCalls (rs ++ r' :: qs) := by
  obtain ⟨first, rest, hfirst⟩ := List.exists_cons_of_ne_nil hrs
  rw [restrictionCalls, restrictionCalls, leading_append_of_ne_nil _ hrs, leading_append_of_ne_nil _ hrs,
    remaining_append_of_ne_nil _ hrs, remaining_append_of_ne_nil _ hrs, hfirst]
  simp [h]

/-- **Behind a comparison the null check and the comparison make the same request.** -/
lemma compile_eq_of_hasComparison (hc : c.isNullCheck = false) (hp : compile (s.fill ⟨a, .null, none⟩) = .ok p)
    (hq : compile (s.fill ⟨a, c, none⟩) = .ok q) (hbefore : HasComparison s.before) : p = q := by
  rw [(of_compile hp).2, (of_compile hq).2, filterCalls, filterCalls, restrictionsOf_fill, restrictionsOf_fill,
    restrictionCalls_append_cons_of_ne_nil (hasComparison_iff.mp hbefore) (callOf_eq hc)]
  rfl

/-! ### Null checks before the clause -/

/-- At every key but that of the comparator the requests agree. -/
lemma getAll_eq_of_ne (hc : c.isNullCheck = false) (hp : compile (s.fill ⟨a, .null, none⟩) = .ok p)
    (hq : compile (s.fill ⟨a, c, none⟩) = .ok q) {key : String} (hkey : key ≠ comparatorKey) :
    p.getAll key = q.getAll key := by
  rw [getAll_of_compile hp, getAll_of_compile hq, leave_restrictionCalls_of_ne hkey, leave_restrictionCalls_of_ne hkey,
    restrictionsOf_fill, restrictionsOf_fill, textsOn_append, textsOn_append, textsOn_eq_of_callOf_eq (callOf_eq hc)]
  rfl

/-- What a request has at the key of the comparator. -/
lemma getAll_comparatorKey {r : Restriction} (hp : compile (s.fill r) = .ok p) :
    p.getAll comparatorKey
      = match (remaining (restrictionsOf (s.fill r).clauses)).head? with
        | none => textsOn comparatorKey (restrictionsOf (s.fill r).clauses)
        | some first =>
          Text.fold first.comparator.label :: textsOn comparatorKey (remaining (restrictionsOf (s.fill r).clauses)) := by
  have hclauses := leave_restrictionCalls_comparator [] (restrictionsOf (s.fill r).clauses)
  rw [List.nil_append] at hclauses
  rw [getAll_of_compile hp, leave_limitCalls_of_ne (by decide), leave_sortCalls_of_ne (by decide) (by decide)]
  exact hclauses

variable (hbefore : ¬ HasComparison s.before)

include hbefore

lemma remaining_before : remaining (restrictionsOf s.before) = [] := by
  simpa [hasComparison_iff] using hbefore

/-- With the null check the first comparison is that behind the clause. -/
lemma remaining_nullCheck :
    remaining (restrictionsOf (s.fill ⟨a, .null, none⟩).clauses) = remaining (restrictionsOf s.behind) := by
  rw [restrictionsOf_fill, remaining_append_of_eq_nil _ (remaining_before hbefore)]
  rfl

lemma leading_nullCheck :
    leading (restrictionsOf (s.fill ⟨a, .null, none⟩).clauses)
      = restrictionsOf s.before ++ ⟨a, .null, none⟩ :: leading (restrictionsOf s.behind) := by
  rw [restrictionsOf_fill, leading_append_of_eq_nil _ (remaining_before hbefore)]
  rfl

/-- With the comparison it is the clause itself. -/
lemma remaining_comparison (hc : c.isNullCheck = false) :
    remaining (restrictionsOf (s.fill ⟨a, c, none⟩).clauses) = ⟨a, c, none⟩ :: restrictionsOf s.behind := by
  rw [restrictionsOf_fill, remaining_append_of_eq_nil _ (remaining_before hbefore)]
  exact List.dropWhile_cons_of_neg (by simp [hc])

lemma leading_comparison (hc : c.isNullCheck = false) :
    leading (restrictionsOf (s.fill ⟨a, c, none⟩).clauses) = restrictionsOf s.before := by
  rw [restrictionsOf_fill, leading_append_of_eq_nil _ (remaining_before hbefore), leading,
    List.takeWhile_cons_of_neg (by simp [hc]), List.append_nil]

/-- **Without another comparison** the requests differ at the key of the comparator: one names it, the other does not. -/
lemma getAll_comparatorKey_ne (hc : c.isNullCheck = false) (hp : compile (s.fill ⟨a, .null, none⟩) = .ok p)
    (hq : compile (s.fill ⟨a, c, none⟩) = .ok q) (hbehind : ¬ HasComparison s.behind) :
    p.getAll comparatorKey ≠ q.getAll comparatorKey := by
  have hnone : remaining (restrictionsOf s.behind) = [] := by simpa [hasComparison_iff] using hbehind
  have hnulls : remaining (restrictionsOf (s.fill ⟨a, .null, none⟩).clauses) = [] :=
    (remaining_nullCheck hbefore).trans hnone
  rw [getAll_comparatorKey hp, getAll_comparatorKey hq, hnulls, remaining_comparison hbefore hc, List.head?_nil,
    List.head?_cons]
  intro heq
  have hmem : Text.fold c.label ∈ textsOn comparatorKey (leading (restrictionsOf (s.fill ⟨a, .null, none⟩).clauses)) := by
    have hall := leading_append_remaining (restrictionsOf (s.fill ⟨a, .null, none⟩).clauses)
    rw [hnulls, List.append_nil] at hall
    rw [hall]
    simp only at heq
    rw [heq]
    exact List.mem_cons_self
  exact ne_fold_label_of_mem_leading hc hmem rfl

/-- **Where the next comparison stands behind the clause**, the values are the same unless an attribute up to it is named
`comparator`: its text is gone where the comparator is set behind it. -/
lemma getAll_eq_iff (hc : c.isNullCheck = false) (hp : compile (s.fill ⟨a, .null, none⟩) = .ok p)
    (hq : compile (s.fill ⟨a, c, none⟩) = .ok q) (hbehind : HasComparison s.behind) :
    (∀ key, p.getAll key = q.getAll key) ↔ comparatorKey ∉ a :: s.pending := by
  obtain ⟨first, rest, hfirst⟩ := List.exists_cons_of_ne_nil (hasComparison_iff.mp hbehind)
  -- the next comparison has the comparator of the clause
  have hsame : first.comparator = c := by
    have hone := (exists_compile_iff.mp ⟨q, hq⟩).1.oneComparator
    have hmem : first ∈ restrictionsOf s.behind := (List.dropWhile_sublist _).subset (by rw [← remaining, hfirst]; simp)
    rw [restrictionsOf_fill] at hone
    exact hone _ (mem_comparators (by simp [hmem]) (isNullCheck_of_head?_remaining (by rw [hfirst]; rfl)))
      _ (mem_comparators (r := ⟨a, c, none⟩) (by simp) hc)
  have hpending : comparatorKey ∉ a :: s.pending
      ↔ textsOn comparatorKey (⟨a, c, none⟩ :: leading (restrictionsOf s.behind)) = [] := by
    rw [textsOn, List.map_eq_nil_iff, List.filter_eq_nil_iff]
    simp [pending, eq_comm]
  have hcomparator : p.getAll comparatorKey = q.getAll comparatorKey ↔ comparatorKey ∉ a :: s.pending := by
    rw [getAll_comparatorKey hp, getAll_comparatorKey hq, remaining_nullCheck hbefore, remaining_comparison hbefore hc,
      hpending]
    have hsplit : textsOn comparatorKey (⟨a, c, none⟩ :: restrictionsOf s.behind)
        = textsOn comparatorKey (⟨a, c, none⟩ :: leading (restrictionsOf s.behind))
          ++ textsOn comparatorKey (remaining (restrictionsOf s.behind)) := by
      rw [← textsOn_append, List.cons_append, leading_append_remaining]
    rw [hsplit, hfirst]
    simp [hsame]
  constructor
  · intro hall
    exact hcomparator.mp (hall comparatorKey)
  · intro hnotMem key
    by_cases hkey : key = comparatorKey
    · exact hkey ▸ hcomparator.mpr hnotMem
    · exact getAll_eq_of_ne hc hp hq hkey

/-- The keys stand in the same order unless a new attribute comes up to the next comparison. -/
lemma keys_eq_iff (hc : c.isNullCheck = false) (hp : compile (s.fill ⟨a, .null, none⟩) = .ok p)
    (hq : compile (s.fill ⟨a, c, none⟩) = .ok q) (hbehind : HasComparison s.behind)
    (hnotMem : comparatorKey ∉ a :: s.pending) :
    p.keys = q.keys ↔ comparatorKey ∈ s.named ∨ ∀ key ∈ a :: s.pending, key ∈ s.named := by
  obtain ⟨first, rest, hfirst⟩ := List.exists_cons_of_ne_nil (hasComparison_iff.mp hbehind)
  have hmove := @eraseDups_move_iff _ _ comparatorKey s.named (a :: s.pending)
    ((remaining (restrictionsOf s.behind)).map (·.attr) ++ (sortCalls s.sortKeys).map Params.Call.key) hnotMem
  rw [(of_compile hp).2, (of_compile hq).2, Params.keys_foldl_perform_empty, Params.keys_foldl_perform_empty, ← hmove]
  have hattrs : (restrictionsOf s.behind).map (·.attr)
      = s.pending ++ (remaining (restrictionsOf s.behind)).map (·.attr) := by
    rw [pending, ← List.map_append, leading_append_remaining]
  simp only [filterCalls, List.map_append, map_key_limitCalls, map_key_restrictionCalls, leading_nullCheck hbefore,
    remaining_nullCheck hbefore, leading_comparison hbefore hc, remaining_comparison hbefore hc, List.map_cons, hattrs]
  simp [named, fill, hfirst, pending]

end Slot

/-- **When a null check can be told from a comparison without a value.** Take two accepted filters that are the same but for one
clause, which is a null check in one and a comparison without a value in the other. At every key their requests have the same
values just if there is a comparison before the clause; or there is none before it but one behind it, and neither the attribute of
the clause nor one between it and the next comparison is named `comparator`. The requests are the same altogether if, in the second
case, the keys stand in the same order besides: the request has the key of the comparator before the clause, or it has all of those
attributes. Where there is no comparison before the clause and none behind it, they differ at the key of the comparator. -/
theorem compile_nullCheck_eq_iff {s : Slot} {a : String} {c : Comparator} {p q : Params} (hc : c.isNullCheck = false)
    (hp : compile (s.fill ⟨a, .null, none⟩) = .ok p) (hq : compile (s.fill ⟨a, c, none⟩) = .ok q) :
    ((∀ key, p.getAll key = q.getAll key)
        ↔ HasComparison s.before ∨ (HasComparison s.behind ∧ comparatorKey ∉ a :: s.pending))
      ∧ (p = q
        ↔ HasComparison s.before ∨ (HasComparison s.behind ∧ comparatorKey ∉ a :: s.pending
          ∧ (comparatorKey ∈ s.named ∨ ∀ key ∈ a :: s.pending, key ∈ s.named)))
      ∧ (¬ HasComparison s.before → ¬ HasComparison s.behind → p.getAll comparatorKey ≠ q.getAll comparatorKey) := by
  refine and_assoc.mp ⟨?_, fun hbefore hbehind => Slot.getAll_comparatorKey_ne hbefore hc hp hq hbehind⟩
  rw [Params.eq_iff (nodup_keys_of_compile hp) (nodup_keys_of_compile hq)]
  by_cases hbefore : HasComparison s.before
  · obtain rfl := Slot.compile_eq_of_hasComparison hc hp hq hbefore
    simp [hbefore]
  · by_cases hbehind : HasComparison s.behind
    · have hvalues := Slot.getAll_eq_iff hbefore hc hp hq hbehind
      have hkeys := Slot.keys_eq_iff hbefore hc hp hq hbehind
      simp only [hbefore, hbehind, false_or, true_and]
      refine ⟨hvalues, ?_⟩
      rw [hvalues, and_comm]
      exact and_congr_right hkeys
    · have hne := Slot.getAll_comparatorKey_ne hbefore hc hp hq hbehind
      have hvalues : ¬ ∀ key, p.getAll key = q.getAll key := fun hall => hne (hall comparatorKey)
      simp [hbefore, hbehind, hvalues]

/-- The attribute has come with another null check, and the comparison stands behind the clause. -/
theorem compile_nullCheck_eq_iff_attr_named :
    ∃ p, compile ⟨none, [.restriction .or ⟨"a", .notNull, none⟩, .restriction .or ⟨"a", .null, none⟩,
          .restriction .or ⟨"b", .gt, some (.text "1")⟩], []⟩ = .ok p
      ∧ compile ⟨none, [.restriction .or ⟨"a", .notNull, none⟩, .restriction .or ⟨"a", .gt, none⟩,
          .restriction .or ⟨"b", .gt, some (.text "1")⟩], []⟩ = .ok p := by
  let s : Slot :=
    { limit := none, before := [.restriction .or ⟨"a", .notNull, none⟩], op := .or,
      behind := [.restriction .or ⟨"b", .gt, some (.text "1")⟩], sortKeys := [] }
  obtain ⟨p, hp⟩ : ∃ p, compile (s.fill ⟨"a", .null, none⟩) = .ok p := ⟨_, rfl⟩
  obtain ⟨q, hq⟩ : ∃ q, compile (s.fill ⟨"a", .gt, none⟩) = .ok q := ⟨_, rfl⟩
  obtain rfl : p = q := (compile_nullCheck_eq_iff (by decide) hp hq).2.1.mpr (by decide)
  exact ⟨p, hp, hq⟩

/-- **A null check cannot always be told from a comparison without a value**: behind another comparison they are sent alike. -/
theorem not_compile_nullCheck_ne :
    ¬ ∀ (s : Slot) (a : String) (c : Comparator) (p q : Params), c ∈ [.ne, .like, .ilike, .gt, .lt, .ge, .le] →
      compile (s.fill ⟨a, .null, none⟩) = .ok p → compile (s.fill ⟨a, c, none⟩) = .ok q → p ≠ q := by
  intro h
  have hne := h
    { limit := some 1000, before := [.restriction .or ⟨"b", .ne, some (.text "1")⟩], op := .or, behind := [], sortKeys := [] }
    "a" .ne ⟨[("limit", ⟨"1000", []⟩), ("comparator", ⟨"ne", []⟩), ("b", ⟨"1", []⟩), ("a", ⟨"null", []⟩)]⟩
    ⟨[("limit", ⟨"1000", []⟩), ("comparator", ⟨"ne", []⟩), ("b", ⟨"1", []⟩), ("a", ⟨"null", []⟩)]⟩
    (by decide) (by decide) (by decide)
  exact hne rfl

end MonitorQuery.Request.Flat
