import MonitorQuery.Proofs.Fiql.Rejections
import MonitorQuery.Proofs.Flat.Rejections
import MonitorQuery.Proofs.Reading.Attributes

/-!
Filters from the command line.

What is read from arguments has no blank attribute and no empty group. So an interface rejects such a filter only for what it
has no form for.

* `exists_eq_map_iff`: clauses without groups and without AND are restrictions joined by OR.
* `isFlat_map_iff`: those that a flat request can carry.
* `accepted_iff_of_clausesOf`: **filters that are read from arguments are accepted wherever they can be expressed.**
-/

namespace MonitorQuery.Request

open MonitorQuery.Query

/-! ### Alternatives -/

/-- Restrictions that stand in no group are the nodes of their list. -/
lemma nodesOf_map_restriction (op : Operator) (rs : List Restriction) :
    nodesOf (rs.map (.restriction op)) = rs.map (.restriction op) := by
  induction rs with
  | nil => rfl
  | cons r rs ih =>
      rw [List.map_cons, nodesOf, ih]
      rfl

lemma restrictionsOf_map_restriction (op : Operator) (rs : List Restriction) :
    restrictionsOf (rs.map (.restriction op)) = rs := by
  induction rs with
  | nil => rfl
  | cons r rs ih =>
      rw [List.map_cons, restrictionsOf, ih]
      rfl

/-- Clauses that are restrictions joined by OR, one by one. -/
lemma exists_eq_map_of_forall {cs : List Clause} (h : ∀ c ∈ cs, ∃ r, c = .restriction .or r) :
    ∃ rs : List Restriction, cs = rs.map (.restriction .or) := by
  induction cs with
  | nil => exact ⟨[], rfl⟩
  | cons c cs ih =>
      obtain ⟨⟨r, rfl⟩, hrest⟩ := List.forall_mem_cons.mp h
      obtain ⟨rs, rfl⟩ := ih hrest
      exact ⟨r :: rs, rfl⟩

lemma Flat.restrictionsOf_map_restriction (op : Operator) (rs : List Restriction) :
    Flat.restrictionsOf (rs.map (.restriction op)) = rs := by
  induction rs with
  | nil => rfl
  | cons r rs ih => rw [List.map_cons, Flat.restrictionsOf_cons, ih]

/-- **Clauses without groups and without AND** are restrictions joined by OR. -/
lemma exists_eq_map_iff {cs : List Clause} :
    (∃ rs : List Restriction, cs = rs.map (.restriction .or)) ↔
      (∀ op ds, Clause.group op ds ∉ nodesOf cs) ∧ ∀ c ∈ nodesOf cs, c.operator ≠ .and := by
  constructor
  · rintro ⟨rs, rfl⟩
    rw [nodesOf_map_restriction]
    refine ⟨by simp, fun c hc => ?_⟩
    obtain ⟨r, -, rfl⟩ := List.mem_map.mp hc
    rintro ⟨⟩
  · rintro ⟨hgroup, hand⟩
    refine exists_eq_map_of_forall fun c hc => ?_
    have hnode := mem_nodesOf hc
    match c with
    | .group op ds => exact absurd hnode (hgroup op ds)
    | .restriction .and r => exact absurd rfl (hand _ hnode)
    | .restriction .or r => exact ⟨r, rfl⟩

/-- Restrictions joined by OR that a flat request can carry. -/
lemma isFlat_map_iff {rs : List Restriction} : Flat.IsFlat (rs.map (.restriction .or)) ↔
    (∀ r ∈ rs, Text.isBlankText r.attr = false) ∧ Flat.OneComparator (Flat.comparators rs) := by
  constructor
  · rintro ⟨halternative, hone⟩
    rw [Flat.restrictionsOf_map_restriction] at hone
    refine ⟨fun r hr => ?_, hone⟩
    obtain ⟨r', heq, hblank⟩ := halternative _ (List.mem_map_of_mem hr)
    cases heq
    exact hblank
  · rintro ⟨hblank, hone⟩
    refine ⟨fun c hc => ?_, (Flat.restrictionsOf_map_restriction .or rs).symm ▸ hone⟩
    obtain ⟨r, hr, rfl⟩ := List.mem_map.mp hc
    exact ⟨r, rfl, hblank r hr⟩

/-! ### What is read from arguments -/

section Arguments

variable {args : List String} {cs : List Clause}

/-- What can be asked of what has been read: all but comparisons by ILIKE. -/
lemma askable_iff_of_clausesOf (h : clausesOf args = .ok cs) :
    Fiql.Askable cs ↔ ∀ r ∈ restrictionsOf cs, r.comparator ≠ .ilike := by
  constructor
  · exact fun haskable => haskable.ne_ilike
  · intro hilike
    refine ⟨group_ne_nil_of_clausesOf h, fun r hr => ?_, hilike⟩
    obtain ⟨op, hnode⟩ := mem_restrictionsOf_iff.mp hr
    exact attr_not_blank_of_clausesOf h hnode

/-- What a flat request can carry of what has been read: alternatives with one comparator. -/
lemma isFlat_iff_of_clausesOf (h : clausesOf args = .ok cs) :
    Flat.IsFlat cs ↔ (∀ op ds, Clause.group op ds ∉ nodesOf cs) ∧ (∀ c ∈ nodesOf cs, c.operator ≠ .and)
      ∧ Flat.OneComparator (Flat.comparators (restrictionsOf cs)) := by
  rw [← and_assoc, ← exists_eq_map_iff]
  constructor
  · intro hflat
    have halternative : ∀ c ∈ cs, ∃ r, c = .restriction .or r := fun c hc =>
      (hflat.alternative c hc).imp fun _ hr => hr.1
    obtain ⟨rs, rfl⟩ := exists_eq_map_of_forall halternative
    refine ⟨⟨rs, rfl⟩, ?_⟩
    rw [restrictionsOf_map_restriction]
    exact (isFlat_map_iff.mp hflat).2
  · rintro ⟨⟨rs, rfl⟩, hone⟩
    rw [restrictionsOf_map_restriction] at hone
    refine isFlat_map_iff.mpr ⟨fun r hr => ?_, hone⟩
    have hnode : Clause.restriction .or r ∈ nodesOf (rs.map (.restriction .or)) := mem_nodesOf (List.mem_map_of_mem hr)
    exact attr_not_blank_of_clausesOf h hnode

/-- **Filters that are read from arguments are accepted wherever they can be expressed.** Without sort keys, and whatever the limit
and the properties, a filter that has been read can be asked as a search exactly if no restriction in it, at any depth, uses
ILIKE. It can be sent as a flat request exactly if it has no group and no AND and its comparators, null checks aside, are all the
same. No attribute in it is blank and no group in it is empty, whatever the arguments are. -/
theorem accepted_iff_of_clausesOf (h : clausesOf args = .ok cs) (limit : Option ℕ) (properties : List Property) :
    ((∃ p, Fiql.compile properties ⟨limit, cs, []⟩ = .ok p) ↔ ∀ r ∈ restrictionsOf cs, r.comparator ≠ .ilike)
      ∧ ((∃ p, Flat.compile ⟨limit, cs, []⟩ = .ok p) ↔
          (∀ op ds, Clause.group op ds ∉ nodesOf cs) ∧ (∀ c ∈ nodesOf cs, c.operator ≠ .and)
            ∧ Flat.OneComparator (Flat.comparators (restrictionsOf cs)))
      ∧ (∀ r ∈ restrictionsOf cs, Text.isBlankText r.attr = false) ∧ ∀ op, Clause.group op [] ∉ nodesOf cs := by
  refine ⟨?_, ?_, ?_, group_ne_nil_of_clausesOf h⟩
  · rw [Fiql.exists_compile_iff, and_iff_left oneDirection_nil, askable_iff_of_clausesOf h]
  · rw [Flat.exists_compile_iff, and_iff_left oneDirection_nil, isFlat_iff_of_clausesOf h]
  · intro r hr
    obtain ⟨op, hnode⟩ := mem_restrictionsOf_iff.mp hr
    exact attr_not_blank_of_clausesOf h hnode

/-- Parentheses and blanks around the words of a filter: a group can be asked as a search, and cannot be sent as a flat
request. -/
theorem accepted_iff_of_clausesOf_group :
    ∃ cs, clausesOf ["( a", "isnull", "or", " b", "=", "f(x))"] = .ok cs
      ∧ (∃ p, Fiql.compile [] ⟨none, cs, []⟩ = .ok p) ∧ ¬ ∃ p, Flat.compile ⟨none, cs, []⟩ = .ok p := by
  have h : clausesOf ["( a", "isnull", "or", " b", "=", "f(x))"]
      = .ok [.group .or [.restriction .or ⟨" a", .null, none⟩, .restriction .or ⟨"b", .eq, some (.text "f(x)")⟩]] := rfl
  obtain ⟨hsearch, hflat, -⟩ := accepted_iff_of_clausesOf h none []
  refine ⟨_, h, hsearch.mpr (by decide), fun hsent => ?_⟩
  exact (hflat.mp hsent).1 .or _ List.mem_cons_self

end Arguments

end MonitorQuery.Request
