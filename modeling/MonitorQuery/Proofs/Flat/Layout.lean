import MonitorQuery.Proofs.Flat.Losses
import MonitorQuery.Proofs.Flat.Rejections
import MonitorQuery.Proofs.Request.Keys

/-!
How a flat request is laid out.

The request is written clause by clause, and a key stands where it was first named. Where no attribute has the name of another
parameter, all of it can be told from the filter at once.

* `getAll_of_notMem_controlKeys`, `getAll_comparatorKey_of_compile`: what a flat request has, at an attribute and at the key of
  the comparator.
* `layout`: the keys of the request for a filter, in order, and the values at each.
* `keys_of_compile`: the keys are those of the layout. The comparator stands behind the attributes of the null checks before the
  first comparison.
* `table_of_compile`: **the request for a filter is its layout.**
-/

namespace MonitorQuery.Request.Flat

open MonitorQuery.Query

lemma remaining_eq_nil_iff {rs : List Restriction} : remaining rs = [] ↔ ∀ r ∈ rs, r.comparator.isNullCheck = true :=
  List.dropWhile_eq_nil_iff

lemma remaining_ne_nil_iff {rs : List Restriction} : remaining rs ≠ [] ↔ ∃ r ∈ rs, r.comparator.isNullCheck = false := by
  simp [remaining_eq_nil_iff]

/-! ### The values at a key -/

/-- The keys of a flat request that stand for no attribute. -/
def controlKeys : List String := [limitKey, comparatorKey, orderKey, orderByKey]

/-- The limit leaves nothing at another key. -/
lemma leave_limitCalls_of_ne {a : String} (ha : a ≠ limitKey) (limit : Option ℕ) :
    (limitCalls limit).foldl (Params.Call.leave a) [] = [] := by
  cases limit with
  | none => rfl
  | some n => simp [limitCalls, Params.Call.leave, ha.symm]

variable {f : Filter} {p : Params}

/-- At an attribute a flat request has the texts of its restrictions. -/
lemma getAll_of_notMem_controlKeys (h : compile f = .ok p) {a : String} (ha : a ∉ controlKeys) :
    p.getAll a = textsOn a (restrictionsOf f.clauses) := by
  simp only [controlKeys, List.mem_cons, List.not_mem_nil, or_false, not_or] at ha
  obtain ⟨hlimit, hcomparator, horder, horderBy⟩ := ha
  rw [getAll_of_compile h, leave_limitCalls_of_ne hlimit, leave_restrictionCalls_of_ne hcomparator,
    leave_sortCalls_of_ne horder horderBy, List.nil_append]

/-- **At the key of the comparator** a flat request has the name of the comparator of any comparison in it. -/
lemma getAll_comparatorKey_of_compile (h : compile f = .ok p)
    (hkey : ∀ r ∈ restrictionsOf f.clauses, r.attr ≠ comparatorKey) {r : Restriction}
    (hr : r ∈ restrictionsOf f.clauses) (hcomparison : r.comparator.isNullCheck = false) :
    p.getAll comparatorKey = [Text.fold r.comparator.label] := by
  rw [getAll_of_compile h, leave_limitCalls_of_ne (by decide), leave_restrictionCalls_comparator,
    leave_sortCalls_of_ne (by decide) (by decide)]
  cases hhead : (remaining (restrictionsOf f.clauses)).head? with
  | none =>
      have hne := remaining_ne_nil_iff.mpr ⟨r, hr, hcomparison⟩
      exact absurd (List.head?_eq_none_iff.mp hhead) hne
  | some first =>
      have hmem : first ∈ remaining (restrictionsOf f.clauses) := List.mem_of_head? hhead
      have hfirst : first ∈ restrictionsOf f.clauses := (List.dropWhile_sublist _).subset hmem
      have heq : first.comparator = r.comparator := by
        have hone := (exists_compile_iff.mp ⟨p, h⟩).1.oneComparator
        exact hone _ (mem_comparators hfirst (isNullCheck_of_head?_remaining hhead)) _ (mem_comparators hr hcomparison)
      have htexts : textsOn comparatorKey (remaining (restrictionsOf f.clauses)) = [] := by
        rw [textsOn, List.filter_eq_nil_iff.mpr, List.map_nil]
        intro s hs
        simpa using hkey s ((List.dropWhile_sublist _).subset hs)
      simp only [heq, htexts]

/-! ### The layout -/

/-- The attributes of restrictions, each where it comes first. -/
def attrsOf (rs : List Restriction) : List String := (rs.map (·.attr)).eraseDups

/-- The attributes that no null check before the first comparison is on, each where it comes first. -/
def laterAttrs (rs : List Restriction) : List String :=
  (((remaining rs).map (·.attr)).removeAll ((leading rs).map (·.attr))).eraseDups

/-- The attributes come with a null check before the first comparison, or later. -/
lemma attrsOf_eq_append (rs : List Restriction) : attrsOf rs = attrsOf (leading rs) ++ laterAttrs rs := by
  rw [attrsOf, ← leading_append_remaining rs, List.map_append, List.eraseDups_append, leading_append_remaining]
  rfl

/-- The direction of sort keys, and their attributes in order, each at its key. -/
def sortTable : List SortKey → List (String × List String)
  | [] => []
  | first :: rest => [(orderKey, [first.order.label]), (orderByKey, (first :: rest).map (·.attr))]

/-- The keys of the request for a filter, in order, and the values at each: the limit, the attributes with the comparator among
them, and what the results are sorted by. -/
def layout (f : Filter) : List (String × List String) :=
  let rs := restrictionsOf f.clauses
  let row a := (a, textsOn a rs)
  (f.limit.map fun n => (limitKey, [Decimal.renderNat n])).toList
    ++ (attrsOf (leading rs)).map row
    ++ ((remaining rs).head?.map fun r => (comparatorKey, [Text.fold r.comparator.label])).toList
    ++ (laterAttrs rs).map row
    ++ sortTable f.sortKeys

/-! ### The order of the keys -/

lemma map_key_limitCalls (limit : Option ℕ) :
    (limitCalls limit).map Params.Call.key = (limit.map fun _ => limitKey).toList := by
  cases limit <;> rfl

lemma map_key_restrictionCalls (rs : List Restriction) :
    (restrictionCalls rs).map Params.Call.key = (leading rs).map (·.attr)
      ++ (((remaining rs).head?.map fun _ => comparatorKey).toList ++ (remaining rs).map (·.attr)) := by
  have hcallOf : ∀ qs : List Restriction, (qs.map callOf).map Params.Call.key = qs.map (·.attr) := by
    intro qs
    rw [List.map_map]
    rfl
  rw [restrictionCalls, List.map_append, List.map_append, hcallOf, hcallOf, List.append_assoc]
  cases (remaining rs).head? <;> rfl

/-- Sort keys name two keys. -/
lemma eraseDups_map_key_sortCalls (keys : List SortKey) :
    ((sortCalls keys).map Params.Call.key).eraseDups = (sortTable keys).map (·.1) := by
  cases keys with
  | nil => rfl
  | cons first rest =>
      have hkey : Params.Call.key ∘ (fun k : SortKey => Params.Call.append orderByKey k.attr) = fun _ => orderByKey := rfl
      have hne : orderByKey ≠ orderKey := by decide
      rw [sortCalls, List.map_cons, List.map_map, hkey, Params.Call.key, List.map_cons, List.eraseDups_cons]
      simp [sortTable, List.eraseDups_cons, hne, List.filter_eq_nil_iff.mpr]

/-- Clauses name the attributes, and the comparator behind those of the null checks before the first comparison. -/
lemma eraseDups_map_key_restrictionCalls {rs : List Restriction} (hkey : ∀ r ∈ rs, r.attr ≠ comparatorKey) :
    ((restrictionCalls rs).map Params.Call.key).eraseDups
      = attrsOf (leading rs) ++ (((remaining rs).head?.map fun _ => comparatorKey).toList ++ laterAttrs rs) := by
  have hleading : comparatorKey ∉ (leading rs).map (·.attr) := by
    intro hmem
    obtain ⟨r, hr, heq⟩ := List.mem_map.mp hmem
    exact hkey r ((List.takeWhile_sublist _).subset hr) heq
  have hremaining : comparatorKey ∉ (remaining rs).map (·.attr) := by
    intro hmem
    obtain ⟨r, hr, heq⟩ := List.mem_map.mp hmem
    exact hkey r ((List.dropWhile_sublist _).subset hr) heq
  rw [map_key_restrictionCalls, List.eraseDups_append]
  cases (remaining rs).head? with
  | none => rfl
  | some r =>
      have hlater : comparatorKey ∉ ((remaining rs).map (·.attr)).removeAll ((leading rs).map (·.attr)) :=
        fun hmem => hremaining (List.mem_of_mem_filter hmem)
      have hdisjoint : ∀ b ∈ ((remaining rs).map (·.attr)).removeAll ((leading rs).map (·.attr)), b ∉ [comparatorKey] := by
        intro b hb heq
        exact hlater (List.mem_singleton.mp heq ▸ hb)
      have hsingle : ([comparatorKey] : List String).eraseDups = [comparatorKey] := by decide
      rw [Option.map_some, Option.toList_some, List.singleton_append, removeAll_cons_of_notMem hleading,
        ← List.singleton_append, eraseDups_append_of_disjoint hdisjoint, hsingle]
      rfl

lemma mem_map_key_sortCalls {keys : List SortKey} {key : String} (h : key ∈ (sortCalls keys).map Params.Call.key) :
    key = orderKey ∨ key = orderByKey := by
  rw [← List.mem_eraseDups, eraseDups_map_key_sortCalls] at h
  cases keys with
  | nil => cases h
  | cons first rest => simpa [sortTable] using h

lemma mem_map_key_limitCalls {limit : Option ℕ} {key : String} (h : key ∈ (limitCalls limit).map Params.Call.key) :
    key = limitKey := by
  cases limit with
  | none => cases h
  | some n => exact List.mem_singleton.mp h

lemma mem_map_key_restrictionCalls {rs : List Restriction} {key : String}
    (h : key ∈ (restrictionCalls rs).map Params.Call.key) : key = comparatorKey ∨ ∃ r ∈ rs, r.attr = key := by
  rw [map_key_restrictionCalls, List.mem_append, List.mem_append] at h
  obtain h | h | h := h
  · obtain ⟨r, hr, heq⟩ := List.mem_map.mp h
    exact .inr ⟨r, (List.takeWhile_sublist _).subset hr, heq⟩
  · left
    cases hhead : (remaining rs).head? with
    | none => simp [hhead] at h
    | some r => simpa [hhead] using h
  · obtain ⟨r, hr, heq⟩ := List.mem_map.mp h
    exact .inr ⟨r, (List.dropWhile_sublist _).subset hr, heq⟩

/-- **The keys of a request are those of the layout.** -/
lemma keys_of_compile (h : compile f = .ok p) (hkey : ∀ r ∈ restrictionsOf f.clauses, r.attr ∉ controlKeys) :
    p.keys = (layout f).map (·.1) := by
  have hne : ∀ key ∈ controlKeys, ∀ r ∈ restrictionsOf f.clauses, r.attr ≠ key := by
    rintro key hmem r hr rfl
    exact hkey r hr hmem
  have hlimit : ∀ key ∈ (restrictionCalls (restrictionsOf f.clauses)).map Params.Call.key,
      key ∉ (limitCalls f.limit).map Params.Call.key := by
    intro key hmem hbefore
    obtain rfl := mem_map_key_limitCalls hbefore
    obtain heq | ⟨r, hr, heq⟩ := mem_map_key_restrictionCalls hmem
    · exact absurd heq (by decide)
    · exact hne limitKey (by decide) r hr heq
  have hsort : ∀ key ∈ (sortCalls f.sortKeys).map Params.Call.key,
      key ∉ (limitCalls f.limit).map Params.Call.key
        ++ (restrictionCalls (restrictionsOf f.clauses)).map Params.Call.key := by
    intro key hmem hbefore
    have hcontrol : key ∈ controlKeys ∧ key ≠ limitKey ∧ key ≠ comparatorKey := by
      obtain rfl | rfl := mem_map_key_sortCalls hmem <;> decide
    obtain hbefore | hbefore := List.mem_append.mp hbefore
    · exact hcontrol.2.1 (mem_map_key_limitCalls hbefore)
    · obtain heq | ⟨r, hr, heq⟩ := mem_map_key_restrictionCalls hbefore
      · exact hcontrol.2.2 heq
      · exact hne key hcontrol.1 r hr heq
  rw [(of_compile h).2, Params.keys_foldl_perform_empty, filterCalls, List.map_append, List.map_append,
    eraseDups_append_of_disjoint hsort, eraseDups_append_of_disjoint hlimit,
    eraseDups_map_key_restrictionCalls (hne comparatorKey (by decide)), eraseDups_map_key_sortCalls, map_key_limitCalls, layout]
  have hrows : ∀ as : List String, (as.map fun a => (a, textsOn a (restrictionsOf f.clauses))).map (·.1) = as := by
    intro as
    rw [List.map_map]
    exact List.map_id as
  simp only [List.map_append, hrows]
  cases f.limit <;> cases (remaining (restrictionsOf f.clauses)).head? <;> simp [List.eraseDups_cons]

/-! ### The values in the layout -/

lemma textsOn_eq_nil {a : String} {rs : List Restriction} (h : ∀ r ∈ rs, r.attr ≠ a) : textsOn a rs = [] := by
  rw [textsOn, List.filter_eq_nil_iff.mpr, List.map_nil]
  intro r hr
  simpa using h r hr

/-- What clauses leave at a key that is neither an attribute nor that of the comparator. -/
lemma leave_restrictionCalls_of_notMem {rs : List Restriction} {key : String} (hcomparator : key ≠ comparatorKey)
    (hkey : ∀ r ∈ rs, r.attr ≠ key) (values : List String) :
    (restrictionCalls rs).foldl (Params.Call.leave key) values = values := by
  rw [leave_restrictionCalls_of_ne hcomparator, textsOn_eq_nil hkey, List.append_nil]

/-- **The values of a request are those of the layout.** -/
lemma getAll_of_mem_layout (h : compile f = .ok p) (hkey : ∀ r ∈ restrictionsOf f.clauses, r.attr ∉ controlKeys)
    {key : String} {texts : List String} (hrow : (key, texts) ∈ layout f) : p.getAll key = texts := by
  have hne : ∀ key ∈ controlKeys, ∀ r ∈ restrictionsOf f.clauses, r.attr ≠ key := by
    rintro key hmem r hr rfl
    exact hkey r hr hmem
  have hattr : ∀ a, (∃ r ∈ restrictionsOf f.clauses, r.attr = a) → p.getAll a = textsOn a (restrictionsOf f.clauses) := by
    rintro a ⟨r, hr, rfl⟩
    exact getAll_of_notMem_controlKeys h (hkey r hr)
  simp only [layout, List.mem_append, or_assoc] at hrow
  obtain hrow | hrow | hrow | hrow | hrow := hrow
  · obtain ⟨n, hn, rfl, rfl⟩ : ∃ n, f.limit = some n ∧ limitKey = key ∧ [Decimal.renderNat n] = texts := by
      simpa using hrow
    rw [getAll_of_compile h, leave_restrictionCalls_of_notMem (by decide) (hne limitKey (by decide)),
      leave_sortCalls_of_ne (by decide) (by decide), hn]
    rfl
  · obtain ⟨a, ha, heq⟩ := List.mem_map.mp hrow
    obtain ⟨rfl, rfl⟩ := Prod.mk.inj heq
    obtain ⟨r, hr, heq⟩ := List.mem_map.mp (List.mem_eraseDups.mp ha)
    exact hattr a ⟨r, (List.takeWhile_sublist _).subset hr, heq⟩
  · obtain ⟨r, hr, rfl, rfl⟩ : ∃ r, (remaining (restrictionsOf f.clauses)).head? = some r
        ∧ comparatorKey = key ∧ [Text.fold r.comparator.label] = texts := by simpa using hrow
    exact getAll_comparatorKey_of_compile h (hne comparatorKey (by decide))
      ((List.dropWhile_sublist _).subset (List.mem_of_head? hr)) (isNullCheck_of_head?_remaining hr)
  · obtain ⟨a, ha, heq⟩ := List.mem_map.mp hrow
    obtain ⟨rfl, rfl⟩ := Prod.mk.inj heq
    obtain ⟨r, hr, heq⟩ := List.mem_map.mp (List.mem_of_mem_filter (List.mem_eraseDups.mp ha))
    exact hattr a ⟨r, (List.dropWhile_sublist _).subset hr, heq⟩
  · rw [getAll_of_compile h]
    cases hkeys : f.sortKeys with
    | nil =>
        rw [hkeys] at hrow
        cases hrow
    | cons first rest =>
        rw [hkeys, sortTable, List.mem_cons, List.mem_singleton] at hrow
        obtain hrow | hrow := hrow <;> obtain ⟨rfl, rfl⟩ := Prod.mk.inj hrow
        · rw [leave_sortCalls_order]
          rfl
        · rw [leave_restrictionCalls_of_notMem (by decide) (hne orderByKey (by decide)), leave_limitCalls_of_ne (by decide),
            leave_sortCalls_orderBy, List.nil_append]

/-- No key of a flat request comes twice. -/
lemma nodup_keys_of_compile (h : compile f = .ok p) : p.keys.Nodup := by
  rw [(of_compile h).2]
  exact Params.nodup_keys_foldl_perform _

/-- **The request for a filter is its layout.** -/
lemma table_of_compile (h : compile f = .ok p) (hkey : ∀ r ∈ restrictionsOf f.clauses, r.attr ∉ controlKeys) :
    p.table = layout f := by
  rw [Params.table_eq_map_keys (nodup_keys_of_compile h), keys_of_compile h hkey, List.map_map]
  conv_rhs => rw [← List.map_id (layout f)]
  exact List.map_congr_left fun row hrow => Prod.ext rfl (getAll_of_mem_layout h hkey hrow)

/-- The comparator is in a request if there is a comparison. -/
lemma comparatorKey_mem_keys_iff (h : compile f = .ok p) (hkey : ∀ r ∈ restrictionsOf f.clauses, r.attr ≠ comparatorKey) :
    comparatorKey ∈ p.keys ↔ ∃ r ∈ restrictionsOf f.clauses, r.comparator.isNullCheck = false := by
  rw [(of_compile h).2, Params.keys_foldl_perform_empty, List.mem_eraseDups, filterCalls, List.map_append, List.map_append,
    List.mem_append, List.mem_append]
  constructor
  · rintro ((hlimit | hclauses) | hsort)
    · exact absurd (mem_map_key_limitCalls hlimit) (by decide)
    · refine remaining_ne_nil_iff.mp fun hnil => ?_
      rw [map_key_restrictionCalls, hnil, List.head?_nil, Option.map_none, Option.toList_none, List.map_nil,
        List.append_nil, List.append_nil] at hclauses
      obtain ⟨r, hr, heq⟩ := List.mem_map.mp hclauses
      exact hkey r ((List.takeWhile_sublist _).subset hr) heq
    · obtain heq | heq := mem_map_key_sortCalls hsort <;> exact absurd heq (by decide)
  · intro hcomparison
    obtain ⟨first, rest, hfirst⟩ := List.exists_cons_of_ne_nil (remaining_ne_nil_iff.mpr hcomparison)
    rw [map_key_restrictionCalls, hfirst]
    simp

/-- **A flat request is laid out as its filter is.** The clauses of an accepted filter are restrictions joined by OR. If none of
them is on an attribute with the name of another parameter, the request has the limit, if there is one; then every attribute, where
it comes first, with the texts of its restrictions in order; and then, if there are sort keys, their direction and their attributes
in order. In between stands the comparator, if there is a comparison: right behind the attributes of the null checks before the
first comparison. It is the name of the comparator that all comparisons have, as the direction is that of all sort keys. No key
comes twice, and the pairs are all this value by value. -/
theorem layout_of_compile {f : Filter} {p : Params} (h : compile f = .ok p)
    (hkey : ∀ r ∈ restrictionsOf f.clauses, r.attr ∉ controlKeys) :
    f.clauses = (restrictionsOf f.clauses).map (.restriction .or)
      ∧ p.table = layout f
      ∧ p.pairs = (layout f).flatMap (fun (key, texts) => texts.map fun text => (key, text))
      ∧ p.keys.Nodup
      ∧ attrsOf (restrictionsOf f.clauses)
          = attrsOf (leading (restrictionsOf f.clauses)) ++ laterAttrs (restrictionsOf f.clauses)
      ∧ (comparatorKey ∈ p.keys ↔ ∃ r ∈ restrictionsOf f.clauses, r.comparator.isNullCheck = false)
      ∧ (∀ r ∈ restrictionsOf f.clauses, r.comparator.isNullCheck = false →
          p.getAll comparatorKey = [Text.fold r.comparator.label])
      ∧ ∀ k ∈ f.sortKeys, p.getAll orderKey = [k.order.label] := by
  have hcomparator : ∀ r ∈ restrictionsOf f.clauses, r.attr ≠ comparatorKey := by
    intro r hr heq
    exact hkey r hr (by simp [controlKeys, heq])
  have htable := table_of_compile h hkey
  refine ⟨(of_compile h).1, htable, ?_, nodup_keys_of_compile h, attrsOf_eq_append _, comparatorKey_mem_keys_iff h hcomparator,
    fun r hr hcomparison => getAll_comparatorKey_of_compile h hcomparator hr hcomparison, ?_⟩
  · rw [Params.pairs_eq_flatMap_table, htable]
  · intro k hk
    have hdirection := (exists_compile_iff.mp ⟨p, h⟩).2
    rw [getAll_of_compile h, leave_sortCalls_order]
    cases hkeys : f.sortKeys with
    | nil =>
        rw [hkeys] at hk
        cases hk
    | cons first rest =>
        rw [hkeys] at hk hdirection
        rw [hdirection k hk first List.mem_cons_self]
        rfl

/-- Null checks, comparisons and an attribute that comes with both, and two sort keys. -/
def mixedChecks : Filter where
  limit := some 10
  clauses :=
    [.restriction .or ⟨"user", .notNull, none⟩,
      .restriction .or ⟨"id", .null, none⟩,
      .restriction .or ⟨"user", .null, none⟩,
      .restriction .or ⟨"node", .like, some (.text "a")⟩,
      .restriction .or ⟨"id", .like, none⟩,
      .restriction .or ⟨"node", .notNull, none⟩]
  sortKeys := [⟨"time", .descending⟩, ⟨"id", .descending⟩]

theorem layout_of_compile_mixedChecks :
    ∃ p, compile mixedChecks = .ok p
      ∧ (∀ r ∈ restrictionsOf mixedChecks.clauses, r.attr ∉ controlKeys)
      ∧ p.table = layout mixedChecks
      ∧ layout mixedChecks
          = [("limit", ["10"]), ("user", ["notnull", "null"]), ("id", ["null", "null"]), ("comparator", ["like"]),
              ("node", ["a", "notnull"]), ("order", ["DESC"]), ("orderBy", ["time", "id"])] := by
  have h : compile mixedChecks
      = .ok ⟨[("limit", ⟨"10", []⟩), ("user", ⟨"notnull", ["null"]⟩), ("id", ⟨"null", ["null"]⟩),
          ("comparator", ⟨"like", []⟩), ("node", ⟨"a", ["notnull"]⟩), ("order", ⟨"DESC", []⟩),
          ("orderBy", ⟨"time", ["id"]⟩)]⟩ := by decide
  have hkey : ∀ r ∈ restrictionsOf mixedChecks.clauses, r.attr ∉ controlKeys := by decide
  exact ⟨_, h, hkey, (layout_of_compile h hkey).2.1, by decide⟩

end MonitorQuery.Request.Flat
