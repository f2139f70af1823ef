import MonitorQuery.Proofs.Fiql.Alternatives
import MonitorQuery.Proofs.Flat.Layout
import MonitorQuery.Proofs.Request.Expressible
import MonitorQuery.Proofs.Text.Decoding

/-!
One filter, two requests.

A filter that both interfaces take is a list of alternatives. The flat request has its values at their attributes and the
comparator at a key of its own; the search has one term for each restriction, and the comparator in every term. They are the
same query all the same: what the one sends can be told from the other, the forms of nulls and enumerated values aside.

* `SentAs`: the value of a restriction as it is sent in either request. `sentAs_of_ofRestriction` is one restriction.
* `SameQuery`: what the two requests have in common.
* `sameQuery_of_compile`: **the interfaces send the same query for a filter that both take.**
-/

namespace MonitorQuery.Query

lemma Value.isNullWord_iff {v : Value} : v.isNullWord = true ↔ v = .text "null" := by
  cases v <;> simp [Value.isNullWord, Value.nullWord]

/-- The name of a comparator is understood. -/
lemma Comparator.find_fold_label (c : Comparator) : Comparator.find (Text.fold c.label) = some c := by
  cases c <;> rfl

end MonitorQuery.Query

namespace MonitorQuery.Request

open MonitorQuery.Query

/-! ### What is sent for a value -/

/-- The text of a comparison is that of its value, or the word for none. -/
lemma Flat.textOf_of_not_isNullCheck {r : Restriction} (h : r.comparator.isNullCheck = false) :
    Flat.textOf r = (r.value.map Value.labelForm).getD Value.nullWord := by
  obtain ⟨attr, c, value⟩ := r
  cases c with
  | null | notNull => cases h
  | _ => rfl

namespace Fiql

variable (properties : List Property) {r : Restriction}

/-- A null check without a value asks for the placeholder. -/
lemma valueText_of_isNullCheck (hcheck : r.comparator.isNullCheck = true)
    (hvalue : r.value = none) : valueText properties r = nullValue := by
  simp [valueText, hvalue, hcheck]

/-- A comparison with no value, or with the word `null`, asks for the null of its attribute. -/
lemma valueText_of_null (hcheck : r.comparator.isNullCheck = false)
    (hvalue : r.value = none ∨ r.value = some (.text "null")) :
    valueText properties r = typedNull properties r.attr := by
  obtain hvalue | hvalue := hvalue
  · simp [valueText, hvalue, hcheck]
  · simp [valueText, hvalue, hcheck, Value.isNullWord_iff]

/-- A comparison with another value asks for that value. -/
lemma valueText_of_value {v : Value}
    (hcheck : r.comparator.isNullCheck = false) (hvalue : r.value = some v) (hv : v ≠ .text "null") :
    valueText properties r = v.encoded := by
  simp [valueText, hvalue, hcheck, Value.isNullWord_iff, hv]

end Fiql

/-! ### One restriction -/

/-- How the value of a restriction is sent: as a text in a flat request, and with a term in a search. Besides the nulls and the
enumerated values, the term has the text itself, encoded. -/
inductive SentAs (properties : List Property) (r : Restriction) : String → Fiql.Comparison → Prop
  | isNull {t : Fiql.Comparison} : r.comparator = .null → t.sign = .equal → t.value = "\x00" →
      SentAs properties r "null" t
  | isNotNull {t : Fiql.Comparison} : r.comparator = .notNull → t.sign = .unequal → t.value = "\x00" →
      SentAs properties r "notnull" t
  | noValue {t : Fiql.Comparison} : r.comparator.isNullCheck = false →
      r.value = none ∨ r.value = some (.text "null") →
      (Property.find? properties r.attr).map (·.type) ≠ some .timestamp → t.value = "\x00" →
      SentAs properties r "null" t
  | noTimestamp {t : Fiql.Comparison} : r.comparator.isNullCheck = false →
      r.value = none ∨ r.value = some (.text "null") →
      (Property.find? properties r.attr).map (·.type) = some .timestamp →
      Text.Percent.decode? t.value = some "1970-01-01T00:00:00.000+0000" →
      SentAs properties r "null" t
  | enumerated {t : Fiql.Comparison} {e : Enumerated} : r.comparator.isNullCheck = false →
      r.value = some (.enumerated e) → Text.Percent.decode? t.value = some (Decimal.renderInt e.id) →
      SentAs properties r e.label t
  | value {t : Fiql.Comparison} {v : Value} {text : String} : r.comparator.isNullCheck = false →
      r.value = some v → (∀ e, v ≠ .enumerated e) → v ≠ .text "null" → Text.Percent.decode? t.value = some text →
      SentAs properties r text t

section Restrictions

variable {properties : List Property}

/-- A null check without a value is sent as a word, and as an equation with the placeholder. -/
lemma sentAs_of_isNullCheck {r : Restriction} {t : Fiql.Comparison} (hcheck : r.comparator.isNullCheck = true)
    (hsign : Fiql.Sign.of? r.comparator = some t.sign) (hvalue : t.value = Fiql.nullValue) :
    SentAs properties r (Flat.textOf r) t := by
  rw [Flat.textOf]
  cases hc : r.comparator with
  | null =>
      rw [hc] at hsign
      exact .isNull hc (Option.some.inj hsign).symm hvalue
  | notNull =>
      rw [hc] at hsign
      exact .isNotNull hc (Option.some.inj hsign).symm hvalue
  | _ =>
      rw [hc] at hcheck
      cases hcheck

/-- A comparison with nothing is sent as the word for it, and with the placeholder for the type of its attribute. -/
lemma sentAs_of_null {r : Restriction} {t : Fiql.Comparison} (hcheck : r.comparator.isNullCheck = false)
    (hnone : r.value = none ∨ r.value = some (.text "null")) (hvalue : t.value = Fiql.typedNull properties r.attr) :
    SentAs properties r "null" t := by
  rw [Fiql.typedNull] at hvalue
  by_cases htype : (Property.find? properties r.attr).map (·.type) = some .timestamp
  · rw [if_pos htype] at hvalue
    refine .noTimestamp hcheck hnone htype ?_
    rw [hvalue, Text.Percent.decode?_encode, Fiql.nullDate]
  · rw [if_neg htype] at hvalue
    exact .noValue hcheck hnone htype hvalue

/-- A value is sent as its text, and encoded; an enumerated one by its label, and by its number. -/
lemma sentAs_of_value {r : Restriction} {t : Fiql.Comparison} {v : Value} (hcheck : r.comparator.isNullCheck = false)
    (hv : r.value = some v) (hword : v ≠ .text "null") (hvalue : t.value = v.encoded) :
    SentAs properties r v.labelForm t := by
  have hdecode : Text.Percent.decode? t.value = some v.idForm := by
    rw [hvalue, Value.encoded, Text.Percent.decode?_encode]
  by_cases henum : ∃ e, v = .enumerated e
  · obtain ⟨e, rfl⟩ := henum
    exact .enumerated hcheck hv hdecode
  · have hne : ∀ e, v ≠ .enumerated e := not_exists.mp henum
    rw [Value.idForm_eq_labelForm hne] at hdecode
    exact .value hcheck hv hne hword hdecode

/-- **One restriction is sent alike** in both requests, if it has no value when it is a null check. -/
lemma sentAs_of_ofRestriction {r : Restriction} {t : Fiql.Comparison}
    (h : Fiql.Comparison.ofRestriction properties r = .ok t)
    (hnull : r.comparator.isNullCheck = true → r.value = none) : SentAs properties r (Flat.textOf r) t := by
  obtain ⟨-, hsign, -, hvalue⟩ := Fiql.Comparison.of_ofRestriction h
  cases hcheck : r.comparator.isNullCheck with
  | true =>
      have hplaceholder := Fiql.valueText_of_isNullCheck properties hcheck (hnull hcheck)
      exact sentAs_of_isNullCheck hcheck hsign (hvalue.trans hplaceholder)
  | false =>
      rw [Flat.textOf_of_not_isNullCheck hcheck]
      cases hv : r.value with
      | none =>
          have htyped := Fiql.valueText_of_null properties hcheck (.inl hv)
          exact sentAs_of_null hcheck (.inl hv) (hvalue.trans htyped)
      | some v =>
          by_cases hword : v = .text "null"
          · subst hword
            have htyped := Fiql.valueText_of_null properties hcheck (.inr hv)
            exact sentAs_of_null hcheck (.inr hv) (hvalue.trans htyped)
          · have hencoded := Fiql.valueText_of_value properties hcheck hv hword
            exact sentAs_of_value hcheck hv hword (hvalue.trans hencoded)

/-- **The texts at an attribute are sent alike**, in the order of the terms on it. -/
lemma forall₂_textsOn {rs : List Restriction} {ts : List Fiql.Comparison}
    (hts : List.Forall₂ (fun r t => Fiql.Comparison.ofRestriction properties r = .ok t) rs ts)
    (hnull : ∀ r ∈ rs, r.comparator.isNullCheck = true → r.value = none) (a : String) :
    List.Forall₂ (fun text rt => SentAs properties rt.1 text rt.2) (Flat.textsOn a rs)
      ((rs.zip ts).filter fun rt => rt.2.attr = a) := by
  induction hts with
  | nil => exact .nil
  | @cons r t rs ts hrt hrest ih =>
      obtain ⟨hr, hrs⟩ := List.forall_mem_cons.mp hnull
      obtain ⟨-, -, hattr, -⟩ := Fiql.Comparison.of_ofRestriction hrt
      rw [Flat.textsOn, List.zip_cons_cons]
      by_cases ha : r.attr = a
      · rw [List.filter_cons_of_pos (by simpa using ha), List.filter_cons_of_pos (by simpa [hattr] using ha)]
        exact .cons (sentAs_of_ofRestriction hrt hr) (ih hrs)
      · rw [List.filter_cons_of_neg (by simpa using ha), List.filter_cons_of_neg (by simpa [hattr] using ha)]
        exact ih hrs

end Restrictions

/-! ### Whole requests -/

/-- What a flat request and a search have in common, when both are for the restrictions `rs`. The search consists of the terms
`ts`, one for each restriction. -/
structure SameQuery (properties : List Property) (rs : List Restriction) (ts : List Fiql.Comparison) (p q : Params) :
    Prop where
  /-- Split at the commas, the text of the search is the terms. -/
  search : ∃ text, q.getAll Fiql.searchKey = [text] ∧ (text.toList.splitOn ',').mapM Fiql.Comparison.ofTerm? = some ts
  /-- The terms are on the attributes of the restrictions. -/
  attrs : List.Forall₂ (fun r t => t.attr = r.attr) rs ts
  /-- The sign of a comparison is that of the comparator which the flat request names. -/
  signs : ∀ r t, (r, t) ∈ rs.zip ts → r.comparator.isNullCheck = false →
    ∃ name c, p.getAll Flat.comparatorKey = [name] ∧ Comparator.find name = some c ∧ Fiql.Sign.of? c = some t.sign
  /-- The values at an attribute are those of its terms, in their order. -/
  values : ∀ a ∉ Flat.controlKeys, List.Forall₂ (fun text rt => SentAs properties rt.1 text rt.2) (p.getAll a)
    ((rs.zip ts).filter fun rt => rt.2.attr = a)

/-- **The interfaces send the same query for a filter that both take.** Its clauses are restrictions joined by OR. Where null
checks have no value and attributes are plain and none of the keys of a flat request, the search is one term for each restriction,
in order. The sign of every comparison is that of the comparator which the flat request names. And at each attribute the flat
request has the values of the terms on it, in order and decoded; but enumerated values stand by label in place of the number, and
nulls as words in place of the placeholders. -/
theorem sameQuery_of_compile {f : Filter} {p q : Params} {properties : List Property} (hflat : Flat.compile f = .ok p)
    (hsearch : Fiql.compile properties f = .ok q) (hne : f.clauses ≠ [])
    (hnull : ∀ r ∈ restrictionsOf f.clauses, r.comparator.isNullCheck = true → r.value = none)
    (hplain : ∀ r ∈ restrictionsOf f.clauses, Fiql.IsPlain r.attr.toList)
    (hkey : ∀ r ∈ restrictionsOf f.clauses, r.attr ∉ Flat.controlKeys) :
    f.clauses = (restrictionsOf f.clauses).map (.restriction .or)
      ∧ ∃ ts, SameQuery properties (restrictionsOf f.clauses) ts p q := by
  have hclauses := (Flat.of_compile hflat).1
  have hrestrictions : restrictionsOf f.clauses = Flat.restrictionsOf f.clauses := by
    conv_lhs => rw [hclauses]
    exact restrictionsOf_map_restriction .or _
  rw [← hrestrictions] at hclauses
  refine ⟨hclauses, ?_⟩
  -- the search is the terms of the restrictions
  obtain ⟨text, htext, hgetAll⟩ := Fiql.getAll_searchKey_of_compile hsearch
  rw [hclauses] at htext
  have hrs : restrictionsOf f.clauses ≠ [] := fun hnil => hne (by rw [hclauses, hnil, List.map_nil])
  obtain ⟨ts, hts, hterms⟩ := Fiql.exists_terms_of_expression hrs hplain htext
  have hnonempty : text.isEmpty = false := by
    by_contra hempty
    obtain rfl : text = "" := String.isEmpty_iff.mp (by simpa using hempty)
    cases hterms
  rw [hnonempty, if_neg Bool.false_ne_true] at hgetAll
  refine ⟨ts, ⟨⟨text, hgetAll, hterms⟩, ?_, ?_, ?_⟩⟩
  · exact hts.imp fun r t hrt => (Fiql.Comparison.of_ofRestriction hrt).2.2.1
  · intro r t hmem hcomparison
    have hrt := (List.forall₂_iff_zip.mp hts).2 hmem
    have hr : r ∈ Flat.restrictionsOf f.clauses := hrestrictions ▸ (List.of_mem_zip hmem).1
    have hcomparator : ∀ s ∈ Flat.restrictionsOf f.clauses, s.attr ≠ Flat.comparatorKey := by
      intro s hs heq
      exact hkey s (hrestrictions ▸ hs) (by simp [Flat.controlKeys, heq])
    have hname := Flat.getAll_comparatorKey_of_compile hflat hcomparator hr hcomparison
    exact ⟨_, r.comparator, hname, Comparator.find_fold_label _, (Fiql.Comparison.of_ofRestriction hrt).2.1⟩
  · intro a ha
    rw [Flat.getAll_of_notMem_controlKeys hflat ha, ← hrestrictions]
    exact forall₂_textsOn hts hnull a

/-- Nulls of all forms, an enumerated value, and a text with a comma in it. -/
def nullForms : Filter where
  clauses :=
    [.restriction .or ⟨"user", .notNull, none⟩,
      .restriction .or ⟨"severity", .eq, some (.enumerated Severity.major.toEnumerated)⟩,
      .restriction .or ⟨"time", .eq, some (.text "null")⟩,
      .restriction .or ⟨"text", .eq, none⟩,
      .restriction .or ⟨"text", .eq, some (.text "a,b")⟩]

theorem sameQuery_of_compile_nullForms :
    ∃ p q ts, Flat.compile nullForms = .ok p
      ∧ Fiql.compile [⟨"time", "Last event", true, .timestamp, []⟩] nullForms = .ok q
      ∧ SameQuery [⟨"time", "Last event", true, .timestamp, []⟩] (restrictionsOf nullForms.clauses) ts p q
      ∧ p.getAll "text" = ["null", "a,b"]
      ∧ q.getAll Fiql.searchKey
          = ["user!=\x00,severity==6,time==1970-01-01T00%3A00%3A00.000%2B0000,text==\x00,text==a%2Cb"] := by
  have hflat : Flat.compile nullForms
      = .ok ⟨[("limit", ⟨"1000", []⟩), ("user", ⟨"notnull", []⟩), ("comparator", ⟨"eq", []⟩), ("severity", ⟨"MAJOR", []⟩),
          ("time", ⟨"null", []⟩), ("text", ⟨"null", ["a,b"]⟩)]⟩ := rfl
  have hsearch : Fiql.compile [⟨"time", "Last event", true, .timestamp, []⟩] nullForms
      = .ok ⟨[("limit", ⟨"1000", []⟩),
          ("_s", ⟨"user!=\x00,severity==6,time==1970-01-01T00%3A00%3A00.000%2B0000,text==\x00,text==a%2Cb", []⟩)]⟩ :=
    rfl
  obtain ⟨-, ts, hsame⟩ := sameQuery_of_compile hflat hsearch (by simp [nullForms]) (by decide) (by decide) (by decide)
  exact ⟨_, _, ts, hflat, hsearch, hsame, rfl, rfl⟩

end MonitorQuery.Request
