import MonitorQuery.Proofs.Fiql.Ambiguity
import MonitorQuery.Proofs.Request.Calls

/-!
Searches for alternatives.

Restrictions that are joined by OR, in no group, are written one after the other with commas between them. No comma stands in a
term, so the text falls apart at the commas into the terms again.

* `Comparison.ofTerm?`: reads a term that stands by itself. `Comparison.ofTerm?_chars` is its round trip.
* `exists_comparisons_of_expression`: **the text of alternatives** is that of their terms with commas between them.
* `exists_terms_of_expression`: **split at the commas and read, it is one comparison for each restriction**, in order.
* `getAll_searchKey_of_compile`: the text is the one value at its key.
-/

namespace MonitorQuery.Request.Fiql

open MonitorQuery.Query

/-! ### Terms -/

/-- Reads a term that stands by itself. The value is all that stands behind the sign. -/
def Comparison.ofTerm? (cs : List Char) : Option Comparison :=
  if cs.takeWhile isPlainChar = [] then none
  else
    (Sign.take? (cs.dropWhile isPlainChar)).map fun (sign, value) =>
      ⟨String.ofList (cs.takeWhile isPlainChar), sign, String.ofList value⟩

namespace Comparison

/-- A plain comparison is read back. -/
lemma ofTerm?_chars {c : Comparison} (hc : c.Plain) : ofTerm? c.chars = some c := by
  have hattr := isPlainChar_of_isPlain hc.attr_plain
  have hsign := c.sign.not_isPlainChar_head c.value.toList
  rw [chars, List.append_assoc, ofTerm?, Text.takeWhile_append_of_head hattr hsign, Text.dropWhile_append_of_head hattr hsign,
    if_neg hc.attr_ne_nil, Sign.take?_chars]
  simp

lemma mapM_ofTerm?_chars {ts : List Comparison} (h : ∀ t ∈ ts, t.Plain) :
    (ts.map chars).mapM ofTerm? = some ts := by
  induction ts with
  | nil => rfl
  | cons t ts ih =>
      obtain ⟨ht, hts⟩ := List.forall_mem_cons.mp h
      rw [List.map_cons, List.mapM_cons, ofTerm?_chars ht, ih hts]
      rfl

end Comparison

/-! ### The text of alternatives -/

section Compiler

variable {properties : List Property} {rs : List Restriction}

/-- The terms of alternatives behind a first one are comparisons behind OR. -/
lemma of_linksOf_map {links : List (Operator × Term)} (h : linksOf properties (rs.map (.restriction .or)) = .ok links) :
    ∃ ts, List.Forall₂ (fun r t => Comparison.ofRestriction properties r = .ok t) rs ts
      ∧ links = ts.map fun t => (.or, .comparison t) := by
  induction rs generalizing links with
  | nil =>
      cases h
      exact ⟨[], .nil, rfl⟩
  | cons r rs ih =>
      obtain ⟨t, rest, ht, hrest, rfl⟩ := of_linksOf_cons_restriction h
      obtain ⟨ts, hts, rfl⟩ := ih hrest
      exact ⟨t :: ts, .cons ht hts, rfl⟩

/-- A tree of alternatives is written as its comparisons with commas between them. -/
lemma charsOf_lexemes_alternatives (t : Comparison) (ts : List Comparison) :
    charsOf (Expression.lexemes ⟨.comparison t, ts.map fun t => (.or, .comparison t)⟩)
      = [','].intercalate ((t :: ts).map Comparison.chars) := by
  induction ts generalizing t with
  | nil => simp [Expression.lexemes, Term.lexemes, linkLexemes, Lexeme.chars]
  | cons u ts ih =>
      have hne : (u :: ts).map Comparison.chars ≠ [] := by simp
      rw [List.map_cons (f := Comparison.chars), List.intercalate_cons_of_ne_nil hne, ← ih u]
      simp [Expression.lexemes, Term.lexemes, linkLexemes, Lexeme.chars, Operator.sign]

/-- The text of clauses of which the first is no group. -/
lemma exists_links_of_expression {op : Operator} {r : Restriction} {cs : List Clause} {search : String}
    (h : expression properties (.restriction op r :: cs) = .ok search) :
    ∃ t links, Comparison.ofRestriction properties r = .ok t ∧ linksOf properties cs = .ok links
      ∧ search.toList = charsOf (Expression.lexemes ⟨.comparison t, links⟩) := by
  obtain ⟨e, he, rfl⟩ := exists_ofClauses_of_expression h
  obtain ⟨first, hfirst, he⟩ := bind_eq_ok.mp he
  obtain ⟨links, hlinks, he⟩ := bind_eq_ok.mp he
  cases he
  obtain ⟨t, ht, hfirst⟩ := bind_eq_ok.mp hfirst
  cases hfirst
  exact ⟨t, links, ht, hlinks, String.toList_ofList⟩

/-- **The text of alternatives** is that of their terms with commas between them. -/
lemma exists_comparisons_of_expression {search : String} (hne : rs ≠ [])
    (h : expression properties (rs.map (.restriction .or)) = .ok search) :
    ∃ ts, List.Forall₂ (fun r t => Comparison.ofRestriction properties r = .ok t) rs ts ∧ ts ≠ []
      ∧ search.toList = [','].intercalate (ts.map Comparison.chars) := by
  obtain ⟨r, rs, rfl⟩ := List.exists_cons_of_ne_nil hne
  obtain ⟨t, links, ht, hlinks, htext⟩ := exists_links_of_expression h
  obtain ⟨ts, hts, rfl⟩ := of_linksOf_map hlinks
  refine ⟨t :: ts, .cons ht hts, List.cons_ne_nil _ _, ?_⟩
  rw [htext, charsOf_lexemes_alternatives]

lemma plain_of_forall₂ {ts : List Comparison}
    (hts : List.Forall₂ (fun r t => Comparison.ofRestriction properties r = .ok t) rs ts)
    (hplain : ∀ r ∈ rs, IsPlain r.attr.toList) : ∀ t ∈ ts, t.Plain := by
  induction hts with
  | nil => simp
  | cons ht _ ih =>
      obtain ⟨hr, hrs⟩ := List.forall_mem_cons.mp hplain
      exact List.forall_mem_cons.mpr ⟨Comparison.plain_of_ofRestriction ht hr, ih hrs⟩

/-- **Split at the commas and read, the text of alternatives is one comparison for each restriction**, in order. -/
lemma exists_terms_of_expression {search : String} (hne : rs ≠ []) (hplain : ∀ r ∈ rs, IsPlain r.attr.toList)
    (h : expression properties (rs.map (.restriction .or)) = .ok search) :
    ∃ ts, List.Forall₂ (fun r t => Comparison.ofRestriction properties r = .ok t) rs ts
      ∧ (search.toList.splitOn ',').mapM Comparison.ofTerm? = some ts := by
  obtain ⟨ts, hts, hne, htext⟩ := exists_comparisons_of_expression hne h
  have hterms := plain_of_forall₂ hts hplain
  have hcomma : ∀ cs ∈ ts.map Comparison.chars, ',' ∉ cs := by
    intro cs hcs hmem
    obtain ⟨t, ht, rfl⟩ := List.mem_map.mp hcs
    exact ((hterms t ht).isJoined_chars ',' hmem).2 rfl
  refine ⟨ts, hts, ?_⟩
  rw [htext, List.splitOn_intercalate ',' hcomma (by simpa using hne), Comparison.mapM_ofTerm?_chars hterms]

/-! ### What a request has -/

/-- The text of the clauses is the one value at its key, and there is none if it is empty. -/
lemma getAll_searchKey_of_compile {f : Filter} {q : Params} (h : compile properties f = .ok q) :
    ∃ search, expression properties f.clauses = .ok search
      ∧ q.getAll searchKey = if search.isEmpty then [] else [search] := by
  rw [compile, bind_eq_ok] at h
  obtain ⟨search, hsearch, h⟩ := h
  refine ⟨search, hsearch, ?_⟩
  rw [of_addSortKeys h, Params.getAll_foldl_perform, leave_sortCalls_of_ne (by decide) (by decide)]
  split
  · rfl
  · rw [Params.getAll_set]

end Compiler

end MonitorQuery.Request.Fiql
