import MonitorQuery.Proofs.Fiql.Alternatives
import MonitorQuery.Proofs.Fiql.Rejections
import MonitorQuery.Proofs.Flat.Layout

/-!
What stands in a request besides the search.

A search is one value of its request. All that is asked of the attributes of a filter stands in it, and so no attribute becomes a
key. The request has the limit, the search and what the results are sorted by, and nothing else.

* `isEmpty_of_expression`: only a filter without clauses has an empty search.
* `searchCalls`, `exists_calls_of_compile`: the calls that write a request.
* `keys_foldl_searchCalls`: the keys that they name.
* `envelope_of_compile`: **the keys of a request are known from whether there are clauses and sort keys**, and the values at all of
  them but the search do not depend on the clauses.
-/

namespace MonitorQuery.Request.Fiql

open MonitorQuery.Query

/-! ### Empty searches -/

lemma Term.lexemes_ne_nil (t : Term) : t.lexemes ≠ [] := by
  cases t <;> simp [Term.lexemes]

/-- The text of a tree has a term in it. -/
lemma Expression.text_ne_empty (e : Expression) : e.text ≠ "" := by
  obtain ⟨l, ls, hfirst⟩ := List.exists_cons_of_ne_nil e.first.lexemes_ne_nil
  intro h
  have hchars : charsOf e.lexemes = [] := by
    rw [← String.toList_ofList (l := charsOf e.lexemes)]
    exact congrArg String.toList h
  rw [Expression.lexemes, hfirst, List.cons_append, charsOf_cons] at hchars
  exact l.chars_ne_nil (List.append_eq_nil_iff.mp hchars).1

variable {properties : List Property} {f : Filter} {p : Params} {search : String}

/-- **Only a filter without clauses has an empty search.** -/
lemma isEmpty_of_expression {cs : List Clause} (h : expression properties cs = .ok search) :
    search.isEmpty = cs.isEmpty := by
  cases cs with
  | nil =>
      cases h
      rfl
  | cons c cs =>
      obtain ⟨e, -, rfl⟩ := exists_ofClauses_of_expression h
      simpa using e.text_ne_empty

/-! ### The calls -/

/-- The calls that write the limit, and the search unless it is empty. -/
def searchCalls (limit : Option ℕ) (search : String) : List Params.Call :=
  .set limitKey (Decimal.renderNat (limit.getD 0)) :: if search.isEmpty then [] else [.set searchKey search]

/-- **A request is written by calls** for the limit, the search and the sort keys. -/
lemma exists_calls_of_compile (h : compile properties f = .ok p) :
    ∃ search, expression properties f.clauses = .ok search
      ∧ p = (searchCalls f.limit search ++ sortCalls f.sortKeys).foldl Params.perform .empty := by
  obtain ⟨search, hsearch, h⟩ := bind_eq_ok.mp h
  refine ⟨search, hsearch, ?_⟩
  rw [of_addSortKeys h, List.foldl_append, searchCalls]
  cases search.isEmpty <;> rfl

lemma map_key_searchCalls (limit : Option ℕ) (search : String) :
    (searchCalls limit search).map Params.Call.key = limitKey :: if search.isEmpty then [] else [searchKey] := by
  rw [searchCalls]
  cases search.isEmpty <;> rfl

lemma mem_map_key_searchCalls {limit : Option ℕ} {key : String} (h : key ∈ (searchCalls limit search).map Params.Call.key) :
    key = limitKey ∨ key = searchKey := by
  rw [map_key_searchCalls] at h
  split_ifs at h
  · exact .inl (List.mem_singleton.mp h)
  · simpa using h

/-- **The keys of a request**: the sort keys name keys of their own. -/
lemma keys_foldl_searchCalls (limit : Option ℕ) (search : String) (keys : List SortKey) :
    ((searchCalls limit search ++ sortCalls keys).foldl Params.perform .empty).keys
      = (limitKey :: if search.isEmpty then [] else [searchKey]) ++ (Flat.sortTable keys).map (·.1) := by
  have hsort : ∀ key ∈ (sortCalls keys).map Params.Call.key,
      key ∉ (searchCalls limit search).map Params.Call.key := by
    intro key hkey hmem
    have hsort := Flat.mem_map_key_sortCalls hkey
    obtain rfl | rfl := mem_map_key_searchCalls hmem <;> exact absurd hsort (by decide)
  have hnodup : (limitKey :: if search.isEmpty then [] else [searchKey]).Nodup := by
    have hne : limitKey ≠ searchKey := by decide
    split_ifs <;> simp [hne]
  rw [Params.keys_foldl_perform_empty, List.map_append, eraseDups_append_of_disjoint hsort, Flat.eraseDups_map_key_sortCalls,
    map_key_searchCalls, eraseDups_eq_self hnodup]

/-! ### The values at the keys -/

lemma leave_searchCalls_limit (limit : Option ℕ) (search : String) :
    (searchCalls limit search).foldl (Params.Call.leave limitKey) [] = [Decimal.renderNat (limit.getD 0)] := by
  rw [searchCalls]
  cases search.isEmpty <;> rfl

/-- At another key the limit and the search leave nothing. -/
lemma leave_searchCalls_of_ne {key : String} (hlimit : key ≠ limitKey) (hsearch : key ≠ searchKey) (limit : Option ℕ)
    (search : String) : (searchCalls limit search).foldl (Params.Call.leave key) [] = [] := by
  rw [searchCalls]
  cases search.isEmpty <;> simp [Params.Call.leave, hlimit.symm, hsearch.symm]

/-- **The keys of a request are known from whether there are clauses and sort keys.** Take any accepted filter. Its request has the
limit, behind it the search just if there are clauses, and behind that the direction and the attributes to sort by just if there
are sort keys. No attribute is a key, whatever its name. The limit is the one in decimal, or zero if there is none; the search is
one text; the direction is that of every sort key; and what is sorted by are their attributes, in order. -/
theorem envelope_of_compile (h : compile properties f = .ok p) :
    p.keys = "limit" :: (if f.clauses.isEmpty then [] else ["_s"]) ++ (if f.sortKeys.isEmpty then [] else ["order", "orderBy"])
      ∧ p.getAll "limit" = [(f.limit.map toString).getD "0"]
      ∧ (∃ search, expression properties f.clauses = .ok search
          ∧ p.getAll "_s" = if f.clauses.isEmpty then [] else [search])
      ∧ (∀ k ∈ f.sortKeys, p.getAll "order" = [k.order.label])
      ∧ p.getAll "orderBy" = f.sortKeys.map (·.attr) := by
  obtain ⟨search, hsearch, hcalls⟩ := exists_calls_of_compile h
  obtain ⟨search', hsearch', htext⟩ := getAll_searchKey_of_compile h
  obtain rfl : search = search' := Except.ok.inj (hsearch.symm.trans hsearch')
  have hempty := isEmpty_of_expression hsearch
  have hvalues : ∀ key, p.getAll key
      = (sortCalls f.sortKeys).foldl (Params.Call.leave key) ((searchCalls f.limit search).foldl (Params.Call.leave key) []) := by
    intro key
    rw [hcalls, Params.getAll_foldl_perform, List.foldl_append]
    rfl
  refine ⟨?_, ?_, ⟨search, hsearch, by rwa [hempty] at htext⟩, ?_, ?_⟩
  · rw [hcalls, keys_foldl_searchCalls, hempty]
    cases f.sortKeys <;> rfl
  · have hlimit := (hvalues limitKey).trans (leave_sortCalls_of_ne (by decide) (by decide) _ _)
    rw [leave_searchCalls_limit] at hlimit
    refine hlimit.trans ?_
    cases f.limit <;> rfl
  · intro k hk
    have hdirection := (exists_compile_iff properties).mp ⟨p, h⟩ |>.2
    have horder := (hvalues orderKey).trans (leave_sortCalls_order _ _)
    obtain ⟨first, rest, hkeys⟩ := List.exists_cons_of_ne_nil (List.ne_nil_of_mem hk)
    rw [hdirection k hk first (hkeys ▸ List.mem_cons_self)]
    rw [hkeys] at horder
    exact horder
  · have horderBy := (hvalues orderByKey).trans (leave_sortCalls_orderBy _ _)
    rwa [leave_searchCalls_of_ne (by decide) (by decide), List.nil_append] at horderBy

/-- No limit, attributes with the names of the keys, and sort keys with the same names. -/
def keyNames : Filter where
  limit := none
  clauses :=
    [.restriction .or ⟨"limit", .eq, some (.text "order")⟩,
      .group .or [.restriction .or ⟨"_s", .null, none⟩, .restriction .and ⟨"order", .le, some (.text "limit")⟩]]
  sortKeys := [⟨"_s", .descending⟩, ⟨"limit", .descending⟩, ⟨"_s", .descending⟩]

theorem envelope_of_compile_keyNames :
    ∃ p, compile [] keyNames = .ok p
      ∧ p.keys = ["limit", "_s", "order", "orderBy"]
      ∧ p.getAll "limit" = ["0"]
      ∧ p.getAll "_s" = ["limit==order,(_s==\x00;order=le=limit)"]
      ∧ p.getAll "order" = ["DESC"]
      ∧ p.getAll "orderBy" = ["_s", "limit", "_s"] := by
  obtain ⟨p, h⟩ : ∃ p, compile [] keyNames = .ok p := ⟨_, rfl⟩
  obtain ⟨hkeys, hlimit, ⟨search, hsearch, htext⟩, horder, horderBy⟩ := envelope_of_compile h
  have hsearch' : expression [] keyNames.clauses = .ok "limit==order,(_s==\x00;order=le=limit)" := rfl
  obtain rfl := Except.ok.inj (hsearch.symm.trans hsearch')
  exact ⟨p, h, hkeys, hlimit, htext, horder ⟨"_s", .descending⟩ (by simp [keyNames]), horderBy⟩

end MonitorQuery.Request.Fiql
