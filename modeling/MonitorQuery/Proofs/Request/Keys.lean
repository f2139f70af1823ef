import MonitorQuery.Proofs.Request.Calls

/-!
The keys of a request.

A call that names a new key puts it behind all others, and a key that is there keeps its place, whatever is called. So the keys
stand as they were first named, and a request is known from them and from the values at each.

* `Params.keys_foldl_perform`: **the keys of a request are those that its calls name**, each where it was named first.
* `Params.table`: every key with its values, in order; `Params.pairs_eq_flatMap_table` is the flattening of it.
* `Params.table_eq_map_keys`, `Params.eq_iff`: **where no key comes twice, a request is its keys and the values at each.**
* `eraseDups_append_of_disjoint`, `eraseDups_move_iff`: first occurrences in lists that are put together, and when one member can
  be moved without a change to them.
-/

namespace MonitorQuery

/-! ### First occurrences -/

section FirstOccurrences

variable {α : Type} [DecidableEq α]

lemma nodup_eraseDups (as : List α) : as.eraseDups.Nodup := by
  induction hn : as.length using Nat.strong_induction_on generalizing as with
  | _ n ih =>
      cases as with
      | nil => exact List.nodup_nil
      | cons a as =>
          rw [List.eraseDups_cons, List.nodup_cons]
          refine ⟨by simp, ih _ ?_ _ rfl⟩
          have hlength := List.length_filter_le (fun b => !b == a) as
          rw [List.length_cons] at hn
          omega

lemma eraseDups_eq_self {as : List α} (h : as.Nodup) : as.eraseDups = as := by
  induction as with
  | nil => rfl
  | cons a as ih =>
      obtain ⟨ha, has⟩ := List.nodup_cons.mp h
      have hfilter : (as.filter fun b => !b == a) = as := by
        refine List.filter_eq_self.mpr fun b hb => ?_
        simpa using ne_of_mem_of_not_mem hb ha
      rw [List.eraseDups_cons, hfilter, ih has]

lemma removeAll_eq_self {as bs : List α} (h : ∀ b ∈ bs, b ∉ as) : bs.removeAll as = bs := by
  refine List.filter_eq_self.mpr fun b hb => ?_
  simpa using h b hb

lemma removeAll_eq_nil_iff {as bs : List α} : bs.removeAll as = [] ↔ ∀ b ∈ bs, b ∈ as := by
  simp [List.removeAll]

lemma removeAll_append (as bs cs : List α) : (bs ++ cs).removeAll as = bs.removeAll as ++ cs.removeAll as :=
  List.filter_append _ _

lemma removeAll_cons_of_mem {as : List α} {b : α} (h : b ∈ as) (bs : List α) : (b :: bs).removeAll as = bs.removeAll as := by
  simp [List.removeAll, h]

lemma removeAll_cons_of_notMem {as : List α} {b : α} (h : b ∉ as) (bs : List α) :
    (b :: bs).removeAll as = b :: bs.removeAll as := by
  simp [List.removeAll, h]

/-- Lists with nothing in common keep their first occurrences side by side. -/
lemma eraseDups_append_of_disjoint {as bs : List α} (h : ∀ b ∈ bs, b ∉ as) :
    (as ++ bs).eraseDups = as.eraseDups ++ bs.eraseDups := by
  rw [List.eraseDups_append, removeAll_eq_self h]

/-- A member can be moved in front of others, among which it is not, exactly if it has come before or they all have. -/
lemma eraseDups_move_iff {a : α} {before moved behind : List α} (ha : a ∉ moved) :
    (before ++ (moved ++ a :: behind)).eraseDups = (before ++ (a :: (moved ++ behind))).eraseDups
      ↔ a ∈ before ∨ ∀ b ∈ moved, b ∈ before := by
  rw [List.eraseDups_append, List.eraseDups_append, List.append_cancel_left_eq, removeAll_append]
  by_cases hbefore : a ∈ before
  · refine iff_of_true ?_ (.inl hbefore)
    rw [removeAll_cons_of_mem hbefore, removeAll_cons_of_mem hbefore, removeAll_append]
  · rw [removeAll_cons_of_notMem hbefore, removeAll_cons_of_notMem hbefore, removeAll_append]
    cases hmoved : moved.removeAll before with
    | nil => exact iff_of_true rfl (.inr (removeAll_eq_nil_iff.mp hmoved))
    | cons b bs =>
        refine iff_of_false ?_ ?_
        · -- on the left the first of those that were moved is new, on the right it stands behind `a`
          intro heq
          rw [List.cons_append, List.eraseDups_cons, List.eraseDups_cons] at heq
          have hb : b ∈ moved.removeAll before := hmoved ▸ List.mem_cons_self
          rw [(List.cons.inj heq).1] at hb
          exact ha (List.mem_of_mem_filter hb)
        · rintro (hmem | hall)
          · exact hbefore hmem
          · rw [removeAll_eq_nil_iff.mpr hall] at hmoved
            cases hmoved

end FirstOccurrences

namespace Request

lemma Values.toList_inj {v w : Values} (h : v.toList = w.toList) : v = w := by
  obtain ⟨first, more⟩ := v
  obtain ⟨first', more'⟩ := w
  obtain ⟨rfl, rfl⟩ := List.cons.inj h
  rfl

namespace Params

variable {p q : Params}

/-! ### The order of the keys -/

/-- The key that a call names. -/
def Call.key : Call → String
  | .set key _ | .append key _ => key

lemma map_fst_update (change : Values → Values) (key text : String) (entries : List (String × Values)) :
    (update change key text entries).map (·.1)
      = if key ∈ entries.map (·.1) then entries.map (·.1) else entries.map (·.1) ++ [key] := by
  induction entries with
  | nil => rfl
  | cons e entries ih =>
      obtain ⟨k, v⟩ := e
      by_cases hk : k = key
      · simp [update, hk]
      · rw [update, if_neg hk, List.map_cons, ih]
        simp only [List.map_cons, List.mem_cons, Ne.symm hk, false_or]
        split <;> rfl

/-- **A key keeps its place, and a new one is put behind all others.** -/
lemma keys_perform (p : Params) (call : Call) :
    (p.perform call).keys = if call.key ∈ p.keys then p.keys else p.keys ++ [call.key] := by
  cases call <;> exact map_fst_update _ _ _ _

/-- **The keys of a request are those that its calls name**, behind those that were there, each where it was named first. -/
lemma keys_foldl_perform (hp : p.keys.Nodup) (calls : List Call) :
    (calls.foldl perform p).keys = (p.keys ++ calls.map Call.key).eraseDups := by
  induction calls generalizing p with
  | nil => rw [List.map_nil, List.append_nil, eraseDups_eq_self hp, List.foldl_nil]
  | cons call calls ih =>
      rw [List.foldl_cons, List.map_cons]
      by_cases hkey : call.key ∈ p.keys
      · have hkeys : (p.perform call).keys = p.keys := by rw [keys_perform, if_pos hkey]
        rw [ih (hkeys ▸ hp), hkeys, List.eraseDups_append, List.eraseDups_append, removeAll_cons_of_mem hkey]
      · have hkeys : (p.perform call).keys = p.keys ++ [call.key] := by rw [keys_perform, if_neg hkey]
        have hnodup : (p.keys ++ [call.key]).Nodup :=
          hp.append (List.nodup_singleton _) (List.disjoint_singleton.mpr hkey)
        rw [ih (hkeys ▸ hnodup), hkeys, List.append_assoc, List.singleton_append]

/-- The keys of a request that is written from the start. -/
lemma keys_foldl_perform_empty (calls : List Call) :
    (calls.foldl perform empty).keys = (calls.map Call.key).eraseDups := by
  rw [keys_foldl_perform (p := empty) List.nodup_nil]
  rfl

/-- No key of a request comes twice. -/
lemma nodup_keys_foldl_perform (calls : List Call) : (calls.foldl perform empty).keys.Nodup := by
  rw [keys_foldl_perform_empty]
  exact nodup_eraseDups _

/-! ### Keys and values -/

/-- Every key with its values, in order. -/
def table (p : Params) : List (String × List String) := p.entries.map fun (key, values) => (key, values.toList)

/-- The pairs are the table with every value by itself. -/
lemma pairs_eq_flatMap_table (p : Params) :
    p.pairs = p.table.flatMap fun (key, texts) => texts.map fun text => (key, text) := by
  rw [table, List.flatMap_map]
  rfl

lemma eq_of_table_eq (h : p.table = q.table) : p = q := by
  have hinj : Function.Injective fun e : String × Values => (e.1, e.2.toList) := by
    intro e e' heq
    obtain ⟨hkey, hvalues⟩ := Prod.mk.inj heq
    exact Prod.ext hkey (Values.toList_inj hvalues)
  obtain ⟨entries⟩ := p
  obtain ⟨entries'⟩ := q
  exact congrArg Params.mk (List.map_injective_iff.mpr hinj h)

lemma lookup_of_mem {entries : List (String × Values)} {key : String} {values : Values}
    (hnodup : (entries.map (·.1)).Nodup) (he : (key, values) ∈ entries) : entries.lookup key = some values := by
  induction entries with
  | nil => cases he
  | cons e entries ih =>
      obtain ⟨k, v⟩ := e
      obtain ⟨hk, hentries⟩ := List.nodup_cons.mp hnodup
      obtain heq | he := List.mem_cons.mp he
      · obtain ⟨rfl, rfl⟩ := Prod.mk.inj heq
        rw [List.lookup_cons, beq_self_eq_true]
      · have hne : key ≠ k := ne_of_mem_of_not_mem (List.mem_map_of_mem (f := (·.1)) he) hk
        rw [List.lookup_cons, beq_false_of_ne hne]
        exact ih hentries he

/-- **Where no key comes twice, the table is the keys with the values at each.** -/
lemma table_eq_map_keys (hp : p.keys.Nodup) : p.table = p.keys.map fun key => (key, p.getAll key) := by
  rw [table, keys, List.map_map]
  refine List.map_congr_left fun (key, values) he => ?_
  simp only [Function.comp_apply, getAll, get?, lookup_of_mem hp he]
  rfl

/-- **Requests are the same if their keys are, in order, and the values at each.** -/
lemma eq_iff (hp : p.keys.Nodup) (hq : q.keys.Nodup) : p = q ↔ p.keys = q.keys ∧ ∀ key, p.getAll key = q.getAll key := by
  constructor
  · rintro rfl
    exact ⟨rfl, fun _ => rfl⟩
  · rintro ⟨hkeys, hvalues⟩
    refine eq_of_table_eq ?_
    rw [table_eq_map_keys hp, table_eq_map_keys hq, hkeys]
    exact List.map_congr_left fun key _ => by rw [hvalues]

end Params

end Request

end MonitorQuery
