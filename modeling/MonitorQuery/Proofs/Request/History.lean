import Mathlib.Data.List.DropRight
import MonitorQuery.Proofs.Request.Keys

/-!
A request as the history of its calls.

What stands in a request can be told from the calls that have written it, and so can the form in which it is kept: a text by itself
at a key with one value, a list at a key with more. The list comes about when a second text is added to the first, and a call that
gives the key one value makes an end of it.

* `Stored`, `Store.perform`: what is kept at a key, and what a call makes of it. `stored_perform`, `stored_ofCalls`: **it is in step
  with the request**.
* `history`: the values that calls leave at a key, told from the last call that gives it one value. `getAll_eq_history`: **they are
  the values at the key.**
* `pairwise_idxOf_eraseDups`: first occurrences stand in the order in which they come.
* `followsCalls`: **the keys, the values, the form in which they are kept and the pairs of a request**, all from its calls.
-/

namespace MonitorQuery

/-- First occurrences stand in the order in which they come. -/
lemma pairwise_idxOf_eraseDups {α : Type} [DecidableEq α] (as : List α) :
    as.eraseDups.Pairwise fun a b => as.idxOf a < as.idxOf b := by
  induction as using List.reverseRecOn with
  | nil => exact List.Pairwise.nil
  | append_singleton as a ih =>
      have hbefore : as.eraseDups.Pairwise fun b c => (as ++ [a]).idxOf b < (as ++ [a]).idxOf c := by
        refine ih.imp_of_mem fun {b c} hb hc hlt => ?_
        rwa [List.idxOf_append_of_mem (List.mem_eraseDups.mp hb), List.idxOf_append_of_mem (List.mem_eraseDups.mp hc)]
      have hnone : ([] : List α).removeAll as = [] := rfl
      rw [List.eraseDups_append]
      by_cases ha : a ∈ as
      · rwa [removeAll_cons_of_mem ha, hnone, List.eraseDups_nil, List.append_nil]
      · rw [removeAll_cons_of_notMem ha, hnone, eraseDups_eq_self (List.nodup_singleton a), List.pairwise_append]
        refine ⟨hbefore, List.pairwise_singleton _ _, fun b hb c hc => ?_⟩
        obtain rfl := List.mem_singleton.mp hc
        have hb' : b ∈ as := List.mem_eraseDups.mp hb
        rw [List.idxOf_append_of_mem hb', List.idxOf_append_of_notMem ha]
        exact Nat.lt_add_right _ (List.idxOf_lt_length_of_mem hb')

namespace Request

namespace Params

/-- The request that calls write from the start. -/
def ofCalls (calls : List Call) : Params := calls.foldl perform empty

/-! ### The form in which values are kept -/

/-- What is kept at a key: a text by itself, or a list of texts. -/
inductive Stored
  | single (text : String)
  | multi (texts : List String)
  deriving DecidableEq, Repr

/-- One text more. A text by itself becomes the first of a list. -/
def Stored.push : Stored → String → Stored
  | single first, text => multi [first, text]
  | multi texts, text => multi (texts ++ [text])

/-- Keys with what is kept at each, in the order in which they came. -/
abbrev Store := List (String × Stored)

namespace Store

/-- Puts something at a key, in the place of what is there or behind all else. -/
def insert (key : String) (s : Stored) : Store → Store
  | [] => [(key, s)]
  | (k, t) :: m => if k = key then (k, s) :: m else (k, t) :: insert key s m

/-- What is kept after a call. -/
def perform (m : Store) : Call → Store
  | .set key text => insert key (.single text) m
  | .append key text =>
    match m.lookup key with
    | some s => insert key (s.push text) m
    | none => insert key (.single text) m

/-- What is kept after calls, from the start. -/
def ofCalls (calls : List Call) : Store := calls.foldl perform []

end Store

/-- The form in which the values of a key are kept. -/
def storedOf (v : Values) : Stored := if v.more.isEmpty then .single v.first else .multi v.toList

/-- The form in which a request is kept. -/
def stored (p : Params) : Store := p.entries.map fun (key, values) => (key, storedOf values)

lemma storedOf_push (v : Values) (text : String) : storedOf (v.push text) = (storedOf v).push text := by
  obtain ⟨first, more⟩ := v
  cases more <;> rfl

lemma lookup_stored (p : Params) (key : String) : p.stored.lookup key = (p.get? key).map storedOf := by
  rw [stored, get?]
  induction p.entries with
  | nil => rfl
  | cons e entries ih =>
      obtain ⟨k, v⟩ := e
      rw [List.map_cons, List.lookup_cons, List.lookup_cons]
      cases key == k
      · exact ih
      · rfl

/-- An update puts at its key what it makes of what is kept there, or a text by itself. -/
lemma stored_update (change : Values → Values) (kept : Stored → Stored) (h : ∀ v, storedOf (change v) = kept (storedOf v))
    (key text : String) (entries : List (String × Values)) :
    stored ⟨update change key text entries⟩
      = Store.insert key ((((stored ⟨entries⟩).lookup key).map kept).getD (.single text)) (stored ⟨entries⟩) := by
  induction entries with
  | nil => rfl
  | cons e entries ih =>
      obtain ⟨k, v⟩ := e
      by_cases hk : k = key
      · subst hk
        simp [update, stored, Store.insert, h]
      · have hlookup : (stored ⟨(k, v) :: entries⟩).lookup key = (stored ⟨entries⟩).lookup key := by
          rw [stored, List.map_cons, List.lookup_cons, beq_false_of_ne (Ne.symm hk)]
          rfl
        have hcons : stored ⟨(k, v) :: entries⟩ = (k, storedOf v) :: stored ⟨entries⟩ := rfl
        rw [update, if_neg hk, hlookup, hcons, Store.insert, if_neg hk, ← ih]
        rfl

/-- **What is kept changes as the request does.** -/
lemma stored_perform (p : Params) (call : Call) : (p.perform call).stored = p.stored.perform call := by
  cases call with
  | set key text =>
      rw [perform, set, stored_update _ (fun _ => .single text) fun _ => rfl, Store.perform]
      cases p.stored.lookup key <;> rfl
  | append key text =>
      rw [perform, append, stored_update _ (·.push text) fun v => storedOf_push v text, Store.perform]
      cases p.stored.lookup key <;> rfl

/-- **What is kept is in step with the request.** -/
theorem stored_ofCalls (calls : List Call) : (ofCalls calls).stored = Store.ofCalls calls :=
  (List.foldl_hom stored fun q call => (stored_perform q call).symm).symm

/-! ### The values from the calls -/

/-- The text that a call gives a key in place of all others. -/
def Call.given? (key : String) : Call → Option String
  | .set k text => if k = key then some text else none
  | .append _ _ => none

/-- The text that a call adds to those of a key. -/
def Call.added? (key : String) : Call → Option String
  | .set _ _ => none
  | .append k text => if k = key then some text else none

/-- The text that was last given a key in place of all others. -/
def lastGiven? (key : String) (calls : List Call) : Option String := calls.reverse.findSome? (Call.given? key)

/-- The calls behind the last that gave a key one text. -/
def sinceGiven (key : String) (calls : List Call) : List Call := calls.rtakeWhile fun call => (call.given? key).isNone

/-- The values that calls leave at a key: the text that it was given last, and behind it those added since. -/
def history (key : String) (calls : List Call) : List String :=
  (lastGiven? key calls).toList ++ (sinceGiven key calls).filterMap (Call.added? key)

lemma lastGiven?_append_singleton (key : String) (calls : List Call) (call : Call) :
    lastGiven? key (calls ++ [call]) = (call.given? key).or (lastGiven? key calls) := by
  rw [lastGiven?, List.reverse_append, List.reverse_singleton, List.singleton_append, List.findSome?_cons]
  cases call.given? key <;> rfl

lemma history_append_singleton (key : String) (calls : List Call) (call : Call) :
    history key (calls ++ [call]) = call.leave key (history key calls) := by
  rw [history, lastGiven?_append_singleton, sinceGiven, List.rtakeWhile_concat]
  cases call with
  | set k text =>
      by_cases hk : k = key
      · simp [Call.given?, Call.leave, hk]
      · simp [Call.given?, Call.added?, Call.leave, hk, history, sinceGiven]
  | append k text =>
      by_cases hk : k = key
      · simp [Call.given?, Call.added?, Call.leave, hk, history, sinceGiven]
      · simp [Call.given?, Call.added?, Call.leave, hk, history, sinceGiven]

/-- **The values at a key are those that the calls leave there.** -/
theorem getAll_eq_history (calls : List Call) (key : String) :
    (ofCalls calls).getAll key = history key calls := by
  rw [ofCalls, getAll_foldl_perform]
  induction calls using List.reverseRecOn with
  | nil => rfl
  | append_singleton calls call ih => rw [List.foldl_append, List.foldl_cons, List.foldl_nil, ih, history_append_singleton]

/-! ### What the calls say -/

/-- A request is what its calls say, and so is what is kept for it: a key stands where it was named first, with the values that the
calls leave there, a list just if there are two or more; and the pairs are every value with its key. -/
structure FollowsCalls (calls : List Call) (p : Params) (m : Store) : Prop where
  stored : m = p.stored
  nodup : p.keys.Nodup
  named : ∀ key, key ∈ p.keys ↔ ∃ call ∈ calls, call.key = key
  order : p.keys.Pairwise fun a b => (calls.map Call.key).idxOf a < (calls.map Call.key).idxOf b
  getAll : ∀ key, p.getAll key = history key calls
  multi : ∀ key texts, m.lookup key = some (.multi texts) ↔ p.getAll key = texts ∧ 2 ≤ texts.length
  single : ∀ key text, m.lookup key = some (.single text) ↔ p.getAll key = [text]
  single? : ∀ key text, p.single? key = some text ↔ p.getAll key = [text]
  size : p.size = (calls.map Call.key).toFinset.card
  pairs : p.pairs = p.keys.flatMap fun key => (p.getAll key).map fun text => (key, text)

/-- Two texts or more are kept as a list. -/
lemma storedOf_eq_multi_iff {v : Values} {texts : List String} :
    storedOf v = .multi texts ↔ v.toList = texts ∧ 2 ≤ texts.length := by
  obtain ⟨first, more⟩ := v
  cases more with
  | nil =>
      constructor
      · intro h
        cases h
      · rintro ⟨rfl, htwo⟩
        simp [Values.toList] at htwo
  | cons second more =>
      constructor
      · intro h
        cases h
        exact ⟨rfl, by simp [Values.toList]⟩
      · rintro ⟨rfl, -⟩
        rfl

/-- One text is kept by itself. -/
lemma storedOf_eq_single_iff {v : Values} {text : String} : storedOf v = .single text ↔ v.toList = [text] := by
  obtain ⟨first, more⟩ := v
  cases more <;> simp [storedOf, Values.toList]

lemma single?_eq_some_iff {v : Values} {text : String} : v.single? = some text ↔ v.toList = [text] := by
  obtain ⟨first, more⟩ := v
  cases more <;> simp [Values.single?, Values.toList]

/-- **A request is what its calls say**, and it is kept in the form that they give it. -/
theorem followsCalls (calls : List Call) : FollowsCalls calls (ofCalls calls) (Store.ofCalls calls) := by
  have hkeys : (ofCalls calls).keys = (calls.map Call.key).eraseDups := keys_foldl_perform_empty calls
  have hnodup : (ofCalls calls).keys.Nodup := nodup_keys_foldl_perform calls
  have hvalues := getAll_eq_history calls
  rw [← stored_ofCalls]
  generalize ofCalls calls = p at hkeys hnodup hvalues
  refine ⟨rfl, hnodup, fun key => ?_, ?_, hvalues, fun key texts => ?_, fun key text => ?_, fun key text => ?_, ?_, ?_⟩
  · rw [hkeys, List.mem_eraseDups, List.mem_map]
  · rw [hkeys]
    exact pairwise_idxOf_eraseDups _
  · rw [lookup_stored, getAll]
    cases p.get? key with
    | none =>
        refine iff_of_false (by simp) ?_
        rintro ⟨rfl, htwo⟩
        exact absurd htwo (by decide)
    | some v => simp [storedOf_eq_multi_iff]
  · rw [lookup_stored, getAll]
    cases p.get? key with
    | none => simp
    | some v => simp [storedOf_eq_single_iff]
  · rw [Params.single?, getAll]
    cases p.get? key with
    | none => simp
    | some v => simp [single?_eq_some_iff]
  · have hsize : p.size = p.keys.length := (List.length_map _).symm
    rw [hsize, hkeys, ← List.toFinset_card_of_nodup (nodup_eraseDups _)]
    congr 1
    ext key
    rw [List.mem_toFinset, List.mem_toFinset, List.mem_eraseDups]
  · rw [pairs_eq_flatMap_table, table_eq_map_keys hnodup, List.flatMap_map]

end Params

end Request

end MonitorQuery
