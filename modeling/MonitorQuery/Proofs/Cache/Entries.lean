import Mathlib.Tactic
import MonitorQuery.Property.Cache

/-!
The keys of a cache, and a call with a fetch.

What stands at a key after an operation is told beside the operations. Here it is told what becomes of the keys, by which
entries are counted, what is dropped, and what a call with a fetch amounts to.

* `mem_keys_iff`: a key is one of the cache if something stands at it.
* `keys_put`: the keys after an insertion. They do not come to repeat (`nodup_keys_put`).
* `keep_fst`: the number that is returned with the entries that are kept counts the others.
* `connect_of_eq`, `connect_of_ne`: entries are dropped only if it is not the connected server that is connected.
* `run_getOrFetch`: **a fetch is run only where nothing is there**, and a failure leaves the cache as the fetch left it.
-/

namespace MonitorQuery.Cache

open MonitorQuery.Server

/-! ### Keys -/

/-- The keys of the entries. -/
def keys (c : Cache) : List CacheKey := c.entries.map Prod.fst

lemma length_keys (c : Cache) : c.keys.length = c.size := List.length_map _

lemma mem_keys_iff {c : Cache} {key : CacheKey} : key ∈ c.keys ↔ (c.get? key).isSome := by
  rw [get?, List.lookup_isSome_iff, keys, List.mem_map]
  simp only [beq_iff_eq]
  exact exists_congr fun e => and_congr_right' eq_comm

lemma keys_put (c : Cache) (key : CacheKey) (properties : List Property) :
    (c.put key properties).keys = key :: c.keys.filter (· != key) := by
  simp only [keys, put, List.map_cons, List.filter_map]
  rfl

lemma nodup_keys_put {c : Cache} (h : c.keys.Nodup) (key : CacheKey) (properties : List Property) :
    (c.put key properties).keys.Nodup := by
  rw [keys_put, List.nodup_cons]
  exact ⟨by simp, h.filter _⟩

/-! ### What is dropped -/

/-- The number that is returned counts the entries that are not kept. -/
lemma keep_fst (p : Identity → Bool) (c : Cache) :
    (c.keep p).1 = (c.entries.filter fun e => !p e.1.server).length := by
  have hsplit := List.length_eq_length_filter_add (l := c.entries) fun e => p e.1.server
  simp only [keep]
  omega

/-- Connecting the server that is connected does nothing. -/
lemma connect_of_eq {c : Cache} {server : Identity} (h : c.server = some server) :
    c.connect server = (0, c) := if_pos h

/-- Connecting another server keeps the entries of that server. -/
lemma connect_of_ne {c : Cache} {server : Identity} (h : c.server ≠ some server) :
    c.connect server = ((c.keep (· == server)).1, { (c.keep (· == server)).2 with server := some server }) :=
  if_neg h

/-! ### A call with a fetch -/

/-- The cache once a fetch for a key has ended: what the fetch has brought is put in, if it has brought anything. -/
def settle {ε : Type} (key : CacheKey) (c : Cache) : Except ε (List Property) → Cache
  | .ok properties => c.put key properties
  | .error _ => c

/-- **A call with a fetch.** What is there is returned and the fetch is not run. Where nothing is there the fetch is run, its
outcome is returned, and what it has brought is put in. -/
lemma run_getOrFetch {m : Type → Type} {ε : Type} [Monad m] [LawfulMonad m] (key : CacheKey)
    (fetch : StateT Cache m (Except ε (List Property))) (c : Cache) :
    (getOrFetch key fetch).run c =
      match c.get? key with
      | some properties => pure (.ok properties, c)
      | none => (fun r => (r.1, r.2.settle key r.1)) <$> fetch.run c := by
  simp only [getOrFetch, StateT.run_bind, StateT.run_get, pure_bind]
  cases c.get? key with
  | some properties => rfl
  | none =>
      rw [StateT.run_bind, map_eq_pure_bind]
      congr 1
      funext r
      obtain ⟨outcome, c'⟩ := r
      cases outcome with
      | ok properties =>
          rw [StateT.run_bind, StateT.run_modify, pure_bind]
          rfl
      | error e => rfl

end MonitorQuery.Cache
