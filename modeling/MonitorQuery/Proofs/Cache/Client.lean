import MonitorQuery.Proofs.Cache.History

/-!
Clients of a cache, and what they can see of it.

A client calls a cache again and again. What it calls next may depend on all the answers so far, and the fetch in a call is
a client of the same cache, to any depth. Clients are run twice: on a cache (`Client.perform`), and on a history, where
answers come from what has happened and from nothing else (`Client.expected`).

* `Agrees.perform`: **the runs agree from a cache and a history that agree**, by induction on the client; there is one
  lemma in `History` for each event.
* `leaves_what_history_says`: **a new cache is left with what the history of its calls says**: answers, entries, their number
  and the server.
-/

namespace MonitorQuery.Cache

open MonitorQuery.Server

variable {ε : Type}

/-- Calls of a cache. Each call but the last says what follows its answer; a fetch is such calls too. In the end there are
properties or a failure. -/
inductive Client (ε : Type)
  | finish (outcome : Except ε (List Property))
  | get? (key : CacheKey) (next : Option (List Property) → Client ε)
  | put (key : CacheKey) (properties : List Property) (next : Client ε)
  | getOrFetch (key : CacheKey) (fetch : Client ε) (next : Except ε (List Property) → Client ε)
  | connect (server : Identity) (next : Nat → Client ε)
  | invalidate (server : Identity) (next : Nat → Client ε)
  | clear (next : Client ε)
  | size (next : Nat → Client ε)
  | current (next : Option Identity → Client ε)

/-- The calls of a client, made on a cache. -/
def Client.perform : Client ε → StateM Cache (Except ε (List Property))
  | finish outcome => pure outcome
  | get? key next => do (next ((← get).get? key)).perform
  | put key properties next => do
    modify fun c => c.put key properties
    next.perform
  | getOrFetch key fetch next => do (next (← Cache.getOrFetch key fetch.perform)).perform
  | connect server next => do (next (← modifyGet (Cache.connect server))).perform
  | invalidate server next => do (next (← modifyGet (Cache.invalidate server))).perform
  | clear next => do
    modify Cache.clear
    next.perform
  | size next => do (next (← get).size).perform
  | current next => do (next (← get).server).perform

/-- What becomes of the calls of a client after a history: each is answered for what has happened before it. A fetch is made
where nothing is live. If it succeeds it ends with an insertion, and if it fails nothing follows what happened in it. -/
def Client.expected : Client ε → History → Except ε (List Property) × History
  | finish outcome, h => (outcome, h)
  | get? key next, h => (next (h.live key)).expected h
  | put key properties next, h => next.expected (.inserted key properties :: h)
  | getOrFetch key fetch next, h =>
    match h.live key with
    | some properties => (next (.ok properties)).expected h
    | none =>
      match fetch.expected h with
      | (.ok properties, h) => (next (.ok properties)).expected (.inserted key properties :: h)
      | (.error e, h) => (next (.error e)).expected h
  | connect server next, h => (next (h.evicted (.connected server)).card).expected (.connected server :: h)
  | invalidate server next, h => (next (h.evicted (.invalidated server)).card).expected (.invalidated server :: h)
  | clear next, h => next.expected (.cleared :: h)
  | size next, h => (next h.liveKeys.card).expected h
  | current next, h => (next h.current).expected h

/-- The state of a run is passed on from a call to the next. -/
lemma Client.run_perform_getOrFetch (key : CacheKey) (fetch : Client ε)
    (next : Except ε (List Property) → Client ε) (c : Cache) :
    (Client.getOrFetch key fetch next).perform.run c =
      match c.get? key with
      | some properties => (next (.ok properties)).perform.run c
      | none => (next (fetch.perform.run c).1).perform.run
          ((fetch.perform.run c).2.settle key (fetch.perform.run c).1) := by
  show (next ((Cache.getOrFetch key fetch.perform).run c).1).perform.run
    ((Cache.getOrFetch key fetch.perform).run c).2 = _
  rw [run_getOrFetch]
  cases c.get? key <;> rfl

/-- **A client sees of a cache what the history says**, and leaves a cache that agrees with what has happened then. -/
theorem Agrees.perform {c : Cache} {h : History} (hc : Agrees c h) (client : Client ε) :
    (client.perform.run c).1 = (client.expected h).1 ∧ Agrees (client.perform.run c).2 (client.expected h).2 := by
  induction client generalizing c h with
  | finish outcome => exact ⟨rfl, hc⟩
  | get? key next ih =>
      show ((next (c.get? key)).perform.run c).1 = _ ∧ Agrees ((next (c.get? key)).perform.run c).2 _
      rw [hc.get?]
      exact ih _ hc
  | put key properties next ih => exact ih (hc.put key properties)
  | getOrFetch key fetch next ihfetch ihnext =>
      rw [Client.run_perform_getOrFetch, hc.get?, Client.expected]
      cases h.live key with
      | some properties => exact ihnext _ hc
      | none =>
          obtain ⟨houtcome, hagrees⟩ := ihfetch hc
          rcases hfetch : fetch.expected h with ⟨outcome, h'⟩
          rw [hfetch] at houtcome hagrees
          simp only [houtcome]
          cases outcome with
          | ok properties => exact ihnext _ (hagrees.put key properties)
          | error e => exact ihnext _ hagrees
  | connect server next ih =>
      obtain ⟨hagrees, hcount⟩ := hc.connect server
      show ((next (c.connect server).1).perform.run (c.connect server).2).1 = _
        ∧ Agrees ((next (c.connect server).1).perform.run (c.connect server).2).2 _
      rw [hcount]
      exact ih _ hagrees
  | invalidate server next ih =>
      obtain ⟨hagrees, hcount⟩ := hc.invalidate server
      show ((next (c.invalidate server).1).perform.run (c.invalidate server).2).1 = _
        ∧ Agrees ((next (c.invalidate server).1).perform.run (c.invalidate server).2).2 _
      rw [hcount]
      exact ih _ hagrees
  | clear next ih => exact ih hc.clear
  | size next ih =>
      show ((next c.size).perform.run c).1 = _ ∧ Agrees ((next c.size).perform.run c).2 _
      rw [hc.size_eq]
      exact ih _ hc
  | current next ih =>
      show ((next c.server).perform.run c).1 = _ ∧ Agrees ((next c.server).perform.run c).2 _
      rw [hc.server]
      exact ih _ hc

/-! ### New caches -/

/-- The cache that a client leaves which began with a new one. -/
def Client.leaves (client : Client ε) : Cache := (client.perform.run empty).2

/-- What has happened to a new cache when a client is through with it. -/
def Client.history (client : Client ε) : History := (client.expected []).2

lemma Client.agrees_leaves (client : Client ε) : Agrees client.leaves client.history := (Agrees.empty.perform client).2

/-- **A cache is the map that its history defines.** On a new cache a client has the outcome that the history of its calls
defines; as it may end with all the answers it was given, each of them is what the history says. What stands at a key is
what was put in last and nothing has evicted since, the size is the number of the keys that are live, and the server is the
one connected last.

The last part is a single call with a fetch that may change a world beside the cache: the fetch is run just where nothing is
there, and a failure is returned with the cache as the fetch has left it. -/
theorem leaves_what_history_says (client : Client ε) :
    (client.perform.run empty).1 = (client.expected []).1
      ∧ (∀ key, client.leaves.get? key = client.history.live key)
      ∧ (∀ key properties, client.history.live key = some properties ↔
          ∃ later earlier, client.history = later ++ .inserted key properties :: earlier
            ∧ ∀ since event before, later = since ++ event :: before →
              event.key? ≠ some key
                ∧ History.evicts (before ++ .inserted key properties :: earlier) key event = false)
      ∧ client.leaves.size = client.history.liveKeys.card
      ∧ client.leaves.server = client.history.current
      ∧ ∀ {World : Type} (key : CacheKey) (fetch : StateT Cache (StateM World) (Except ε (List Property)))
          (c : Cache) (w : World),
          ((getOrFetch key fetch).run c).run w =
            match c.get? key with
            | some properties => ((.ok properties, c), w)
            | none =>
              match (fetch.run c).run w with
              | ((.ok properties, c'), w') => ((.ok properties, c'.put key properties), w')
              | ((.error e, c'), w') => ((.error e, c'), w') := by
  have hagrees := client.agrees_leaves
  refine ⟨(Agrees.empty.perform client).1, hagrees.get?, fun _ _ => History.live_eq_some_iff, hagrees.size_eq,
    hagrees.server, fun key fetch c w => ?_⟩
  rw [run_getOrFetch]
  cases c.get? key with
  | some properties => rfl
  | none =>
      show ((fun r : _ × Cache => (r.1, r.2.settle key r.1)) <$> fetch.run c).run w = _
      rw [StateT.run_map]
      rcases (fetch.run c).run w with ⟨⟨outcome, c'⟩, w'⟩
      cases outcome <;> rfl

end MonitorQuery.Cache
