import MonitorQuery.Proofs.Cache.Client

/-!
Connecting a server.

What connecting a server is for is that the entries of all others go. They do if another server was connected before, or none.
If the server is connected already nothing is looked at, so entries that came in for another server since then stay.

* `Switches`: connecting a server drops the entries of the others and no others, and counts them.
* `switches_iff`: on any cache, that is so if and only if the server is not yet connected or there are no entries of others.
* `switches_leaves_iff`: the same told by the history of a cache, without the cache.
* `not_switches_leaves`: an entry of another server survives that the connected server is connected again.
-/

namespace MonitorQuery.Cache

open MonitorQuery.Server

/-- **Connecting a server drops the entries of all others.** What remains belongs to the server, all that belonged to it remains
as it was, and the number that is returned is that of the entries of others. -/
structure Switches (server : Identity) (c : Cache) : Prop where
  only : ∀ e ∈ (c.connect server).2.entries, e.1.server = server
  kept : ∀ e ∈ c.entries, e.1.server = server → e ∈ (c.connect server).2.entries
  count : (c.connect server).1 = c.entries.countP fun e => e.1.server ≠ server

/-- A server that is not connected takes the place of all others. -/
lemma switches_of_ne {c : Cache} {server : Identity} (h : c.server ≠ some server) : Switches server c := by
  have hconnect := connect_of_ne h
  refine ⟨fun e he => ?_, fun e he hserver => ?_, ?_⟩
  · rw [hconnect] at he
    simpa using List.of_mem_filter he
  · rw [hconnect]
    exact List.mem_filter.mpr ⟨he, by simpa using hserver⟩
  · rw [hconnect, keep_fst, List.countP_eq_length_filter]
    refine congrArg List.length (List.filter_congr fun e _ => ?_)
    by_cases hserver : e.1.server = server <;> simp [hserver]

/-- A server that is connected already takes no place, and nothing is dropped. -/
lemma switches_iff {c : Cache} {server : Identity} :
    Switches server c ↔ (c.server = some server → ∀ key ∈ c.keys, key.server = server) := by
  constructor
  · intro h hserver key hkey
    obtain ⟨e, he, rfl⟩ := List.mem_map.mp hkey
    have honly := h.only
    rw [connect_of_eq hserver] at honly
    exact honly e he
  · intro h
    by_cases hserver : c.server = some server
    · have hown : ∀ e ∈ c.entries, e.1.server = server := fun e he => h hserver e.1 (List.mem_map_of_mem he)
      have hconnect := connect_of_eq hserver
      refine ⟨?_, ?_, ?_⟩
      · rw [hconnect]
        exact hown
      · rw [hconnect]
        exact fun e he _ => he
      · rw [hconnect, eq_comm, List.countP_eq_zero]
        simpa using hown
    · exact switches_of_ne hserver

/-- **When connecting a server drops the entries of all others**: just if it is not the server connected last, or all that was
put in for others has been evicted. Otherwise nothing is dropped at all. -/
theorem switches_leaves_iff {ε : Type} (client : Client ε) (server : Identity) :
    (Switches server client.leaves ↔
        (client.history.current = some server → ∀ key ∈ client.history.liveKeys, key.server = server))
      ∧ (client.history.current = some server → client.leaves.connect server = (0, client.leaves)) := by
  have hagrees := client.agrees_leaves
  constructor
  · rw [switches_iff, hagrees.server, ← hagrees.toFinset_keys]
    simp only [List.mem_toFinset]
  · intro hcurrent
    exact connect_of_eq (hagrees.server.trans hcurrent)

/-- **The entries of others do not always go.** Properties of a newer server come in after the older one has been connected, and
they stay when the older one is connected again. -/
theorem not_switches_leaves :
    ¬ ∀ (client : Client Unit) (server : Identity), Switches server client.leaves := by
  let older : Identity := ⟨"http://localhost", "21.0.0", .horizon⟩
  let newer : Identity := ⟨"http://localhost", "23.0.0", .horizon⟩
  intro h
  have honly := (h (.connect older fun _ => .put ⟨.alarms, newer⟩ [] (.finish (.error ()))) older).only
  have hnewer : newer = older := honly (⟨.alarms, newer⟩, []) (by decide)
  exact absurd hnewer (by decide)

end MonitorQuery.Cache
