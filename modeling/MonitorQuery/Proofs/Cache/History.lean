import MonitorQuery.Proofs.Cache.Entries

/-!
What has happened to a cache, and what it holds for that.

A history is the list of the events, the latest first. Nothing of the cache is in it: what is live at a key, how many keys
are live and which server is connected are all read off the events.

* `History.live`: the properties that were put in last under a key, unless they have been evicted since.
* `History.live_eq_some_iff`: **properties are live if they were put in, and nothing was put in in their place and nothing
  evicted them since.**
* `Agrees`: a cache holds what is live.
* `Agrees.put`, `Agrees.evict`: the invariant of all the theory: **an event keeps the agreement**, and an eviction drops as
  many entries as keys.
-/

namespace MonitorQuery.Cache

open MonitorQuery.Server

/-- A change of a cache. -/
inductive Event
  | inserted (key : CacheKey) (properties : List Property)
  | connected (server : Identity)
  | invalidated (server : Identity)
  | cleared
  deriving DecidableEq, Repr

namespace Event

/-- The key under which an event puts something in. -/
def key? : Event → Option CacheKey
  | inserted key _ => some key
  | _ => none

/-- What an event puts in under a key. -/
def brings? (key : CacheKey) : Event → Option (List Property)
  | inserted k properties => if key = k then some properties else none
  | _ => none

lemma brings?_eq_some_iff {event : Event} {key : CacheKey} {properties : List Property} :
    event.brings? key = some properties ↔ event = inserted key properties := by
  cases event with
  | inserted k ps => simp [brings?, eq_comm]
  | _ => simp [brings?]

lemma brings?_eq_none_iff {event : Event} {key : CacheKey} : event.brings? key = none ↔ event.key? ≠ some key := by
  cases event with
  | inserted k ps => simp [brings?, key?, eq_comm]
  | _ => simp [brings?, key?]

end Event

/-- What has happened to a cache, the latest first. -/
abbrev History : Type := List Event

namespace History

/-- The server that was connected last. -/
def current : History → Option Identity
  | [] => none
  | .connected server :: _ => some server
  | _ :: h => current h

/-- After this history, an event takes away what stands at a key. Connecting a server does that to the keys of the others,
unless the server is connected already. -/
def evicts (h : History) (key : CacheKey) : Event → Bool
  | .inserted _ _ => false
  | .connected server => server != key.server && h.current != some server
  | .invalidated server => server == key.server
  | .cleared => true

/-- The properties that were put in last under a key, unless they have been evicted since. -/
def live : History → CacheKey → Option (List Property)
  | [], _ => none
  | event :: h, key => (event.brings? key).or (if evicts h key event then none else live h key)

/-- The keys at which something is live. -/
def liveKeys (h : History) : Finset CacheKey :=
  (h.filterMap Event.key?).toFinset.filter fun key => (h.live key).isSome

/-- The live keys that an event evicts. -/
def evicted (h : History) (event : Event) : Finset CacheKey := h.liveKeys.filter fun key => h.evicts key event

/-! ### What is live -/

lemma live_inserted (h : History) (key other : CacheKey) (properties : List Property) :
    live (.inserted key properties :: h) other = if other = key then some properties else h.live other := by
  by_cases hkey : other = key <;> simp [live, Event.brings?, evicts, hkey]

/-- An event that puts in nothing leaves what it does not evict. -/
lemma live_of_key?_eq_none {event : Event} (hevent : event.key? = none) (h : History) (key : CacheKey) :
    live (event :: h) key = if h.evicts key event then none else h.live key := by
  cases event with
  | inserted _ _ => cases hevent
  | _ => rfl

/-- What is live has been put in. -/
lemma mem_filterMap_key?_of_live {h : History} {key : CacheKey} (hlive : (h.live key).isSome) :
    key ∈ h.filterMap Event.key? := by
  induction h with
  | nil => cases hlive
  | cons event h ih =>
      rw [List.mem_filterMap]
      by_cases hkey : event.key? = some key
      · exact ⟨event, List.mem_cons_self, hkey⟩
      · rw [live, Event.brings?_eq_none_iff.mpr hkey, Option.none_or] at hlive
        split_ifs at hlive
        · cases hlive
        · obtain ⟨e, he, hekey⟩ := List.mem_filterMap.mp (ih hlive)
          exact ⟨e, List.mem_cons_of_mem _ he, hekey⟩

lemma mem_liveKeys {h : History} {key : CacheKey} : key ∈ h.liveKeys ↔ (h.live key).isSome := by
  rw [liveKeys, Finset.mem_filter, List.mem_toFinset, and_iff_right_of_imp mem_filterMap_key?_of_live]

/-- Properties that are live after an event were put in by it, or were live before it and are neither replaced nor evicted. -/
lemma live_cons_eq_some_iff {event : Event} {h : History} {key : CacheKey} {properties : List Property} :
    live (event :: h) key = some properties ↔
      event = .inserted key properties
        ∨ event.key? ≠ some key ∧ h.evicts key event = false ∧ h.live key = some properties := by
  cases hbrings : event.brings? key with
  | some brought =>
      obtain rfl := Event.brings?_eq_some_iff.mp hbrings
      simp [live_inserted, Event.key?]
  | none =>
      have hkey := Event.brings?_eq_none_iff.mp hbrings
      have hne : event ≠ .inserted key properties := fun heq => hkey (by rw [heq, Event.key?])
      rw [live, hbrings, Option.none_or]
      simp [hkey, hne]

/-- **What is live**: properties that were put in, such that no event since then has put in others in their place or
evicted them. -/
theorem live_eq_some_iff {h : History} {key : CacheKey} {properties : List Property} :
    h.live key = some properties ↔
      ∃ later earlier, h = later ++ .inserted key properties :: earlier
        ∧ ∀ since event before, later = since ++ event :: before →
          event.key? ≠ some key ∧ evicts (before ++ .inserted key properties :: earlier) key event = false := by
  constructor
  · intro hlive
    induction h with
    | nil => cases hlive
    | cons event h ih =>
        obtain rfl | ⟨hkey, hkept, hlive⟩ := live_cons_eq_some_iff.mp hlive
        · exact ⟨[], h, rfl, fun since event before hsince => by simp at hsince⟩
        · obtain ⟨later, earlier, rfl, hlater⟩ := ih hlive
          refine ⟨event :: later, earlier, rfl, fun since e before hsince => ?_⟩
          cases since with
          | nil =>
              cases hsince
              exact ⟨hkey, hkept⟩
          | cons e' since =>
              cases hsince
              exact hlater since e before rfl
  · rintro ⟨later, earlier, rfl, hlater⟩
    induction later with
    | nil => rw [List.nil_append, live_inserted, if_pos rfl]
    | cons event later ih =>
        obtain ⟨hkey, hkept⟩ := hlater [] event later rfl
        have hlive := ih fun since e before hsince => hlater (event :: since) e before (by rw [hsince, List.cons_append])
        exact live_cons_eq_some_iff.mpr (.inr ⟨hkey, hkept, hlive⟩)

end History

/-! ### Caches with a history -/

/-- **A cache holds what is live.** -/
structure Agrees (c : Cache) (h : History) : Prop where
  get? : ∀ key, c.get? key = h.live key
  server : c.server = h.current
  nodup : c.keys.Nodup

namespace Agrees

variable {c c' : Cache} {h : History}

lemma empty : Agrees Cache.empty [] := ⟨fun _ => rfl, rfl, List.nodup_nil⟩

lemma toFinset_keys (hc : Agrees c h) : c.keys.toFinset = h.liveKeys := by
  ext key
  rw [List.mem_toFinset, mem_keys_iff, hc.get?, History.mem_liveKeys]

/-- The entries are counted by the live keys. -/
lemma size_eq (hc : Agrees c h) : c.size = h.liveKeys.card := by
  rw [← hc.toFinset_keys, List.toFinset_card_of_nodup hc.nodup, length_keys]

lemma put (hc : Agrees c h) (key : CacheKey) (properties : List Property) :
    Agrees (c.put key properties) (.inserted key properties :: h) where
  get? other := by rw [get?_put, History.live_inserted, hc.get?]
  server := hc.server
  nodup := nodup_keys_put hc.nodup key properties

/-- **An eviction.** If just the entries are kept whose keys the event does not evict, the cache holds what is live after
the event, and as many entries are gone as live keys were evicted. -/
lemma evict (hc : Agrees c h) {event : Event} (hevent : event.key? = none)
    (hentries : c'.entries = c.entries.filter fun e => !h.evicts e.1 event)
    (hserver : c'.server = History.current (event :: h)) :
    Agrees c' (event :: h) ∧ c'.size + (h.evicted event).card = c.size := by
  have hkeys : c'.keys = c.keys.filter fun key => !h.evicts key event := by
    rw [keys, hentries, keys, List.filter_map]
    rfl
  refine ⟨⟨fun key => ?_, hserver, ?_⟩, ?_⟩
  · rw [Cache.get?, hentries, lookup_filter (fun key => !h.evicts key event), History.live_of_key?_eq_none hevent,
      ← hc.get?, Cache.get?]
    cases h.evicts key event <;> rfl
  · rw [hkeys]
    exact hc.nodup.filter _
  · have hevicted : (h.evicted event).card = (c.keys.filter fun key => h.evicts key event).length := by
      rw [History.evicted, ← hc.toFinset_keys, ← List.toFinset_filter,
        List.toFinset_card_of_nodup (hc.nodup.filter _)]
    have hsplit := List.length_eq_length_filter_add (l := c.keys) fun key => h.evicts key event
    rw [← length_keys, ← length_keys, hkeys]
    omega

lemma connect (hc : Agrees c h) (server : Identity) :
    Agrees (c.connect server).2 (.connected server :: h)
      ∧ (c.connect server).1 = (h.evicted (.connected server)).card := by
  by_cases hserver : c.server = some server
  · -- the server is connected already, and no key is evicted
    have hkept : ∀ key, h.evicts key (.connected server) = false := fun key => by
      simp [History.evicts, ← hc.server, hserver]
    have hentries : c.entries = c.entries.filter fun e => !h.evicts e.1 (.connected server) := by
      simp [hkept]
    obtain ⟨hagrees, hsize⟩ : Agrees c (.connected server :: h) ∧ _ := hc.evict rfl hentries hserver
    rw [connect_of_eq hserver]
    exact ⟨hagrees, by omega⟩
  · have hevicts : ∀ key : CacheKey, (key.server == server) = !h.evicts key (.connected server) := fun key => by
      simp [History.evicts, ← hc.server, hserver, bne, BEq.comm (a := server)]
    have hentries : (c.connect server).2.entries
        = c.entries.filter fun e => !h.evicts e.1 (.connected server) := by
      rw [connect_of_ne hserver]
      simp only [keep, hevicts]
    have hcurrent : (c.connect server).2.server = some server := by rw [connect_of_ne hserver]
    have hcount : (c.connect server).1 = c.size - (c.connect server).2.size := by
      rw [connect_of_ne hserver]
      rfl
    obtain ⟨hagrees, hsize⟩ : Agrees _ (.connected server :: h) ∧ _ := hc.evict rfl hentries hcurrent
    exact ⟨hagrees, by omega⟩

lemma invalidate (hc : Agrees c h) (server : Identity) :
    Agrees (c.invalidate server).2 (.invalidated server :: h)
      ∧ (c.invalidate server).1 = (h.evicted (.invalidated server)).card := by
  have hentries : (c.invalidate server).2.entries
      = c.entries.filter fun e => !h.evicts e.1 (.invalidated server) := by
    simp [Cache.invalidate, keep, History.evicts, bne, BEq.comm (a := server)]
  have hcount : (c.invalidate server).1 = c.size - (c.invalidate server).2.size := rfl
  obtain ⟨hagrees, hsize⟩ : Agrees _ (.invalidated server :: h) ∧ _ := hc.evict rfl hentries hc.server
  exact ⟨hagrees, by omega⟩

lemma clear (hc : Agrees c h) : Agrees c.clear (.cleared :: h) := by
  have hentries : c.clear.entries = c.entries.filter fun e => !h.evicts e.1 .cleared := by
    simp [Cache.clear, History.evicts]
  exact (hc.evict rfl hentries hc.server).1

end Agrees

end MonitorQuery.Cache
