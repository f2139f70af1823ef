import MonitorQuery.Property.Basic
import MonitorQuery.Server.Metadata

/-!
A cache of searchable properties.

An entry belongs to a resource of one server. The cache also records which server is connected; connecting
another drops the entries of every server but that one. `getOrFetch` looks a key up, and only where nothing is
there runs a fetch, which may use the cache itself, and puts in what it brings; a failed fetch puts in nothing. Lookup
and insertion are steps of their own (`get?`, `put`).
-/

namespace MonitorQuery

open MonitorQuery.Server

/-- The resources that have searchable properties. -/
inductive Resource
  | alarms | events | nodes | ipInterfaces | snmpInterfaces | outages
  deriving DecidableEq, Repr

namespace Resource

/-- Every resource. -/
def all : List Resource := [alarms, events, nodes, ipInterfaces, snmpInterfaces, outages]

/-- The name of a resource in addresses. -/
def label : Resource → String
  | alarms => "alarms"
  | events => "events"
  | nodes => "nodes"
  | ipInterfaces => "ipinterfaces"
  | snmpInterfaces => "snmpinterfaces"
  | outages => "outages"

/-- The resource with a name. -/
def ofLabel? (name : String) : Option Resource := all.find? fun r => r.label == name

/-- Where a server lists the properties of a resource, below its address. -/
def path (r : Resource) : String := "api/v2/" ++ r.label ++ "/properties"

end Resource

/-- What an entry of the cache belongs to. -/
structure CacheKey where
  resource : Resource
  server : Identity
  deriving DecidableEq, Repr

/-- The properties of some resources, and the server that is connected. Keys do not repeat. -/
structure Cache where
  entries : List (CacheKey × List Property) := []
  server : Option Identity := none

namespace Cache

/-- A cache with no entries and no server. -/
def empty : Cache := {}

/-- The properties under a key. -/
def get? (c : Cache) (key : CacheKey) : Option (List Property) := c.entries.lookup key

/-- Puts properties under a key, in place of any that are there. -/
def put (c : Cache) (key : CacheKey) (properties : List Property) : Cache :=
  { c with entries := (key, properties) :: c.entries.filter fun e => e.1 != key }

/-- Entries chosen by their keys keep what stands at those keys and lose all else. -/
theorem lookup_filter {α β : Type} [BEq α] [LawfulBEq α] (p : α → Bool) (key : α) (entries : List (α × β)) :
    (entries.filter fun e => p e.1).lookup key = if p key then entries.lookup key else none := by
  induction entries with
  | nil => simp
  | cons e entries ih =>
    obtain ⟨k, v⟩ := e
    by_cases hk : key = k
    · subst hk
      by_cases hp : p key
      · simp [hp]
      · simp [hp, ih]
    · by_cases hp : p k <;> simp [hp, List.lookup_cons, beq_false_of_ne hk, ih]

theorem get?_put (c : Cache) (key other : CacheKey) (properties : List Property) :
    (c.put key properties).get? other = if other = key then some properties else c.get? other := by
  by_cases h : other = key
  · subst h
    simp [get?, put]
  · simp only [get?, put, List.lookup_cons, beq_false_of_ne h, if_neg h]
    rw [lookup_filter (· != key)]
    simp [h]

/-- The number of entries. -/
def size (c : Cache) : Nat := c.entries.length

/-- There is no entry. -/
def isEmpty (c : Cache) : Bool := c.entries.isEmpty

/-- The cache with only the entries whose server has a property, and how many others there were. -/
def keep (p : Identity → Bool) (c : Cache) : Nat × Cache :=
  let kept := c.entries.filter fun e => p e.1.server
  (c.entries.length - kept.length, { c with entries := kept })

theorem get?_keep (p : Identity → Bool) (c : Cache) (key : CacheKey) :
    (c.keep p).2.get? key = if p key.server then c.get? key else none :=
  lookup_filter (fun k : CacheKey => p k.server) key c.entries

/-- Records the server that is connected. If it was not already, the entries of all others are dropped; their
number is returned. -/
def connect (server : Identity) (c : Cache) : Nat × Cache :=
  if c.server = some server then (0, c)
  else
    let (dropped, c) := c.keep (· == server)
    (dropped, { c with server := some server })

/-- Drops the entries of a server and returns their number. -/
def invalidate (server : Identity) (c : Cache) : Nat × Cache := c.keep (· != server)

/-- Drops every entry. The connected server stays. -/
def clear (c : Cache) : Cache := { c with entries := [] }

theorem get?_clear (c : Cache) (key : CacheKey) : c.clear.get? key = none := rfl

/-- The properties under a key, from the cache or else from a fetch, which may use the cache while it runs. What
a fetch brings is put in; a failure leaves the cache as the fetch left it. -/
def getOrFetch {m : Type → Type} {ε : Type} [Monad m] (key : CacheKey)
    (fetch : StateT Cache m (Except ε (List Property))) : StateT Cache m (Except ε (List Property)) := do
  match (← get).get? key with
  | some properties => return .ok properties
  | none =>
    match ← fetch with
    | .error e => return .error e
    | .ok properties =>
      modify fun c => c.put key properties
      return .ok properties

end Cache

end MonitorQuery
