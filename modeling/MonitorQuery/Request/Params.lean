import MonitorQuery.Json.Writer

/-!
The parameters of a request.

Keys stand in the order in which they were first named, each with one value or several. `set` gives a key one
value and keeps its place; `append` adds a value behind those that are there. `pairs` writes every value
with its key, and `toJson` an object in which a key with several values has an array.
-/

namespace MonitorQuery.Request

/-- One value or more. -/
structure Values where
  first : String
  more : List String := []
  deriving DecidableEq, Repr

namespace Values

/-- All the values in order. -/
def toList (v : Values) : List String := v.first :: v.more

/-- The value when there is just one. -/
def single? (v : Values) : Option String := if v.more.isEmpty then some v.first else none

/-- One value more, behind the others. -/
def push (v : Values) (text : String) : Values := { v with more := v.more ++ [text] }

/-- A text for one value, an array for several. -/
def toJson (v : Values) : Json.Value :=
  match v.single? with
  | some text => .string text
  | none => .array (v.toList.map .string)

theorem toList_push (v : Values) (text : String) : (v.push text).toList = v.toList ++ [text] := rfl

end Values

/-- Parameters in the order in which their keys were first named. -/
structure Params where
  entries : List (String × Values) := []
  deriving DecidableEq, Repr

namespace Params

/-- No parameters. -/
def empty : Params := {}

/-- Changes what stands at a key by a function, or puts a first value there behind all else. -/
def update (change : Values → Values) (key text : String) : List (String × Values) → List (String × Values)
  | [] => [(key, ⟨text, []⟩)]
  | (k, v) :: entries =>
    if k = key then (k, change v) :: entries else (k, v) :: update change key text entries

/-- Gives a key one value, whatever it had. -/
def set (p : Params) (key text : String) : Params :=
  ⟨update (fun _ => ⟨text, []⟩) key text p.entries⟩

/-- Adds a value to those of a key. -/
def append (p : Params) (key text : String) : Params :=
  ⟨update (·.push text) key text p.entries⟩

/-- What stands at a key. -/
def get? (p : Params) (key : String) : Option Values := p.entries.lookup key

/-- An update shows at its own key and nowhere else. -/
theorem lookup_update (change : Values → Values) (key text other : String) (entries : List (String × Values)) :
    (update change key text entries).lookup other =
      if other = key then some (((entries.lookup key).map change).getD ⟨text, []⟩) else entries.lookup other := by
  induction entries with
  | nil =>
    by_cases h : other = key
    · simp [update, h]
    · simp [update, List.lookup_cons, beq_false_of_ne h, h]
  | cons e entries ih =>
    obtain ⟨k, v⟩ := e
    by_cases hk : k = key
    · subst hk
      by_cases h : other = k
      · subst h
        simp [update]
      · simp [update, List.lookup_cons, beq_false_of_ne h, h]
    · simp only [update, if_neg hk, List.lookup_cons]
      by_cases h : other = k
      · subst h
        simp [hk]
      · rw [beq_false_of_ne h, beq_false_of_ne (Ne.symm hk)]
        exact ih

theorem get?_set (p : Params) (key text other : String) :
    (p.set key text).get? other = if other = key then some ⟨text, []⟩ else p.get? other := by
  rw [get?, set, lookup_update]
  cases p.entries.lookup key <;> rfl

theorem get?_append (p : Params) (key text other : String) :
    (p.append key text).get? other =
      if other = key then some (((p.get? key).map (·.push text)).getD ⟨text, []⟩) else p.get? other :=
  lookup_update _ _ _ _ _

/-- The value at a key that has just one. -/
def single? (p : Params) (key : String) : Option String := (p.get? key).bind Values.single?

/-- The values at a key. -/
def getAll (p : Params) (key : String) : List String := ((p.get? key).map Values.toList).getD []

theorem getAll_set (p : Params) (key text : String) : (p.set key text).getAll key = [text] := by
  simp [getAll, get?_set, Values.toList]

theorem getAll_append (p : Params) (key text : String) :
    (p.append key text).getAll key = p.getAll key ++ [text] := by
  simp only [getAll, get?_append, if_pos]
  cases p.get? key <;> rfl

/-- The key has been named. -/
def contains (p : Params) (key : String) : Bool := (p.get? key).isSome

/-- The keys in order. -/
def keys (p : Params) : List String := p.entries.map (·.1)

/-- How many keys there are. -/
def size (p : Params) : Nat := p.entries.length

/-- There is no key. -/
def isEmpty (p : Params) : Bool := p.entries.isEmpty

/-- Every value with its key, in order. -/
def pairs (p : Params) : List (String × String) :=
  p.entries.flatMap fun (key, values) => values.toList.map fun text => (key, text)

/-- The parameters as an object. -/
def toJson (p : Params) : Json.Value := .object (p.entries.map fun (key, values) => (key, values.toJson))

end Params

end MonitorQuery.Request
