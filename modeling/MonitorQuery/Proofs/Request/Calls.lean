import MonitorQuery.Proofs.Computation
import MonitorQuery.Request.Sorting

/-!
The calls that write a request.

Parameters come about by calls that give a key one value or add a value to those of a key. What stands at a key in the end can be
told from the calls alone, without the parameters.

* `Params.Call.leave`: the values at a key after a call, from those before it.
* `Params.getAll_foldl_perform`: **the values at a key are what the calls leave there.**
* `sortCalls`, `of_addSortKeys`: the calls for the sort keys of a filter.
* `leave_sortCalls_order`, `leave_sortCalls_orderBy`, `leave_sortCalls_of_ne`: the direction takes the place of all that stood
  at its key, the attributes stand behind it, and nothing else changes.
-/

namespace MonitorQuery.Request

open MonitorQuery.Query

namespace Params

/-- A call that names a key. -/
inductive Call
  | set (key text : String)
  | append (key text : String)
  deriving DecidableEq, Repr

/-- The parameters after a call. -/
def perform (p : Params) : Call → Params
  | .set key text => p.set key text
  | .append key text => p.append key text

/-- The values at a key after a call, where `values` stood before it. -/
def Call.leave (key : String) (values : List String) : Call → List String
  | .set k text => if k = key then [text] else values
  | .append k text => if k = key then values ++ [text] else values

lemma getAll_perform (p : Params) (call : Call) (key : String) :
    (p.perform call).getAll key = call.leave key (p.getAll key) := by
  cases call with
  | set k text =>
      by_cases h : k = key
      · subst h
        rw [perform, getAll_set, Call.leave, if_pos rfl]
      · rw [perform, getAll, get?_set, if_neg (Ne.symm h), Call.leave, if_neg h, getAll]
  | append k text =>
      by_cases h : k = key
      · subst h
        rw [perform, getAll_append, Call.leave, if_pos rfl]
      · rw [perform, getAll, get?_append, if_neg (Ne.symm h), Call.leave, if_neg h, getAll]

/-- **The values at a key are what the calls leave there.** -/
theorem getAll_foldl_perform (p : Params) (calls : List Call) (key : String) :
    (calls.foldl perform p).getAll key = calls.foldl (Call.leave key) (p.getAll key) :=
  (List.foldl_hom (fun q : Params => q.getAll key) fun q call => (getAll_perform q call key).symm).symm

/-- Calls that add a value, one for each of a list, leave at a key the values that were added there behind those that
stood there. -/
lemma foldl_leave_map_append {α : Type} (key : String) (keyOf textOf : α → String) (values : List String) (as : List α) :
    (as.map fun a => Call.append (keyOf a) (textOf a)).foldl (Call.leave key) values
      = values ++ (as.filter fun a => keyOf a = key).map textOf := by
  induction as generalizing values with
  | nil => simp
  | cons a as ih =>
      rw [List.map_cons, List.foldl_cons, ih]
      by_cases h : keyOf a = key <;> simp [Call.leave, h]

end Params

/-! ### Sort keys -/

/-- The calls for sort keys: the direction of the first, then the attributes one after the other. -/
def sortCalls : List SortKey → List Params.Call
  | [] => []
  | first :: rest =>
    .set orderKey first.order.label :: (first :: rest).map fun k => .append orderByKey k.attr

lemma of_addSortKeys {p q : Params} {keys : List SortKey} (h : addSortKeys p keys = .ok q) :
    q = (sortCalls keys).foldl Params.perform p := by
  cases keys with
  | nil => exact (Except.ok.inj h).symm
  | cons first rest =>
      simp only [addSortKeys] at h
      split at h
      · cases h
      · rw [sortCalls, List.foldl_cons, List.foldl_map]
        exact (Except.ok.inj h).symm

/-- What sort keys leave at a key: the direction replaces, and the attributes are added behind. -/
lemma leave_sortCalls_cons (key : String) (values : List String) (first : SortKey) (rest : List SortKey) :
    (sortCalls (first :: rest)).foldl (Params.Call.leave key) values
      = (if orderKey = key then [first.order.label] else values)
        ++ if orderByKey = key then (first :: rest).map (·.attr) else [] := by
  rw [sortCalls, List.foldl_cons, Params.foldl_leave_map_append key fun _ => orderByKey]
  by_cases h : orderByKey = key <;> simp [Params.Call.leave, h]

/-- The direction takes the place of all that stood at its key. -/
lemma leave_sortCalls_order (values : List String) (keys : List SortKey) :
    (sortCalls keys).foldl (Params.Call.leave orderKey) values
      = (keys.head?.map fun k => [k.order.label]).getD values := by
  cases keys with
  | nil => rfl
  | cons first rest =>
      rw [leave_sortCalls_cons, if_pos rfl, if_neg (by decide), List.append_nil]
      rfl

/-- The attributes of the sort keys stand behind all that stood at their key. -/
lemma leave_sortCalls_orderBy (values : List String) (keys : List SortKey) :
    (sortCalls keys).foldl (Params.Call.leave orderByKey) values = values ++ keys.map (·.attr) := by
  cases keys with
  | nil => exact (List.append_nil values).symm
  | cons first rest => rw [leave_sortCalls_cons, if_neg (by decide), if_pos rfl]

lemma leave_sortCalls_of_ne {key : String} (horder : key ≠ orderKey) (horderBy : key ≠ orderByKey) (values : List String)
    (keys : List SortKey) : (sortCalls keys).foldl (Params.Call.leave key) values = values := by
  cases keys with
  | nil => rfl
  | cons first rest => rw [leave_sortCalls_cons, if_neg horder.symm, if_neg horderBy.symm, List.append_nil]

end MonitorQuery.Request
