import MonitorQuery.Request.Params
import MonitorQuery.Request.Rejection

/-!
The sort keys of a request.

Both interfaces take one direction for all keys, in `order`, and the attributes one after the other in
`orderBy`.
-/

namespace MonitorQuery.Request

open MonitorQuery.Query

/-- The parameter of the direction. -/
def orderKey : String := "order"

/-- The parameter of the attributes to sort by. -/
def orderByKey : String := "orderBy"

/-- Adds the sort keys of a filter to its parameters. -/
def addSortKeys (p : Params) (keys : List SortKey) : Except Rejection Params :=
  match keys with
  | [] => .ok p
  | first :: rest =>
    match rest.find? fun k => k.order != first.order with
    | some other => .error (.directions first other)
    | none => .ok (keys.foldl (fun p k => p.append orderByKey k.attr) (p.set orderKey first.order.label))

end MonitorQuery.Request
