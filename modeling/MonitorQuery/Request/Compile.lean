import MonitorQuery.Request.Fiql
import MonitorQuery.Request.Flat
import MonitorQuery.Server.Api

/-!
Filters as the parameters of a request to either interface.
-/

namespace MonitorQuery.Request

open MonitorQuery.Query MonitorQuery.Server

/-- A filter as the parameters of a request. Only the second interface looks at the properties. -/
def compile (api : Api) (properties : List Property) (f : Filter) : Except Rejection Params :=
  match api with
  | .v1 => Flat.compile f
  | .v2 => Fiql.compile properties f

end MonitorQuery.Request
