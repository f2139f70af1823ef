import MonitorQuery.Query.Filter

/-!
Why a filter cannot be asked of an interface.

A rejection is of one of three kinds: something that the interface has no form for, settings that it can carry only
once, and restrictions that no interface takes.
-/

namespace MonitorQuery.Request

open MonitorQuery.Query

/-- Why a filter cannot be asked of an interface. -/
inductive Rejection
  /-- The flat interface has no groups. -/
  | nested
  /-- The flat interface has no AND; the attribute of the clause that it joins. -/
  | conjunction (attr : String)
  /-- A FIQL group holds a term. -/
  | emptyGroup
  /-- FIQL has no ILIKE. -/
  | ilike
  /-- A flat request has one comparator: the first, and the first that differs. -/
  | comparators (first other : Comparator)
  /-- A request has one sort direction: the first key, and the first that differs. -/
  | directions (first other : SortKey)
  /-- A restriction names an attribute; its comparator. -/
  | blankAttr (comparator : Comparator)
  deriving DecidableEq, Repr

namespace Rejection

/-- What sort of reason a rejection is. -/
inductive Kind
  | unsupported | inconsistent | invalid
  deriving DecidableEq, Repr

/-- The sort of reason. -/
def kind : Rejection → Kind
  | nested | conjunction _ | emptyGroup | ilike => .unsupported
  | comparators _ _ | directions _ _ => .inconsistent
  | blankAttr _ => .invalid

/-- The wording of a sort of reason. -/
def Kind.label : Kind → String
  | unsupported => "Unsupported"
  | inconsistent => "Inconsistent filter"
  | invalid => "Invalid restriction"

/-- A sort key with its direction. -/
def sortKeyText (k : SortKey) : String := k.attr ++ " " ++ k.order.label

/-- The wording of a reason without its sort. -/
def detail : Rejection → String
  | nested => "nested restrictions are not supported by the V1 API"
  | conjunction attr =>
    "the V1 API only supports OR between restrictions, found AND on '" ++ attr ++ "'"
  | emptyGroup => "empty nested restrictions cannot be expressed in FIQL"
  | ilike => "the ILIKE comparator is not supported by the V2 API"
  | comparators first other =>
    "the V1 API supports one comparator per request, found " ++ first.label ++ " and " ++ other.label
  | directions first other =>
    "mixed sort directions are not supported: " ++ sortKeyText first ++ " and " ++ sortKeyText other
  | blankAttr c => c.label ++ " restriction has an empty attribute name"

/-- The wording of a rejection. -/
def message (r : Rejection) : String := r.kind.label ++ ": " ++ r.detail

end Rejection

/-- Rejects a restriction whose attribute is blank. -/
def checkAttr (r : Restriction) : Except Rejection Unit :=
  if Text.isBlankText r.attr then .error (.blankAttr r.comparator) else .ok ()

end MonitorQuery.Request
