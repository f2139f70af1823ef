import MonitorQuery.Property.Basic
import MonitorQuery.Request.Sorting

/-!
Filters as FIQL search expressions, for the second interface.

The grammar is

    expression  ::=  term ((";" | ",") term)*
    term        ::=  attribute sign value  |  "(" expression ")"

The operator of a clause is the sign before its term, so that of the first clause of a list shows nowhere. Only
values are encoded. A null is written as the character U+0000, or as the first instant of 1970 where the properties
say that the attribute is a timestamp.
-/

namespace MonitorQuery.Request.Fiql

open MonitorQuery.Query

/-- The placeholder of a null. -/
def nullValue : String := "\x00"

/-- The placeholder of a null timestamp. -/
def nullDate : String := "1970-01-01T00:00:00.000+0000"

/-- The parameter of the limit. -/
def limitKey : String := "limit"

/-- The parameter of the expression. -/
def searchKey : String := "_s"

/-- The sign of a comparator. -/
def signOf : Comparator → Except Rejection String
  | .eq | .null | .like => .ok "=="
  | .ne | .notNull => .ok "!="
  | .gt => .ok "=gt="
  | .lt => .ok "=lt="
  | .ge => .ok "=ge="
  | .le => .ok "=le="
  | .ilike => .error .ilike

/-- The null of an attribute. -/
def typedNull (properties : List Property) (attr : String) : String :=
  if (Property.find? properties attr).map (·.type) = some .timestamp then Text.Percent.encode nullDate
  else nullValue

/-- The text of the value of a restriction. A null check that has a value keeps it; elsewhere a missing value
and the word `null` ask for the null of the attribute. -/
def valueText (properties : List Property) (r : Restriction) : String :=
  match r.value with
  | none => if r.comparator.isNullCheck then nullValue else typedNull properties r.attr
  | some v =>
    if !r.comparator.isNullCheck && v.isNullWord then typedNull properties r.attr else v.encoded

/-- The term of a restriction. -/
def restrictionTerm (properties : List Property) (r : Restriction) : Except Rejection String := do
  checkAttr r
  let sign ← signOf r.comparator
  .ok (r.attr ++ sign ++ valueText properties r)

mutual

/-- The term of a clause. -/
def term (properties : List Property) : Clause → Except Rejection String
  | .restriction _ r => restrictionTerm properties r
  | .group _ [] => .error .emptyGroup
  | .group _ (c :: cs) => do
    let first ← term properties c
    let rest ← followers properties cs
    .ok ("(" ++ first ++ rest ++ ")")

/-- The terms of the clauses behind the first, each behind the sign of its operator. -/
def followers (properties : List Property) : List Clause → Except Rejection String
  | [] => .ok ""
  | c :: cs => do
    let first ← term properties c
    let rest ← followers properties cs
    .ok (String.singleton c.operator.sign ++ first ++ rest)

end

/-- The expression of a list of clauses, empty for an empty list. -/
def expression (properties : List Property) : List Clause → Except Rejection String
  | [] => .ok ""
  | c :: cs => do
    let first ← term properties c
    let rest ← followers properties cs
    .ok (first ++ rest)

/-- A filter as parameters with a search expression. No limit is the limit zero. -/
def compile (properties : List Property) (f : Filter) : Except Rejection Params := do
  let p := Params.empty.set limitKey (Decimal.renderNat (f.limit.getD 0))
  let search ← expression properties f.clauses
  let p := if search.isEmpty then p else p.set searchKey search
  addSortKeys p f.sortKeys

end MonitorQuery.Request.Fiql
