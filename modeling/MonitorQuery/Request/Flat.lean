import MonitorQuery.Request.Sorting

/-!
Filters as flat parameters, for the first interface.

Every restriction becomes a parameter named for its attribute, and one parameter holds the comparator of all of
them, so a filter must be a flat list of alternatives that share a comparator. Null checks are written as the
words `null` and `notnull` in place of a value and have no part in the comparator.
-/

namespace MonitorQuery.Request.Flat

open MonitorQuery.Query

/-- The parameter of the limit. -/
def limitKey : String := "limit"

/-- The parameter of the comparator. -/
def comparatorKey : String := "comparator"

/-- The word for an attribute that has a value. -/
def notNullWord : String := "notnull"

/-- The text sent for a restriction. -/
def textOf (r : Restriction) : String :=
  match r.comparator with
  | .null => Value.nullWord
  | .notNull => notNullWord
  | _ => (r.value.map Value.labelForm).getD Value.nullWord

/-- The parameters of the clauses so far, and the comparator that they share once there is one. -/
structure Progress where
  params : Params
  shared : Option Comparator

namespace Progress

/-- The comparator of one more restriction, set in the request when it is the first. -/
def share (p : Progress) (c : Comparator) : Except Rejection Progress :=
  if c.isNullCheck then .ok p
  else
    match p.shared with
    | none => .ok ⟨p.params.set comparatorKey (Text.fold c.label), some c⟩
    | some first => if first = c then .ok p else .error (.comparators first c)

/-- One more clause. -/
def add (p : Progress) : Clause → Except Rejection Progress
  | .group _ _ => .error .nested
  | .restriction .and r => .error (.conjunction r.attr)
  | .restriction .or r => do
    checkAttr r
    let p ← p.share r.comparator
    .ok { p with params := p.params.append r.attr (textOf r) }

end Progress

/-- The parameters before the first clause. -/
def start (limit : Option Nat) : Progress :=
  ⟨match limit with
    | some n => Params.empty.set limitKey (Decimal.renderNat n)
    | none => Params.empty, none⟩

/-- A filter as flat parameters. -/
def compile (f : Filter) : Except Rejection Params := do
  let p ← f.clauses.foldlM Progress.add (start f.limit)
  addSortKeys p.params f.sortKeys

end MonitorQuery.Request.Flat
