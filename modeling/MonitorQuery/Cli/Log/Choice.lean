import MonitorQuery.Cli.Log.Directive

/-!
The choice of the events that are shown.

A choice is a list of directives with commas between them. An event is shown if its level is within that of the most
particular directive that speaks of it, the last of equals. If none speaks of it, it is not shown; but if there is no
directive at all, errors are. What is no directive is reported and passed over.
-/

namespace MonitorQuery.Cli.Log

/-- A choice of events. -/
structure Choice where
  directives : List Directive
  complaints : List String
  deriving DecidableEq, Repr

namespace Choice

/-- Adds what a part of a text says. -/
def add (choice : Choice) (part : String) : Choice :=
  match Directive.ofText part with
  | .ok d => { choice with directives := choice.directives ++ [d] }
  | .error fault =>
    { choice with complaints := choice.complaints ++ ["ignoring `" ++ part ++ "`: " ++ fault.message] }

/-- The choice that a text describes. -/
def ofText (s : String) : Choice :=
  let parts := (s.toList.splitOn ',').filter fun part => !part.isEmpty
  parts.foldl (fun choice part => choice.add (String.ofList part)) ⟨[], []⟩

/-- The more particular of a directive and those behind it, the last of equals. -/
def best? : List Directive → Option Directive
  | [] => none
  | d :: ds =>
    match best? ds with
    | none => some d
    | some e => if d.exceeds e then some d else some e

/-- The rank up to which events like this one are shown. -/
def threshold (choice : Choice) (e : Event) : Nat :=
  if choice.directives.isEmpty then Level.error.rank
  else ((best? (choice.directives.filter (·.concerns e))).map (·.threshold)).getD 0

/-- The event is shown. -/
def shows (choice : Choice) (e : Event) : Bool := e.level.rank ≤ choice.threshold e

theorem best?_eq_none_iff {ds : List Directive} : best? ds = none ↔ ds = [] := by
  cases ds with
  | nil => simp [best?]
  | cons d ds =>
    simp only [best?]
    split
    · simp
    · split <;> simp

/-- The best directive is one of those given. -/
theorem mem_of_best? {ds : List Directive} {d : Directive} (h : best? ds = some d) : d ∈ ds := by
  induction ds with
  | nil => simp [best?] at h
  | cons e ds ih =>
    simp only [best?] at h
    split at h
    · simp_all
    · split at h <;> simp_all

end Choice

/-- The choice when nobody made one. -/
def usualChoice : String := "warn"

end MonitorQuery.Cli.Log
