/-!
The events of a run.

An event has a level, a source, a message and fields. It is written in one line (`Event.line`).
-/

namespace MonitorQuery.Cli.Log

/-- How much an event matters. -/
inductive Level
  | error | warn | info | debug | trace
  deriving DecidableEq, Repr

namespace Level

/-- The place of a level, from the gravest on. -/
def rank : Level → Nat
  | error => 1
  | warn => 2
  | info => 3
  | debug => 4
  | trace => 5

/-- The name of a level. -/
def label : Level → String
  | error => "ERROR"
  | warn => "WARN"
  | info => "INFO"
  | debug => "DEBUG"
  | trace => "TRACE"

/-- Every level. -/
def all : List Level := [error, warn, info, debug, trace]

/-- The greatest rank. -/
def greatestRank : Nat := 5

theorem rank_le_greatestRank (l : Level) : l.rank ≤ greatestRank := by
  cases l <;> decide

end Level

/-- Where an event comes from. -/
inductive Source
  | versions | requests | commands
  deriving DecidableEq, Repr

/-- The name of a source in directives. -/
def Source.target : Source → String
  | versions => "onms::server"
  | requests => "onms::processor"
  | commands => "onmsq::commands"

/-- Something that happened. -/
structure Event where
  level : Level
  source : Source
  message : String
  fields : List (String × String) := []
  deriving DecidableEq, Repr

namespace Event

/-- The names of the fields of an event. The message counts as one of them. -/
def fieldNames (e : Event) : List String := "message" :: e.fields.map Prod.fst

/-- One event in one line: its level, its message and its fields. -/
def line (e : Event) : String :=
  String.ofList (List.replicate (5 - e.level.label.length) ' ') ++ e.level.label ++ " " ++ e.message ++
    String.join (e.fields.map fun f => " " ++ f.1 ++ "=" ++ f.2)

end Event

end MonitorQuery.Cli.Log
