import MonitorQuery.Calendar.Timestamp
import MonitorQuery.Decimal.Shortest
import MonitorQuery.Query.Severity
import MonitorQuery.Text.Percent

/-!
The values that restrictions compare with, and their texts.

A value has a text with enumerated values by label (`labelForm`) and one with them by number (`idForm`);
the two agree on every other value (`idForm_eq_labelForm`).
-/

namespace MonitorQuery.Query

open MonitorQuery.Decimal MonitorQuery.Calendar

/-- The right-hand side of a restriction. -/
inductive Value
  | text (s : String)
  | integer (n : Int)
  | float (x : Binary64)
  | truth (b : Bool)
  | enumerated (e : Enumerated)
  | date (t : Timestamp)
  deriving DecidableEq, Repr

namespace Value

/-- The text of a value, an enumerated one by its label. -/
def labelForm : Value → String
  | text s => s
  | integer n => renderInt n
  | float x => x.render
  | truth b => if b then "true" else "false"
  | enumerated e => e.label
  | date t => t.render

/-- The text of a value, an enumerated one by its number. -/
def idForm : Value → String
  | enumerated e => renderInt e.id
  | v => v.labelForm

theorem idForm_eq_labelForm {v : Value} (h : ∀ e, v ≠ enumerated e) : v.idForm = v.labelForm := by
  cases v with
  | enumerated e => exact absurd rfl (h e)
  | _ => rfl

/-- The text of a value by number, encoded as a URI component. -/
def encoded (v : Value) : String := Text.Percent.encode v.idForm

/-- The text with which a caller asks for a null of the attribute's own type. -/
def nullWord : String := "null"

/-- The value is the word that asks for a null. -/
def isNullWord : Value → Bool
  | text s => s == nullWord
  | _ => false

end Value

end MonitorQuery.Query
