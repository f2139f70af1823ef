import MonitorQuery.Text.Blank
import MonitorQuery.Text.Fold

/-!
Words with several spellings.

A word has a label, the spelling that is written, and further spellings that are understood.
A token stands for a word when, without the blanks around it, it agrees with one of the spellings up to the
case of ASCII letters. `Spelled.find` takes the first word of a list that a token stands for.
-/

namespace MonitorQuery.Query

/-- The spellings of a word. -/
class Spelled (α : Type) where
  /-- Every word, in the order in which a token is tried. -/
  all : List α
  /-- The number of a word. -/
  id : α → Nat
  /-- The spelling that is written. -/
  label : α → String
  /-- The other spellings that are understood. -/
  aliases : α → List String

namespace Spelled

variable {α : Type} [Spelled α]

/-- The token stands for the word. -/
def stands (token : String) (word : α) : Bool :=
  let trimmed := Text.trim token
  Text.sameFolded (label word) trimmed || (aliases word).any (Text.sameFolded · trimmed)

/-- The first word that the token stands for. -/
def find (token : String) : Option α := (all : List α).find? (stands token)

/-- Every word that the token stands for. -/
def standing (token : String) : List α := (all : List α).filter (stands token)

theorem find_eq_head?_standing (token : String) : (find token : Option α) = (standing token).head? := by
  simp [find, standing]

end Spelled

end MonitorQuery.Query
