import MonitorQuery.Text.Hexadecimal
import MonitorQuery.Text.Rest

/-!
Characters written by their number, in base 16 and with a fixed number of digits.
-/

namespace MonitorQuery.Text

/-- Reads a character by its number of so many hexadecimal digits. -/
def numbered (width : Nat) (cs : List Char) : Option (Char × RestOrAll cs) :=
  let digits := cs.take width
  if digits.length < width then none
  else
    match Hexadecimal.number? 0 digits with
    | some n => if n.isValidChar then some (Char.ofNat n, ⟨cs.drop width, by simp⟩) else none
    | none => none

end MonitorQuery.Text
