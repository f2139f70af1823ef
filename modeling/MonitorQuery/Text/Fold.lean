/-!
Comparison of texts that looks past the case of ASCII letters.

Only the letters `A` to `Z` are folded: a letter outside ASCII equals itself alone.
-/

namespace MonitorQuery.Text

/-- A text with its ASCII letters in lower case. -/
def fold (s : String) : String := String.ofList (s.toList.map Char.toLower)

/-- Texts that agree once their ASCII letters are in lower case. -/
def sameFolded (s t : String) : Bool := s.toList.map Char.toLower == t.toList.map Char.toLower

@[simp] theorem toList_fold (s : String) : (fold s).toList = s.toList.map Char.toLower := by
  simp [fold]

theorem sameFolded_iff (s t : String) : sameFolded s t = true ↔ fold s = fold t := by
  simp [sameFolded, fold, String.ofList_inj]

end MonitorQuery.Text
