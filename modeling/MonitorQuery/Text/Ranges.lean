/-!
Classes of characters as lists of ranges.

A class of a standard is carried as the ranges of code points that it covers, both ends included.
-/

namespace MonitorQuery.Text

/-- Ranges of code points, both ends included. -/
abbrev Ranges := List (Nat × Nat)

namespace Ranges

/-- The character lies in one of the ranges. -/
def covers (rs : Ranges) (c : Char) : Bool := rs.any fun r => r.1 ≤ c.toNat && c.toNat ≤ r.2

theorem covers_append (rs ss : Ranges) (c : Char) : (rs ++ ss).covers c = (rs.covers c || ss.covers c) := by
  simp [covers]

/-- Covered is what lies between the ends of one of the ranges. -/
theorem covers_iff (rs : Ranges) (c : Char) :
    rs.covers c = true ↔ ∃ r ∈ rs, r.1 ≤ c.toNat ∧ c.toNat ≤ r.2 := by
  simp [covers]

end Ranges

end MonitorQuery.Text
