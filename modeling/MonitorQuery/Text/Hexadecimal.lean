/-!
Hexadecimal digits, read in either case and written in the one that a format prescribes.
-/

namespace MonitorQuery.Text.Hexadecimal

/-- The upper-case digit of a number below sixteen. -/
def upper (n : Nat) : Char := Char.ofNat (if n < 10 then 48 + n else 55 + n)

/-- The lower-case digit of a number below sixteen. -/
def lower (n : Nat) : Char := Char.ofNat (if n < 10 then 48 + n else 87 + n)

/-- The value of a digit. -/
def value? (c : Char) : Option Nat :=
  if c.isDigit then some (c.toNat - 48)
  else if 'a' ≤ c && c ≤ 'f' then some (c.toNat - 87)
  else if 'A' ≤ c && c ≤ 'F' then some (c.toNat - 55)
  else none

/-- A hexadecimal digit. -/
def isDigit (c : Char) : Bool := (value? c).isSome

/-- Reads digits into a number, behind the value of those before them. -/
def number? (n : Nat) : List Char → Option Nat
  | [] => some n
  | c :: cs => (value? c).bind fun d => number? (16 * n + d) cs

theorem value?_upper {n : Nat} (h : n < 16) : value? (upper n) = some n := by
  have all : ∀ i : Fin 16, value? (upper i.1) = some i.1 := by decide
  exact all ⟨n, h⟩

theorem value?_lower {n : Nat} (h : n < 16) : value? (lower n) = some n := by
  have all : ∀ i : Fin 16, value? (lower i.1) = some i.1 := by decide
  exact all ⟨n, h⟩

end MonitorQuery.Text.Hexadecimal
