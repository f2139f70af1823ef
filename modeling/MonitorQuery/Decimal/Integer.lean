/-!
Decimal integers, read and written.

Reading takes ASCII digits only. `natural?` wants one or more digits and allows zeros in front;
`integer?` allows a sign besides. `renderNat` and `renderInt` write the canonical form, which
`natural?_toDigits` reads back. Bounds on the value are a matter of the caller: `Bounds` names those
of the fixed widths that the formats of this library know.
-/

namespace MonitorQuery.Decimal

/-- The value of a run of digits. -/
def ofDigits (cs : List Char) : Nat := Nat.ofDigitChars 10 cs 0

/-- One or more digits and nothing else. -/
def isNumeral (cs : List Char) : Bool := !cs.isEmpty && cs.all Char.isDigit

/-- Reads one or more digits. -/
def natural? (cs : List Char) : Option Nat := if isNumeral cs then some (ofDigits cs) else none

/-- Reads digits with an optional sign in front. -/
def integer? : List Char → Option Int
  | '+' :: cs => (natural? cs).map Int.ofNat
  | '-' :: cs => (natural? cs).map fun n => -Int.ofNat n
  | cs => (natural? cs).map Int.ofNat

/-- Inclusive bounds on an integer. -/
structure Bounds where
  lowest : Int
  highest : Int

namespace Bounds

/-- The signed integers of 32 bits. -/
def signed32 : Bounds := ⟨-2147483648, 2147483647⟩

/-- The signed integers of 64 bits. -/
def signed64 : Bounds := ⟨-9223372036854775808, 9223372036854775807⟩

/-- The unsigned integers of 32 bits. -/
def unsigned32 : Bounds := ⟨0, 4294967295⟩

/-- The unsigned integers of 64 bits. -/
def unsigned64 : Bounds := ⟨0, 18446744073709551615⟩

/-- An integer between the two bounds. -/
def contains (b : Bounds) (n : Int) : Bool := decide (b.lowest ≤ n) && decide (n ≤ b.highest)

/-- The integer itself when it lies between the bounds. -/
def only (b : Bounds) (n : Int) : Option Int := if b.contains n then some n else none

end Bounds

/-- Reads a signed integer between bounds. -/
def integerIn? (b : Bounds) (cs : List Char) : Option Int := (integer? cs).bind b.only

/-- The canonical digits of a natural number. -/
def renderNat (n : Nat) : String := String.ofList (Nat.toDigits 10 n)

/-- The canonical digits of an integer, with a minus sign if it is negative. -/
def renderInt : Int → String
  | .ofNat n => renderNat n
  | .negSucc n => "-" ++ renderNat (n + 1)

theorem isNumeral_toDigits (n : Nat) : isNumeral (Nat.toDigits 10 n) = true := by
  have h : ∀ c ∈ Nat.toDigits 10 n, c.isDigit = true :=
    fun c hc => Nat.isDigit_of_mem_toDigits (by decide) (by decide) hc
  simpa [isNumeral, Nat.toDigits_ne_nil] using h

/-- The canonical digits read back as the number they were written for. -/
theorem natural?_toDigits (n : Nat) : natural? (Nat.toDigits 10 n) = some n := by
  simp [natural?, isNumeral_toDigits, ofDigits, Nat.ofDigitChars_toDigits]

/-- A number in decimal with zeros in front of it up to a width. -/
def padded (width n : Nat) : List Char :=
  let digits := Nat.toDigits 10 n
  List.replicate (width - digits.length) '0' ++ digits

end MonitorQuery.Decimal
