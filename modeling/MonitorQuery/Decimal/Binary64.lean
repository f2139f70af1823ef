import MonitorQuery.Decimal.Integer

/-!
Binary floating-point numbers of 64 bits, as exact values.

A finite number is a sign and a magnitude `m · 2^q` with `m < 2^53` and `-1074 ≤ q ≤ 971`; it is in
normal form when `m` has 53 bits or `q` is the least exponent. `ofQuotient` rounds a quotient of natural
numbers to the nearest such value, a tie going to the even `m`, and overflows to infinity.
`ofDecimal` rounds `d · 10^e`. `ofText?` reads a decimal text: digits with at most one point among
them, an optional exponent, an optional sign, or a name of infinity or of NaN.
-/

namespace MonitorQuery.Decimal

/-- A binary floating-point number of 64 bits. -/
inductive Binary64
  | nan
  | infinite (negative : Bool)
  | finite (negative : Bool) (significand : Nat) (exponent : Int)
  deriving DecidableEq, Repr

namespace Binary64

/-- The least exponent of a finite number. -/
def leastExponent : Int := -1074

/-- The greatest exponent of a finite number. -/
def greatestExponent : Int := 971

/-- Zero, with a sign. -/
def zero (negative : Bool) : Binary64 := .finite negative 0 leastExponent

/-- The least significand of 53 bits, two to the power 52. -/
def leastNormal : Nat := 4503599627370496

/-- The quotient `num / (den · base ^ k)`, again as a pair of natural numbers. -/
def scaleDown (base num den : Nat) (k : Int) : Nat × Nat :=
  if 0 ≤ k then (num, den * Nat.pow base k.toNat) else (num * Nat.pow base (-k).toNat, den)

/-- The `k` with `2^k ≤ num / den < 2^(k+1)`, for a positive quotient. -/
def floorLog2 (num den : Nat) : Int :=
  let k : Int := (Nat.log2 num : Int) - (Nat.log2 den : Int)
  let (n, d) := scaleDown 2 num den k
  if d ≤ n then k else k - 1

/-- The natural number nearest to `num / den`, a tie going to the even one. -/
def roundHalfEven (num den : Nat) : Nat :=
  let floor := num / den
  let rest := num % den
  if den < 2 * rest || (den == 2 * rest && floor % 2 == 1) then floor + 1 else floor

/-- The number nearest to `num / den`. -/
def ofQuotient (negative : Bool) (num den : Nat) : Binary64 :=
  if num = 0 then zero negative
  else
    let q := max (floorLog2 num den - 52) leastExponent
    let (n, d) := scaleDown 2 num den q
    let m := roundHalfEven n d
    let (m, q) := if m = 2 * leastNormal then (leastNormal, q + 1) else (m, q)
    if greatestExponent < q then .infinite negative else .finite negative m q

/-- The number nearest to `d · 10^e`.

The two shortcuts keep the powers of ten in proportion to the text: from `10^310` on everything
overflows, and `d · 10^e < 2^(log2 d + 1 + 3e)` for negative `e`, which from `2^-1076` down rounds to zero. -/
def ofDecimal (negative : Bool) (d : Nat) (e : Int) : Binary64 :=
  if d = 0 then zero negative
  else if 310 ≤ e then .infinite negative
  else if e < 0 && decide ((Nat.log2 d : Int) + 1 + 3 * e ≤ -1076) then zero negative
  else
    let (num, den) := scaleDown 10 d 1 (-e)
    ofQuotient negative num den

/-- The digits of a decimal text, the places behind its point, and the exponent written behind it. -/
structure Numeral where
  digits : List Char
  places : Nat
  exponent : Int

/-- Reads the exponent of a numeral, `e` and an integer, or nothing. -/
def exponent? : List Char → Option Int
  | [] => some 0
  | c :: cs => if c == 'e' || c == 'E' then integer? cs else none

/-- Reads digits, a point among them or none, and an exponent or none. -/
def numeral? (cs : List Char) : Option Numeral :=
  let whole := cs.takeWhile Char.isDigit
  let rest := cs.dropWhile Char.isDigit
  let (fraction, rest) := match rest with
    | '.' :: rest => (rest.takeWhile Char.isDigit, rest.dropWhile Char.isDigit)
    | _ => ([], rest)
  if whole.isEmpty && fraction.isEmpty then none
  else (exponent? rest).map fun e => ⟨whole ++ fraction, fraction.length, e⟩

/-- The number nearest to a numeral. -/
def ofNumeral (negative : Bool) (n : Numeral) : Binary64 :=
  ofDecimal negative (ofDigits n.digits) (n.exponent - n.places)

/-- Reads an unsigned decimal text, or a name of infinity or NaN in any case. -/
def magnitude? (negative : Bool) (cs : List Char) : Option Binary64 :=
  let name := cs.map Char.toLower
  if name = ['n', 'a', 'n'] then some .nan
  else if name = ['i', 'n', 'f'] || name = ['i', 'n', 'f', 'i', 'n', 'i', 't', 'y'] then
    some (.infinite negative)
  else (numeral? cs).map (ofNumeral negative)

/-- Reads a decimal text with an optional sign. -/
def ofChars? : List Char → Option Binary64
  | '+' :: cs => magnitude? false cs
  | '-' :: cs => magnitude? true cs
  | cs => magnitude? false cs

/-- Reads a decimal text. -/
def ofText? (s : String) : Option Binary64 := ofChars? s.toList

end Binary64

end MonitorQuery.Decimal
