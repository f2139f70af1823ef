import MonitorQuery.Decimal.Binary64

/-!
The shortest decimal text of a binary floating-point number.

`Binary64.interval` is the interval of reals that round to a finite number, its ends included exactly when the
significand is even. On the grid of the multiples of `10^k` the two points around the number are
tried for `k` from the leading digit downwards; the first grid with a point in the interval gives the
digits, of two points in it the nearer, and of two equally near the greater. Seventeen digits always
suffice. The text is positional throughout: no exponent, no point without a digit behind it.
-/

namespace MonitorQuery.Decimal.Binary64

/-- The reals that round to a positive number, as quotients with one denominator: the number, the ends
around it, and whether the ends belong. -/
structure Interval where
  low : Nat
  value : Nat
  high : Nat
  den : Nat
  closed : Bool

/-- The interval of the number `m · 2^q`. Below a power of two the lower neighbour is half as far. -/
def interval (m : Nat) (q : Int) : Interval :=
  let gap := if m = leastNormal ∧ leastExponent < q then 1 else 2
  let (unit, den) := scaleDown 2 1 1 (2 - q)
  ⟨(4 * m - gap) * unit, 4 * m * unit, (4 * m + 2) * unit, den, m % 2 == 0⟩

/-- A decimal `digits · 10^exponent`. -/
structure DecimalForm where
  digits : Nat
  exponent : Int

namespace Interval

/-- The power of ten of the leading digit of the number. -/
def leadingPlace (i : Interval) : Int :=
  if i.den ≤ i.value then ((Nat.toDigits 10 (i.value / i.den)).length : Int) - 1
  else
    let inverse := (i.den + i.value - 1) / i.value
    0 - ((Nat.toDigits 10 (inverse - 1)).length : Int)

/-- The point of the grid of multiples of `10^k` that stands for the number, if one lies in the interval. -/
def pointOn (i : Interval) (k : Int) : Option DecimalForm :=
  let (unit, grid) := scaleDown 10 1 1 (-k)
  let scaled (x : Nat) : Nat := x * grid
  let step := unit * i.den
  let floor := scaled i.value / step
  let below := if i.closed then decide (scaled i.low ≤ floor * step) else decide (scaled i.low < floor * step)
  let above := if i.closed then decide ((floor + 1) * step ≤ scaled i.high)
    else decide ((floor + 1) * step < scaled i.high)
  let rest := scaled i.value % step
  if below && (!above || decide (2 * rest < step)) then some ⟨floor, k⟩
  else if above then some ⟨floor + 1, k⟩
  else none

/-- The shortest decimal in the interval. -/
def shortest (i : Interval) : DecimalForm :=
  let first := i.leadingPlace
  ((List.range 18).findSome? fun (j : Nat) => i.pointOn (first - j)).getD ⟨0, 0⟩

end Interval

/-- A decimal written out in places, without the zeros that end its fraction. -/
def DecimalForm.positional (d : DecimalForm) : List Char :=
  let all := Nat.toDigits 10 d.digits
  if 0 ≤ d.exponent then all ++ List.replicate d.exponent.toNat '0'
  else
    let places := (-d.exponent).toNat
    let padded := List.replicate (places + 1 - all.length) '0' ++ all
    let whole := padded.take (padded.length - places)
    let fraction := ((padded.drop (padded.length - places)).reverse.dropWhile (· == '0')).reverse
    if fraction.isEmpty then whole else whole ++ '.' :: fraction

/-- A minus sign for a negative number. -/
def signText (negative : Bool) : List Char := if negative then ['-'] else []

/-- The text of a number: the shortest decimal that reads back as it. -/
def toChars : Binary64 → List Char
  | .nan => ['N', 'a', 'N']
  | .infinite negative => signText negative ++ ['i', 'n', 'f']
  | .finite negative m q =>
    signText negative ++ if m = 0 then ['0'] else (interval m q).shortest.positional

/-- The text of a number: the shortest decimal that reads back as it. -/
def render (x : Binary64) : String := String.ofList x.toChars

end MonitorQuery.Decimal.Binary64
