import MonitorQuery.Decimal.Integer
import MonitorQuery.Text.Blank

/-!
Versions of a server.

A version is one to three numbers with points between them and, behind a hyphen, a qualifier that may be any
text. Numbers left out are zero. The qualifier has no part in comparisons. It is kept in a form of ASCII letters,
digits, points and hyphens, every other character having become a hyphen, and it is dropped when that form
has an empty part or a number with a zero in front.
-/

namespace MonitorQuery.Server

/-- The three numbers of a version. -/
structure Triple where
  major : Nat
  minor : Nat
  patch : Nat
  deriving DecidableEq, Repr

namespace Triple

/-- The version named by three numbers is this one or an earlier one. -/
def atLeast (t : Triple) (major minor patch : Nat) : Bool :=
  decide (major < t.major) ||
    (decide (major = t.major) && (decide (minor < t.minor) ||
      (decide (minor = t.minor) && decide (patch ≤ t.patch))))

/-- Versions compare by their first difference. -/
theorem atLeast_iff (t : Triple) (major minor patch : Nat) :
    t.atLeast major minor patch = true ↔
      major < t.major ∨ major = t.major ∧ (minor < t.minor ∨ minor = t.minor ∧ patch ≤ t.patch) := by
  simp [atLeast]

end Triple

/-- A version of a server: its text, the numbers in it, and the qualifier in its kept form. -/
structure Version where
  text : String
  triple : Triple
  qualifier : Option String
  deriving DecidableEq, Repr

/-- Why a text is no version. -/
inductive VersionError
  /-- It has not the form of a version. -/
  | malformed (text : String)
  /-- A number in it does not fit in 64 bits. -/
  | tooLarge (text : String)
  deriving DecidableEq, Repr

/-- The wording of an error. -/
def VersionError.message : VersionError → String
  | malformed text => "Invalid server version: " ++ text
  | tooLarge text => "Invalid server version: " ++ text ++ ": number too large to fit in target type"

namespace Qualifier

/-- The characters that a qualifier keeps. -/
def isKept (c : Char) : Bool := c.isAlphanum || c == '.'

/-- The kept form of a qualifier, whether or not it may stay. -/
def normalize (cs : List Char) : List Char := cs.map fun c => if isKept c then c else '-'

/-- A part of a qualifier: not empty, and no number of two digits or more that begins with a zero. -/
def isPart (cs : List Char) : Bool :=
  !cs.isEmpty && !(cs.all Char.isDigit && decide (2 ≤ cs.length) && cs.head? == some '0')

/-- The kept form of the text behind the hyphen of a version, if it may stay. -/
def keep? (cs : List Char) : Option String :=
  let kept := normalize cs
  if (kept.splitOn '.').all isPart then some (String.ofList kept) else none

/-- A qualifier that is written but cannot be kept. -/
def isDropped (cs : List Char) : Bool := !cs.isEmpty && (keep? cs).isNone

end Qualifier

namespace Version

/-- The part of a text before its first hyphen. -/
def numbersPart (cs : List Char) : List Char := cs.takeWhile (· != '-')

/-- The part of a text behind its first hyphen, empty if there is none. -/
def qualifierPart (cs : List Char) : List Char := (cs.dropWhile (· != '-')).drop 1

/-- Reads the numbers of a version in turn. The first that fails decides the error. -/
def numbers (text : String) : List (List Char) → Except VersionError (List Nat)
  | [] => .ok []
  | part :: parts =>
    match Decimal.natural? part with
    | none => .error (.malformed text)
    | some n =>
      if Decimal.Bounds.unsigned64.contains n then do
        let rest ← numbers text parts
        .ok (n :: rest)
      else .error (.tooLarge text)

/-- Three numbers, the missing ones zero. -/
def tripleOf (ns : List Nat) : Triple := ⟨ns[0]?.getD 0, ns[1]?.getD 0, ns[2]?.getD 0⟩

/-- Reads a version, blanks around it aside. -/
def ofText (text : String) : Except VersionError Version :=
  let cs := Text.trimChars text.toList
  let parts := (numbersPart cs).splitOn '.'
  if 3 < parts.length then .error (.malformed text)
  else do
    let ns ← numbers text parts
    .ok ⟨String.ofList cs, tripleOf ns, Qualifier.keep? (qualifierPart cs)⟩

end Version

end MonitorQuery.Server
