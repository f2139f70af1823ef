import MonitorQuery.Decimal.Integer
import MonitorQuery.Toml.Text

/-!
Writing the entries of a TOML table.

A string is written in the first of four plain forms that can hold it as it is, single before triple marks and
quotation marks before apostrophes (`Form.choose`). If none can, it is written between quotation marks with
escapes, triple ones if it has a new line. A triple form begins with a new line of its own when the string has
one. Between quotation marks a tab is always escaped, and in triple ones every third quotation mark of a run is, an
escape ending a run as any other character does.
-/

namespace MonitorQuery.Toml

open MonitorQuery.Text

/-- The character needs an escape wherever it stands: a control character that is neither tab nor new line. -/
def needsEscape (c : Char) : Bool := (c.toNat < 0x20 || c.toNat == 0x7F) && c != '\t' && c != '\n'

/-- The longest run of a character in a text, behind a run of so many at its front. -/
def longestRun (mark : Char) (current : Nat) : List Char → Nat
  | [] => current
  | c :: cs => if c = mark then longestRun mark (current + 1) cs else max current (longestRun mark 0 cs)

/-- The escape of a character other than a quotation mark, for one that has an escape at all. -/
def escaped? (keepNewLines : Bool) (c : Char) : Option (List Char) :=
  if c = '\\' then some ['\\', '\\']
  else if c = '\x08' then some ['\\', 'b']
  else if c = '\t' then some ['\\', 't']
  else if c = '\n' then if keepNewLines then none else some ['\\', 'n']
  else if c = '\x0c' then some ['\\', 'f']
  else if c = '\r' then some ['\\', 'r']
  else if needsEscape c then
    some ['\\', 'u', '0', '0', Hexadecimal.upper (c.toNat / 16), Hexadecimal.upper (c.toNat % 16)]
  else none

/-- The characters of a string between quotation marks. A quotation mark stands as it is while a run of them, of
which so many stand before it, is shorter than a bound. -/
def basicChars (keepNewLines : Bool) (bound : Nat) (run : Nat) : List Char → List Char
  | [] => []
  | c :: cs =>
    if c = '\x22' then
      if run < bound then c :: basicChars keepNewLines bound (run + 1) cs
      else '\\' :: '\x22' :: basicChars keepNewLines bound 0 cs
    else (escaped? keepNewLines c).getD [c] ++ basicChars keepNewLines bound 0 cs

/-- The forms of a string. -/
inductive Form
  | basic | literal | multilineBasic | multilineLiteral
  deriving DecidableEq, Repr

namespace Form

/-- A form in single marks. -/
def isSingle : Form → Bool
  | basic | literal => true
  | _ => false

/-- The mark of a form. -/
def mark : Form → Char
  | basic | multilineBasic => '\x22'
  | literal | multilineLiteral => '\x27'

/-- The marks at either end of a form. -/
def marks (f : Form) : List Char := List.replicate (if f.isSingle then 1 else 3) f.mark

/-- The form can hold the string with no escape but that of the tab. -/
def holds (f : Form) (cs : List Char) : Bool :=
  !cs.any needsEscape &&
    !(f.mark == '\x22' && cs.contains '\\') &&
    !(f.isSingle && cs.contains '\n') &&
    decide (longestRun f.mark 0 cs ≤ if f.isSingle then 0 else 2)

/-- The form in which a string is written. -/
def choose (cs : List Char) : Form :=
  (([basic, literal, multilineBasic, multilineLiteral] : List Form).find? (·.holds cs)).getD
    (if cs.contains '\n' then multilineBasic else basic)

/-- The characters of a string between the marks of a form. -/
def inside : Form → List Char → List Char
  | basic, cs => basicChars false 0 0 cs
  | multilineBasic, cs => basicChars true 2 0 cs
  | literal, cs | multilineLiteral, cs => cs

/-- A string in a form. -/
def write (f : Form) (cs : List Char) : List Char :=
  f.marks ++ (if !f.isSingle && cs.contains '\n' then ['\n'] else []) ++ f.inside cs ++ f.marks

end Form

/-- A string in the form that suits it. -/
def writeString (s : String) : List Char := (Form.choose s.toList).write s.toList

/-- A line that gives a key a string. -/
def stringLine (key value : String) : List Char := key.toList ++ " = ".toList ++ writeString value ++ ['\n']

/-- A line that gives a key a number. -/
def naturalLine (key : String) (n : Nat) : List Char :=
  key.toList ++ " = ".toList ++ Nat.toDigits 10 n ++ ['\n']

end MonitorQuery.Toml
