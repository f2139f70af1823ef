import MonitorQuery.Decimal.Binary64
import MonitorQuery.Json.Value
import MonitorQuery.Text.Hexadecimal
import MonitorQuery.Text.Rest

/-!
The lexemes of a JSON text.

`Lexeme.first` reads the lexeme at the front of a text that does not begin with white space. A lexeme that is cut
off or malformed is still a lexeme, `broken`, and remembers whether it began as a string: what stands
before it decides whether its own fault is ever met. The rest of the text comes with a proof that it is shorter,
which is what `Lexeme.all` ends by.

A number is out of range when it overflows a binary floating-point number. Its magnitude is taken as the text is
read: as many leading digits as fit 64 bits, rounded, times a rounded power of ten.
-/

namespace MonitorQuery.Json

open MonitorQuery.Decimal MonitorQuery.Text

/-- What is wrong with a text: it ends too early, or it is no JSON. -/
inductive Fault
  | ended | malformed
  deriving DecidableEq, Repr

/-- The smallest parts of a text that mean something. -/
inductive Lexeme
  | openArray | closeArray | openObject | closeObject | colon | comma
  | string (s : String)
  | scalar (v : Value)
  | broken (isString : Bool) (fault : Fault)
  deriving Repr

/-- The white space between lexemes. -/
def isSpace (c : Char) : Bool := c == ' ' || c == '\n' || c == '\t' || c == '\r'

/-- Reads a unit of four hexadecimal digits. With fewer than four bytes left the text counts as ended, whatever
they are. -/
def unit (cs : List Char) : Except Fault (Nat × RestOrAll cs) :=
  if (String.ofList (cs.take 4)).utf8ByteSize < 4 then .error .ended
  else
    match cs with
    | a :: b :: c :: d :: rest =>
      match Hexadecimal.number? 0 [a, b, c, d] with
      | some n => .ok (n, (((((RestOrAll.all rest).behind d).behind c).behind b).behind a).weaken)
      | none => .error .malformed
    | _ => .error .malformed

/-- The first half of a character beyond the sixteen-bit units. -/
def isHighUnit (n : Nat) : Bool := 0xD800 ≤ n && n ≤ 0xDBFF

/-- The second half of a character beyond the sixteen-bit units. -/
def isLowUnit (n : Nat) : Bool := 0xDC00 ≤ n && n ≤ 0xDFFF

/-- The character that two halves stand for. -/
def joinUnits (high low : Nat) : Char := Char.ofNat ((high - 0xD800) * 0x400 + (low - 0xDC00) + 0x10000)

/-- Reads the second half of a character, with the escape that announces it. -/
def lowUnit (high : Nat) : (cs : List Char) → Except Fault (Char × RestOrAll cs)
  | [] => .error .ended
  | ['\\'] => .error .ended
  | '\\' :: 'u' :: cs => do
    let (low, rest) ← unit cs
    if isLowUnit low then .ok (joinUnits high low, ((rest.behind 'u').behind '\\').weaken)
    else .error .malformed
  | _ => .error .malformed

/-- Reads the units behind the escape `\u`. A half stands only with its other half. -/
def unicodeEscape (cs : List Char) : Except Fault (Char × RestOrAll cs) := do
  let (n, rest) ← unit cs
  if isHighUnit n then
    let (c, rest') ← lowUnit n rest.1
    .ok (c, rest.andThen rest')
  else if isLowUnit n then .error .malformed
  else .ok (Char.ofNat n, rest)

/-- The character that a letter behind a backslash stands for. -/
def escapeLetter? (c : Char) : Option Char :=
  if c = '\x22' || c = '\\' || c = '/' then some c
  else if c = 'b' then some '\x08'
  else if c = 'f' then some '\x0c'
  else if c = 'n' then some '\n'
  else if c = 'r' then some '\r'
  else if c = 't' then some '\t'
  else none

/-- Reads what follows a backslash in a string. -/
def escape : (cs : List Char) → Except Fault (Char × RestOrAll cs)
  | [] => .error .ended
  | c :: cs =>
    if c = 'u' then do
      let (d, rest) ← unicodeEscape cs
      .ok (d, (rest.behind c).weaken)
    else
      match escapeLetter? c with
      | some d => .ok (d, ((RestOrAll.all cs).behind c).weaken)
      | none => .error .malformed

/-- Reads a string behind its first quotation mark, up to and with its last. -/
def stringBody (cs : List Char) : Except Fault (List Char × RestOrAll cs) :=
  match cs with
  | [] => .error .ended
  | c :: cs =>
    if c = '\x22' then .ok ([], ((RestOrAll.all cs).behind c).weaken)
    else if c = '\\' then
      match escape cs with
      | .error fault => .error fault
      | .ok (d, rest) =>
        match stringBody rest.1 with
        | .error fault => .error fault
        | .ok (ds, rest') =>
          .ok (d :: ds, ((rest.andThen rest').behind c).weaken)
    else if c.toNat < 32 then .error .malformed
    else
      match stringBody cs with
      | .error fault => .error fault
      | .ok (ds, rest) => .ok (c :: ds, (rest.behind c).weaken)
termination_by cs.length
decreasing_by
  · have := rest.2; simp only [List.length_cons]; omega
  · simp only [List.length_cons]; omega

/-- A number being read: the leading digits that fit 64 bits and the power of ten that they stand at. -/
structure Scaled where
  significand : Nat
  exponent : Int

namespace Scaled

/-- One more digit fits 64 bits. -/
def fits (s : Scaled) (c : Char) : Bool :=
  Bounds.unsigned64.contains (s.significand * 10 + (c.toNat - 48) : Nat)

/-- One more digit, if it fits. -/
def push (s : Scaled) (c : Char) : Scaled := { s with significand := s.significand * 10 + (c.toNat - 48) }

/-- The digits before the point. From the first that does not fit, all count as places only. -/
def addWhole (s : Scaled) : List Char → Scaled
  | [] => s
  | c :: cs =>
    if s.fits c then (s.push c).addWhole cs else { s with exponent := s.exponent + (cs.length + 1) }

/-- The digits behind the point. From the first that does not fit, none counts. -/
def addFraction (s : Scaled) : List Char → Scaled
  | [] => s
  | c :: cs =>
    if s.fits c then
      let t := s.push c
      addFraction { t with exponent := t.exponent - 1 } cs
    else s

/-- The number overflows. -/
def overflows (s : Scaled) : Bool :=
  if s.significand = 0 || s.exponent < 0 then false
  else if 308 < s.exponent then true
  else
    match Binary64.ofDecimal false s.significand 0, Binary64.ofDecimal false 1 s.exponent with
    | .finite _ m q, .finite _ n r =>
      let (num, den) := Binary64.scaleDown 2 (m * n) 1 (-(q + r))
      match Binary64.ofQuotient false num den with
      | .finite _ _ _ => false
      | _ => true
    | _, _ => true

end Scaled

/-- Digits that a number needs here. -/
def neededDigits (cs : List Char) : Except Fault (List Char × RestOrAll cs) :=
  let (digits, rest) := takeFront Char.isDigit cs
  if digits.isEmpty then .error (if rest.1.isEmpty then .ended else .malformed) else .ok (digits, rest)

/-- Reads the digits of a number before its point. A zero in front stands alone. -/
def wholeDigits (cs : List Char) : Except Fault (List Char × RestOrAll cs) := do
  let (digits, rest) ← neededDigits cs
  if digits.head? = some '0' && 1 < digits.length then .error .malformed else .ok (digits, rest)

/-- Reads the fraction of a number, if it has one. -/
def fractionDigits (cs : List Char) : Except Fault (List Char × RestOrAll cs) :=
  match cs with
  | '.' :: cs => do
    let (digits, rest) ← neededDigits cs
    .ok (digits, (rest.behind '.').weaken)
  | cs => .ok ([], RestOrAll.all cs)

/-- Takes a sign off the front of an exponent, if it has one: whether it is negative. -/
def exponentSign (cs : List Char) : Bool × RestOrAll cs :=
  match cs with
  | '-' :: cs => (true, ((RestOrAll.all cs).behind '-').weaken)
  | '+' :: cs => (false, ((RestOrAll.all cs).behind '+').weaken)
  | cs => (false, RestOrAll.all cs)

/-- Reads the exponent of a number, if it has one. -/
def exponentPart (cs : List Char) : Except Fault (Int × RestOrAll cs) :=
  match cs with
  | [] => .ok (0, RestOrAll.all [])
  | c :: cs =>
    if c = 'e' || c = 'E' then do
      let (negative, rest) := exponentSign cs
      let (digits, rest') ← neededDigits rest.1
      let n : Int := ofDigits digits
      .ok (if negative then -n else n, ((rest.andThen rest').behind c).weaken)
    else .ok (0, RestOrAll.all (c :: cs))

/-- Reads a number without its sign. -/
def magnitude (cs : List Char) : Except Fault (RestOrAll cs) := do
  let (whole, rest) ← wholeDigits cs
  let (fraction, rest') ← fractionDigits rest.1
  let (exponent, rest'') ← exponentPart rest'.1
  let scaled := ((Scaled.mk 0 0).addWhole whole).addFraction fraction
  if { scaled with exponent := scaled.exponent + exponent }.overflows then .error .malformed
  else .ok ((rest.andThen rest').andThen rest'')

/-- The text that was read off the front of another. -/
def readText {cs : List Char} (rest : RestOrAll cs) : String := String.ofList (cs.take (cs.length - rest.1.length))

namespace Lexeme

/-- A broken lexeme and nothing behind it. -/
def stop {cs : List Char} (c : Char) (isString : Bool) (fault : Fault) : Lexeme × Rest (c :: cs) :=
  (broken isString fault, ⟨[], Nat.zero_lt_succ _⟩)

/-- Reads the number at the front of a text, behind a sign or not. -/
def number (c : Char) (cs : List Char) : Lexeme × Rest (c :: cs) :=
  if c = '-' then
    match magnitude cs with
    | .ok rest => (scalar (.number ("-" ++ readText rest)), rest.behind c)
    | .error fault => stop c false fault
  else
    match magnitude (c :: cs) with
    | .ok rest =>
      if h : rest.1.length < (c :: cs).length then (scalar (.number (readText rest)), ⟨rest.1, h⟩)
      else stop c false .malformed
    | .error fault => stop c false fault

/-- Takes a word off the front of a text: what is left, or how the text departs from the word. -/
def afterWord : List Char → (cs : List Char) → Except Fault (RestOrAll cs)
  | [], cs => .ok (RestOrAll.all cs)
  | _ :: _, [] => .error .ended
  | w :: word, c :: cs =>
    if w = c then
      match afterWord word cs with
      | .ok rest => .ok (rest.behind c).weaken
      | .error fault => .error fault
    else .error .malformed

/-- Reads a word that stands for a value, behind its first letter. -/
def word (c : Char) (letters : List Char) (v : Value) (cs : List Char) : Lexeme × Rest (c :: cs) :=
  match afterWord letters cs with
  | .ok rest => (scalar v, rest.behind c)
  | .error fault => stop c false fault

/-- Reads the lexeme at the front of a text. -/
def first (c : Char) (cs : List Char) : Lexeme × Rest (c :: cs) :=
  let all := RestOrAll.all cs
  if c = '[' then (openArray, all.behind c)
  else if c = ']' then (closeArray, all.behind c)
  else if c = '\x7b' then (openObject, all.behind c)
  else if c = '\x7d' then (closeObject, all.behind c)
  else if c = ':' then (colon, all.behind c)
  else if c = ',' then (comma, all.behind c)
  else if c = '\x22' then
    match stringBody cs with
    | .ok (s, rest) => (string (String.ofList s), rest.behind c)
    | .error fault => stop c true fault
  else if c = '-' || c.isDigit then number c cs
  else if c = 't' then word c ['r', 'u', 'e'] (.truth true) cs
  else if c = 'f' then word c ['a', 'l', 's', 'e'] (.truth false) cs
  else if c = 'n' then word c ['u', 'l', 'l'] .null cs
  else stop c false .malformed

/-- The lexemes of a text, up to the first that is broken. -/
def all (cs : List Char) : List Lexeme :=
  match cs with
  | [] => []
  | c :: cs =>
    if isSpace c then all cs
    else
      let (lexeme, rest) := first c cs
      lexeme :: all rest.1
termination_by cs.length
decreasing_by
  · simp only [List.length_cons]; omega
  · exact rest.2

end Lexeme

end MonitorQuery.Json
