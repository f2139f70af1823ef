import MonitorQuery.Calendar.Timestamp
import MonitorQuery.Decimal.Binary64
import MonitorQuery.Text.Hexadecimal
import MonitorQuery.Text.Rest
import MonitorQuery.Toml.Value

/-!
The numbers, truth values and dates of TOML.

All of them are written without blanks, a date and a time with a single one between them excepted, in characters that
stand nowhere else in a line. So the word at the front of a text is taken first and then classified. An integer is of 64
bits; underscores may stand between its digits. A floating-point number may not overflow upwards.
-/

namespace MonitorQuery.Toml

open MonitorQuery.Decimal MonitorQuery.Calendar MonitorQuery.Text

/-- The characters of numbers, truth values and dates. -/
def isWordChar (c : Char) : Bool := c.isAlphanum || c == '+' || c == '-' || c == '_' || c == '.' || c == ':'

/-- One or more digits with single underscores between them. -/
def isGrouped (isDigit : Char → Bool) : List Char → Bool
  | [] => false
  | [c] => isDigit c
  | c :: '_' :: cs => isDigit c && isGrouped isDigit cs
  | c :: cs => isDigit c && isGrouped isDigit cs

/-- The digits of a group. -/
def ungrouped (cs : List Char) : List Char := cs.filter (· != '_')

/-- Takes a sign off the front of a number: whether it is negative, and the rest. -/
def splitSign : List Char → Bool × List Char
  | '-' :: cs => (true, cs)
  | '+' :: cs => (false, cs)
  | cs => (false, cs)

/-- A number without its sign, in decimal and without zeros in front. -/
def isWhole (cs : List Char) : Bool := isGrouped Char.isDigit cs && !(cs.head? == some '0' && 1 < cs.length)

/-- The value of digits in a base. -/
def inBase (base : Nat) (cs : List Char) : Nat :=
  cs.foldl (fun n c => base * n + (Hexadecimal.value? c).getD 0) 0

/-- An integer of 64 bits. -/
def bounded (n : Int) : Option Value := (Bounds.signed64.only n).map .integer

/-- Reads the digits of an integer in a base. -/
def based? (base : Nat) (isDigit : Char → Bool) (cs : List Char) : Option Value :=
  if isGrouped isDigit cs then bounded (inBase base (ungrouped cs)) else none

/-- Reads an integer: in base 16, 8 or 2 without a sign, in decimal with or without. -/
def integer? : List Char → Option Value
  | '0' :: 'x' :: cs => based? 16 Hexadecimal.isDigit cs
  | '0' :: 'o' :: cs => based? 8 (fun c => '0' ≤ c && c ≤ '7') cs
  | '0' :: 'b' :: cs => based? 2 (fun c => c == '0' || c == '1') cs
  | cs =>
    let (negative, digits) := splitSign cs
    if isWhole digits then
      let n : Int := inBase 10 (ungrouped digits)
      bounded (if negative then -n else n)
    else none

/-- The exponent of a floating-point number. -/
def isExponent : List Char → Bool
  | [] => false
  | c :: cs => (c == 'e' || c == 'E') && isGrouped Char.isDigit (splitSign cs).2

/-- The part of a floating-point number behind the digits before its point. -/
def isFractional : List Char → Bool
  | '.' :: cs =>
    let rest := cs.dropWhile fun c => c.isDigit || c == '_'
    isGrouped Char.isDigit (cs.takeWhile fun c => c.isDigit || c == '_') && (rest.isEmpty || isExponent rest)
  | cs => isExponent cs

/-- The floating-point number is above all that fit 64 bits. -/
def overflows (cs : List Char) : Bool := Binary64.ofChars? (ungrouped cs) == some (.infinite false)

/-- Reads a floating-point number. -/
def float? (cs : List Char) : Option Value :=
  let magnitude := (splitSign cs).2
  if magnitude = ['i', 'n', 'f'] || magnitude = ['n', 'a', 'n'] then some (.float (String.ofList cs))
  else
    let whole := magnitude.takeWhile fun c => c.isDigit || c == '_'
    let rest := magnitude.dropWhile fun c => c.isDigit || c == '_'
    if isWhole whole && isFractional rest && !overflows cs then some (.float (String.ofList cs)) else none

/-- Reads the time of a day off the front of a text. -/
def clockTime? (cs : List Char) : Option (List Char) := do
  let (hour, cs) ← digits? 2 cs
  let cs ← skip? (· == ':') cs
  let (minute, cs) ← digits? 2 cs
  let cs ← skip? (· == ':') cs
  let (second, cs) ← digits? 2 cs
  let (_, cs) ← fraction? cs
  if hour ≤ 23 && minute ≤ 59 && second ≤ 60 then some cs else none

/-- Reads a date off the front of a text. -/
def calendarDate? (cs : List Char) : Option (List Char) := do
  let (year, cs) ← digits? 4 cs
  let cs ← skip? (· == '-') cs
  let (month, cs) ← digits? 2 cs
  let cs ← skip? (· == '-') cs
  let (day, cs) ← digits? 2 cs
  if Date.isValid ⟨year, month, day⟩ then some cs else none

/-- A zone, or nothing. -/
def isZone : List Char → Bool
  | [] | ['Z'] | ['z'] => true
  | c :: cs =>
    (c == '+' || c == '-') && match digits? 2 cs with
      | some (hours, ':' :: cs) =>
        match digits? 2 cs with
        | some (minutes, []) => hours ≤ 23 && minutes ≤ 59
        | _ => false
      | _ => false

/-- A time of the day, with a zone if a date stands before it. -/
def isTime (zoned : Bool) (cs : List Char) : Bool :=
  match clockTime? cs with
  | some rest => if zoned then isZone rest else rest.isEmpty
  | none => false

/-- A date and nothing behind it. -/
def isDate (cs : List Char) : Bool := calendarDate? cs == some []

/-- A time, a date, or a date and a time with a letter between them. -/
def isDateOrTime (cs : List Char) : Bool :=
  isTime false cs || match calendarDate? cs with
    | some [] => true
    | some (c :: rest) => (c == 'T' || c == 't') && isTime true rest
    | none => false

/-- Reads the value that a word writes. -/
def scalarOfWord? (cs : List Char) : Option Value :=
  if cs = ['t', 'r', 'u', 'e'] then some (.truth true)
  else if cs = ['f', 'a', 'l', 's', 'e'] then some (.truth false)
  else if isDateOrTime cs then some (.date (String.ofList cs))
  else (integer? cs).or (float? cs)

/-- The word at the front of a text, and what is left. A date takes a time behind a blank with it. -/
def frontWord (cs : List Char) : List Char × RestOrAll cs :=
  let (word, rest) := takeFront isWordChar cs
  match h : rest.1 with
  | ' ' :: cs' =>
    let (word', rest') := takeFront isWordChar cs'
    if isDate word && isTime true word' then
      (word ++ 'T' :: word', rest.andThen ⟨rest'.1, by have := rest'.2; rw [h, List.length_cons]; omega⟩)
    else (word, rest)
  | _ => (word, rest)

/-- Reads a number, a truth value or a date off the front of a text. -/
def scalar (cs : List Char) : Option (Value × Rest cs) :=
  let (word, rest) := frontWord cs
  if h : rest.1.length < cs.length then (scalarOfWord? word).map fun v => (v, ⟨rest.1, h⟩) else none

end MonitorQuery.Toml
