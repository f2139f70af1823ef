import MonitorQuery.Cli.Log.Event
import MonitorQuery.Cli.Log.Pattern
import MonitorQuery.Decimal.Binary64
import MonitorQuery.Text.Alphanumeric
import MonitorQuery.Text.Blank
import MonitorQuery.Text.Extent
import MonitorQuery.Text.Fold

/-!
Directives: which events are shown.

A directive is a level, a target, or a target with what follows: in brackets the name of a span and in braces a
field, with or without a value, and behind an equals sign a level. It speaks of the events whose target begins with
the one it names and that have the field it names. A directive that names a span, or a value of a field, speaks of
spans only, and no event lies within one.

The parts of a directive are found in its text without the blanks around it, but cut out of the whole text at the same
distance from the beginning. So blanks at the end belong to the last part, and blanks in front shift every part.
-/

namespace MonitorQuery.Cli.Log

open MonitorQuery.Text

/-- Reads a rank, with a plus sign in front or without. -/
def rank? : List Char → Option Nat
  | '+' :: cs => Decimal.natural? cs
  | cs => Decimal.natural? cs

/-- The rank up to which events are shown that a text names: by its number, by the name of a level, or none. -/
def threshold? (s : String) : Option Nat :=
  match rank? s.toList with
  | some n => if n ≤ Level.greatestRank then some n else none
  | none =>
    if sameFolded s "off" then some 0
    else (Level.all.find? fun l => sameFolded l.label s).map Level.rank

/-- What a directive asks of a field: that there is one of the name and, if a value is given, what it is like. -/
structure FieldTest where
  name : String
  value : Option String := none
  deriving DecidableEq, Repr

/-- Why a text is no directive. -/
inductive DirectiveFault
  | malformed
  /-- What stands behind the equals sign is no level. -/
  | level
  /-- The value of the field is no pattern. -/
  | pattern (f : Pattern.Fault)
  deriving DecidableEq, Repr

namespace DirectiveFault

/-- The wording of a fault. -/
def message : DirectiveFault → String
  | malformed => "invalid filter directive"
  | level =>
    "error parsing level filter: expected one of \x22off\x22, \x22error\x22, \x22warn\x22, \x22info\x22, " ++
      "\x22debug\x22, \x22trace\x22, or a number 0-5"
  | pattern .malformed => "invalid field filter: error building NFA"
  | pattern .boundary =>
    "invalid field filter: unsupported regex feature for DFAs: cannot build DFAs for regexes with Unicode word " ++
      "boundaries; switch to ASCII word boundaries, or heuristically enable Unicode word boundaries or use a " ++
      "different regex engine"

end DirectiveFault

/-- Up to which rank events are shown, and which. -/
structure Directive where
  /-- What the targets of the events begin with; without one, those of all. -/
  target : Option String := none
  span : Option String := none
  field : Option FieldTest := none
  threshold : Nat := Level.greatestRank
  deriving DecidableEq, Repr

/-- Reads a field: its name and, behind an equals sign, a value. A value that is no number has to be a pattern. Behind
a second equals sign nothing counts. -/
def FieldTest.ofChars (cs : List Char) : Except DirectiveFault FieldTest :=
  let name := String.ofList (cs.takeWhile (· != '='))
  match cs.dropWhile (· != '=') with
  | [] => .ok ⟨name, none⟩
  | _ :: rest =>
    let value := String.ofList (rest.takeWhile (· != '='))
    if (Decimal.Binary64.ofText? value).isSome then .ok ⟨name, some value⟩
    else
      match Pattern.check value with
      | .ok () => .ok ⟨name, some value⟩
      | .error f => .error (.pattern f)

namespace Directive

/-- A character with which the name of a target may begin. -/
def mayBegin (c : Char) : Bool := c == '-' || c == ':' || c == '_' || isAlphanumeric c

/-- A level by itself, or else a target of which everything is shown. -/
def ofName (s : String) : Directive :=
  match threshold? s with
  | some n => { threshold := n }
  | none => { target := some s }

/-- Reads what stands behind the brackets: nothing, or an equals sign and a level. An empty level shows everything.
`start` is the place of `rest` in the trimmed text. -/
def withLevel (whole : List Char) (d : Directive) (start : Nat) (rest : List Char) :
    Except DirectiveFault Directive :=
  match rest with
  | [] => .ok d
  | '=' :: _ =>
    let level := dropExtent (start + 1) whole
    if level.isEmpty then .ok d
    else
      match threshold? (String.ofList level) with
      | some n => .ok { d with threshold := n }
      | none => .error .level
  | _ => .error .malformed

/-- Reads a field, what closes the braces and the brackets around it, and what stands behind them. -/
def withField (whole : List Char) (d : Directive) (start : Nat) (rest : List Char) :
    Except DirectiveFault Directive :=
  let inside := rest.takeWhile (· != '\x7d')
  let stop := start + extent inside
  match rest.dropWhile (· != '\x7d') with
  | [] => .error .malformed
  | _ :: rest =>
    if inside.isEmpty then .error .malformed
    else do
      let field ← FieldTest.ofChars (cut start stop whole)
      match rest with
      | ']' :: rest => withLevel whole { d with field := some field } (stop + 2) rest
      | _ => .error .malformed

/-- Reads the name of a span, a field if there is one, and what stands behind the brackets around them. -/
def withSpan (whole : List Char) (target : Option String) (start : Nat) (rest : List Char) :
    Except DirectiveFault Directive :=
  let inside := rest.takeWhile fun c => c != ']' && c != '\x7b'
  let stop := start + extent inside
  let span := String.ofList (cut start stop whole)
  match rest.dropWhile fun c => c != ']' && c != '\x7b' with
  | [] => .error .malformed
  | ']' :: rest => withLevel whole { target := target, span := some span } (stop + 1) rest
  | _ :: rest =>
    withField whole { target := target, span := if inside.isEmpty then none else some span } (stop + 1) rest

/-- Reads a directive, or says what is wrong with it. -/
def ofText (s : String) : Except DirectiveFault Directive :=
  let whole := s.toList
  match trimChars whole with
  | [] => .error .malformed
  | '[' :: rest => withSpan whole none 1 rest
  | c :: cs =>
    if !mayBegin c then .error .malformed
    else
      let name := (c :: cs).takeWhile fun c => c != '=' && c != '['
      let stop := extent name
      let target := String.ofList (cut 0 stop whole)
      match (c :: cs).dropWhile fun c => c != '=' && c != '[' with
      | [] => .ok (ofName s)
      | '[' :: rest => withSpan whole (some target) (stop + 1) rest
      | rest => withLevel whole { target := some target } stop rest

/-- The directive speaks of events: it names no span and no value. -/
def isForEvents (d : Directive) : Bool := d.span.isNone && d.field.all fun f => f.value.isNone

/-- The directive speaks of the event. -/
def concerns (d : Directive) (e : Event) : Bool :=
  d.isForEvents && (d.target.all fun name => name.toList.isPrefixOf e.source.target.toList) &&
    d.field.all fun f => e.fieldNames.contains f.name

/-- How particular the target of a directive is. -/
def weight (d : Directive) : Nat :=
  match d.target with
  | none => 0
  | some name => extent name.toList + 1

/-- The directive is more particular than another: by its target, then by a field; of two fields, the one with the
greater name counts. -/
def exceeds (d e : Directive) : Bool :=
  if d.weight ≠ e.weight then e.weight < d.weight
  else
    match d.field, e.field with
    | some f, some g => decide (g.name < f.name)
    | some _, none => true
    | none, _ => false

end Directive

end MonitorQuery.Cli.Log
