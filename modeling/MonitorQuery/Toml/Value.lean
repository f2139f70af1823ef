/-!
TOML values, and tables as they grow while a text is read.

A table remembers how it came about (`Origin`), which decides what may still be added to it: a table in braces
is closed; one that a header named is not named again; one that a dotted key made is open to further dotted keys
only; one that merely lay on the way to another may still be named by a header of its own. Floating-point numbers
and dates are kept as their text.
-/

namespace MonitorQuery.Toml

/-- How a table came about. -/
inductive Origin
  /-- A header names it. -/
  | header
  /-- It lies on the way to a table that a header names. -/
  | implied
  /-- A dotted key goes through it. -/
  | dotted
  /-- It stands in braces. -/
  | inline
  deriving DecidableEq, Repr

/-- A TOML value. -/
inductive Value
  | string (s : String)
  | integer (n : Int)
  | float (text : String)
  | truth (b : Bool)
  | date (text : String)
  | array (items : List Value)
  | table (origin : Origin) (entries : List (String × Value))
  /-- The tables of headers in double brackets. -/
  | tables (elements : List (List (String × Value)))
  deriving Repr

/-- The entries of a table in the order of their keys' first mention. -/
abbrev Entries := List (String × Value)

namespace Entries

/-- Replaces the value at a key that is there. -/
def replace (key : String) (v : Value) (entries : Entries) : Entries :=
  entries.map fun (k, w) => if k = key then (k, v) else (k, w)

/-- Changes the last table of a list of tables. -/
def changeLast (change : Entries → Option Entries) : List Entries → Option (List Entries)
  | [] => none
  | [last] => (change last).map fun e => [e]
  | e :: es => (changeLast change es).map (e :: ·)

/-- Adds a value under a dotted key. The tables on its way are made if they are missing. One that a header
implied may be passed through but not added to, and so may the last of the tables of a header in double
brackets. -/
def insert (v : Value) : (path : List String) → (key : String) → Entries → Option Entries
  | [], key, entries => if (entries.lookup key).isSome then none else some (entries ++ [(key, v)])
  | k :: path, key, entries =>
    match entries.lookup k with
    | none => (insert v path key []).map fun e => entries ++ [(k, .table .dotted e)]
    | some (.table .dotted inner) =>
      (insert v path key inner).map fun e => entries.replace k (.table .dotted e)
    | some (.table .implied inner) =>
      if path.isEmpty then none
      else (insert v path key inner).map fun e => entries.replace k (.table .implied e)
    | some (.tables elements) =>
      if path.isEmpty then none
      else (changeLast (insert v path key) elements).map fun es => entries.replace k (.tables es)
    | some _ => none

/-- Makes the table that a header names. -/
def openTable (key : String) (entries : Entries) : Option Entries :=
  match entries.lookup key with
  | none => some (entries ++ [(key, .table .header [])])
  | some (.table .implied inner) => some (entries.replace key (.table .header inner))
  | some _ => none

/-- Makes one more table under a header in double brackets. -/
def openElement (key : String) (entries : Entries) : Option Entries :=
  match entries.lookup key with
  | none => some (entries ++ [(key, .tables [[]])])
  | some (.tables elements) => some (entries.replace key (.tables (elements ++ [[]])))
  | some _ => none

/-- Changes the table at the end of a path of headers. Tables missing on the way are implied; of the tables of a
header in double brackets the last is meant. -/
def change (f : Entries → Option Entries) : List String → Entries → Option Entries
  | [], entries => f entries
  | k :: path, entries =>
    match entries.lookup k with
    | none => (change f path []).map fun e => entries ++ [(k, .table .implied e)]
    | some (.table .inline _) => none
    | some (.table origin inner) => (change f path inner).map fun e => entries.replace k (.table origin e)
    | some (.tables elements) => (changeLast (change f path) elements).map fun es => entries.replace k (.tables es)
    | some _ => none

end Entries

/-- A key, dotted or not: the tables on its way and its last part. -/
structure Path where
  way : List String
  last : String

/-- What a line of a document says. -/
inductive Line
  | entry (path : Path) (v : Value)
  | header (path : Path)
  | element (path : Path)

/-- A document while its lines are taken one after the other: its entries, and the table that the last header
named. -/
structure Document where
  entries : Entries := []
  current : List String := []

namespace Document

/-- Takes one line. -/
def add (d : Document) : Line → Option Document
  | .entry path v =>
    (Entries.change (Entries.insert v path.way path.last) d.current d.entries).map fun e => { d with entries := e }
  | .header path =>
    (Entries.change (Entries.openTable path.last) path.way d.entries).map fun e => ⟨e, path.way ++ [path.last]⟩
  | .element path =>
    (Entries.change (Entries.openElement path.last) path.way d.entries).map fun e => ⟨e, path.way ++ [path.last]⟩

/-- The entries that lines make, if they go together. -/
def ofLines (lines : List Line) : Option Entries := (lines.foldlM add {}).map (·.entries)

end Document

/-- A table in braces, if its entries go together. -/
def Value.inlineTable? (entries : List (Path × Value)) : Option Value :=
  (entries.foldlM (fun e ((path, v) : Path × Value) => Entries.insert v path.way path.last e) []).map (.table .inline)

end MonitorQuery.Toml
