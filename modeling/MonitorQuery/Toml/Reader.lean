import MonitorQuery.Toml.Scalar
import MonitorQuery.Toml.Text

/-!
Reading TOML documents.

A document is read in two steps: its text into lines, each an entry or a header (`Line.all`), and the lines into a
table (`Document.ofLines`). Containers nest to a depth of 79 and a key has at most 79 parts.
-/

namespace MonitorQuery.Toml

open MonitorQuery.Text

/-- The greatest depth of containers, and the greatest number of parts of a key. -/
def greatestDepth : Nat := 79

/-- The characters of a key that needs no quotation marks. -/
def isKeyChar (c : Char) : Bool := c.isAlphanum || c == '-' || c == '_'

/-- Reads one part of a key. -/
def keyPart (cs : List Char) : Option (String × Rest cs) :=
  match lineString cs with
  | some (s, rest) => some (String.ofList s, rest)
  | none =>
    let (front, rest) := takeFront isKeyChar cs
    if h : rest.1.length < cs.length then some (String.ofList front, ⟨rest.1, h⟩) else none

/-- Passes over blanks. -/
def skipBlanks (cs : List Char) : RestOrAll cs := skipFront isBlank cs

/-- Reads the parts of a key, with points between them. -/
def keyParts (cs : List Char) : Option (List String × Rest cs) :=
  let front := skipBlanks cs
  match keyPart front.1 with
  | none => none
  | some (part, rest) =>
    let rest := (front.andThenRest rest).andThen (skipBlanks rest.1)
    match h : rest.1 with
    | '.' :: cs' =>
      match keyParts cs' with
      | none => none
      | some (parts, rest') =>
        some (part :: parts, ⟨rest'.1, by have := rest'.2; have := rest.2; rw [h, List.length_cons] at this; omega⟩)
    | _ => some ([part], rest)
termination_by cs.length
decreasing_by have := rest.2; rw [h, List.length_cons] at this; omega

/-- The key with some parts, if they are not too many. -/
def Path.ofParts? (parts : List String) : Option Path :=
  if parts.length ≤ greatestDepth then parts.getLast?.map fun last => ⟨parts.dropLast, last⟩ else none

/-- Reads a key. -/
def key (cs : List Char) : Option (Path × Rest cs) := do
  let (parts, rest) ← keyParts cs
  let path ← Path.ofParts? parts
  some (path, rest)

/-- Takes a character off the front of a text. -/
def mark (c : Char) : (cs : List Char) → Option (Rest cs)
  | [] => none
  | d :: cs => if d = c then some ((RestOrAll.all cs).behind d) else none

/-- Passes over a comment, if one stands here. -/
def skipComment : (cs : List Char) → RestOrAll cs
  | '#' :: cs => ((skipFront isPlain cs).behind '#').weaken
  | cs => RestOrAll.all cs

/-- Passes over blanks, new lines, and comments that a new line ends. -/
def skipSpace (cs : List Char) : RestOrAll cs :=
  let front := skipBlanks cs
  let rest := front.andThen (skipComment front.1)
  match newLine? rest.1 with
  | some rest' => rest.andThen (rest'.andThen (skipSpace rest'.1)).weaken
  | none => front
termination_by cs.length
decreasing_by have := rest.2; have := rest'.2; omega

/-- Passes over what may follow an entry or a header: blanks, a comment, and the end of the line or of the text. -/
def endLine (cs : List Char) : Option (RestOrAll cs) :=
  let front := skipBlanks cs
  let rest := front.andThen (skipComment front.1)
  if rest.1.isEmpty then some rest else (newLine? rest.1).map fun rest' => rest.andThen rest'.weaken

mutual

/-- Reads a value, in which containers may nest to a depth. -/
def value (depth : Nat) (cs : List Char) : Option (Value × Rest cs) :=
  match cs with
  | '[' :: cs =>
    if depth = 0 then none
    else
      match items (depth - 1) cs with
      | none => none
      | some (vs, rest) => some (.array vs, rest.behind '[')
  | '\x7b' :: cs =>
    if depth = 0 then none
    else
      match mark '\x7d' (skipBlanks cs).1 with
      | some rest => some (.table .inline [], ((skipBlanks cs).andThenRest rest).behind '\x7b')
      | none =>
        match entries (depth - 1) cs with
        | none => none
        | some (es, rest) => (Value.inlineTable? es).map fun v => (v, rest.behind '\x7b')
  | cs =>
    match anyString cs with
    | some (s, rest) => some (.string (String.ofList s), rest)
    | none => scalar cs
termination_by (cs.length, 0)
decreasing_by
  · exact Prod.Lex.left _ _ (by simp only [List.length_cons]; omega)
  · exact Prod.Lex.left _ _ (by simp only [List.length_cons]; omega)

/-- Reads the items of an array behind its bracket or a comma, up to and with its end. -/
def items (depth : Nat) (cs : List Char) : Option (List Value × Rest cs) :=
  let front := skipSpace cs
  match mark ']' front.1 with
  | some rest => some ([], front.andThenRest rest)
  | none =>
    match value depth front.1 with
    | none => none
    | some (v, rest) =>
      let rest := (front.andThenRest rest).andThen (skipSpace rest.1)
      match mark ',' rest.1, mark ']' rest.1 with
      | some rest', _ =>
        match items depth rest'.1 with
        | none => none
        | some (vs, rest'') => some (v :: vs, (rest.andThen rest'.weaken).andThen rest''.weaken)
      | none, some rest' => some ([v], rest.andThen rest'.weaken)
      | none, none => none
termination_by (cs.length, 1)
decreasing_by
  · have := front.2
    rcases Nat.lt_or_eq_of_le this with h | h
    · exact Prod.Lex.left _ _ h
    · rw [h]; exact Prod.Lex.right _ (by decide)
  · exact Prod.Lex.left _ _ (by have := rest.2; have := rest'.2; omega)

/-- Reads the entries of a table in braces behind its brace or a comma, up to and with its end. -/
def entries (depth : Nat) (cs : List Char) : Option (List (Path × Value) × Rest cs) :=
  match key cs with
  | none => none
  | some (path, rest) =>
    match mark '=' rest.1 with
    | none => none
    | some rest' =>
      let front := (rest.andThen rest'.weaken).andThen (skipBlanks rest'.1)
      match value depth front.1 with
      | none => none
      | some (v, rest) =>
        let rest := (front.andThen rest.weaken).andThen (skipBlanks rest.1)
        match mark ',' rest.1, mark '\x7d' rest.1 with
        | some rest', _ =>
          match entries depth rest'.1 with
          | none => none
          | some (es, rest'') => some ((path, v) :: es, (rest.andThen rest'.weaken).andThen rest''.weaken)
        | none, some rest' => some ([(path, v)], rest.andThen rest'.weaken)
        | none, none => none
termination_by (cs.length, 0)
decreasing_by
  · exact Prod.Lex.left _ _ front.2
  · exact Prod.Lex.left _ _ (by have := rest.2; have := rest'.2; omega)

end

namespace Line

/-- Reads an entry with the end of its line. -/
def readEntry (cs : List Char) : Option (Line × Rest cs) := do
  let (path, rest) ← key cs
  let rest' ← mark '=' rest.1
  let front := (rest.andThen rest'.weaken).andThen (skipBlanks rest'.1)
  let (v, rest) ← value greatestDepth front.1
  let rest' ← endLine rest.1
  some (.entry path v, (front.andThen rest.weaken).andThen rest')

/-- Reads a header behind its bracket, with the end of its line. -/
def readHeader (cs : List Char) : Option (Line × Rest cs) := do
  let (path, rest) ← key cs
  let rest' ← mark ']' rest.1
  let rest'' ← endLine rest'.1
  some (.header path, (rest.andThen rest'.weaken).andThen rest'')

/-- Reads a header behind its two brackets, with the end of its line. -/
def readElement (cs : List Char) : Option (Line × Rest cs) := do
  let (path, rest) ← key cs
  let rest₁ ← mark ']' rest.1
  let rest₂ ← mark ']' rest₁.1
  let rest₃ ← endLine rest₂.1
  some (.element path, ((rest.andThen rest₁.weaken).andThen rest₂.weaken).andThen rest₃)

/-- Reads an entry or a header, with the end of its line. -/
def read : (cs : List Char) → Option (Line × Rest cs)
  | '[' :: '[' :: cs => (readElement cs).map fun (line, rest) => (line, (rest.behind '[').behind '[')
  | '[' :: cs => (readHeader cs).map fun (line, rest) => (line, rest.behind '[')
  | cs => readEntry cs

/-- Reads the lines of a text. -/
def all (cs : List Char) : Option (List Line) :=
  let front := skipSpace cs
  let final := front.andThen (skipComment front.1)
  if final.1.isEmpty then some []
  else
    match read front.1 with
    | none => none
    | some (line, rest) =>
      match all rest.1 with
      | none => none
      | some lines => some (line :: lines)
termination_by cs.length
decreasing_by have := front.2; have := rest.2; omega

end Line

/-- A text without the byte order mark at its front, if it has one. -/
def withoutMark : List Char → List Char
  | '\ufeff' :: cs => cs
  | cs => cs

/-- Reads the entries of a document. -/
def ofText? (s : String) : Option Entries := (Line.all (withoutMark s.toList)).bind Document.ofLines

end MonitorQuery.Toml
