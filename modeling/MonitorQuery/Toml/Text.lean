import MonitorQuery.Text.Numbered
import MonitorQuery.Text.Rest

/-!
The strings of TOML, read.

There are four forms: between single or triple marks, and with quotation marks, where a backslash escapes, or with
apostrophes, where it does not. No form holds a control character other than the tab; the triple forms hold
new lines besides, written as one character or two and read as one, and the first of them does not count when it
stands at the very front. A run of up to five marks ends a triple form: the last three are the end, the others
belong to the string.
-/

namespace MonitorQuery.Toml

open MonitorQuery.Text

/-- The characters that may stand in a string or a comment: the tab, and all but the control characters below U+0080. -/
def isPlain (c : Char) : Bool := c == '\t' || (0x20 ≤ c.toNat && c.toNat != 0x7F)

/-- The blanks between the parts of a line. -/
def isBlank (c : Char) : Bool := c == ' ' || c == '\t'

/-- Takes a new line off the front of a text. -/
def newLine? : (cs : List Char) → Option (Rest cs)
  | '\n' :: cs => some ((RestOrAll.all cs).behind '\n')
  | '\r' :: '\n' :: cs => some (((RestOrAll.all cs).behind '\n').behind '\r')
  | _ => none

/-- The character that a letter behind a backslash stands for. -/
def escapeLetter? (c : Char) : Option Char :=
  if c = '\x22' || c = '\\' then some c
  else if c = 'b' then some '\x08'
  else if c = 't' then some '\t'
  else if c = 'n' then some '\n'
  else if c = 'f' then some '\x0c'
  else if c = 'r' then some '\r'
  else none

/-- Reads what follows a backslash. -/
def escape : (cs : List Char) → Option (Char × Rest cs)
  | [] => none
  | c :: cs =>
    if c = 'u' then (numbered 4 cs).map fun (d, rest) => (d, rest.behind c)
    else if c = 'U' then (numbered 8 cs).map fun (d, rest) => (d, rest.behind c)
    else (escapeLetter? c).map fun d => (d, (RestOrAll.all cs).behind c)

/-- Reads a string behind its quotation mark, up to and with the next that is not escaped. -/
def basicBody (cs : List Char) : Option (List Char × Rest cs) :=
  match cs with
  | [] => none
  | c :: cs =>
    if c = '\x22' then some ([], (RestOrAll.all cs).behind c)
    else if c = '\\' then
      match escape cs with
      | none => none
      | some (d, rest) =>
        match basicBody rest.1 with
        | none => none
        | some (ds, rest') => some (d :: ds, (rest.andThen rest'.weaken).behind c)
    else if isPlain c then
      match basicBody cs with
      | none => none
      | some (ds, rest) => some (c :: ds, rest.behind c)
    else none
termination_by cs.length
decreasing_by
  · have := rest.2; simp only [List.length_cons]; omega
  · simp only [List.length_cons]; omega

/-- Reads a string behind its apostrophe, up to and with the next. -/
def literalBody : (cs : List Char) → Option (List Char × Rest cs)
  | [] => none
  | c :: cs =>
    if c = '\x27' then some ([], (RestOrAll.all cs).behind c)
    else if isPlain c then (literalBody cs).map fun (ds, rest) => (c :: ds, rest.behind c)
    else none

/-- Passes over blanks and new lines. -/
def skipLines (cs : List Char) : RestOrAll cs :=
  let rest := skipFront isBlank cs
  match newLine? rest.1 with
  | none => rest
  | some rest' => rest.andThen (rest'.andThen (skipLines rest'.1)).weaken
termination_by cs.length
decreasing_by have := rest.2; have := rest'.2; omega

/-- Passes over the white space of the lines behind a backslash that ends a line; there is none if the backslash
does not end its line. -/
def continuation? (cs : List Char) : Option (Rest cs) :=
  let rest := skipFront isBlank cs
  match newLine? rest.1 with
  | none => none
  | some rest' => some ((rest.andThenRest rest').andThen (skipLines rest'.1))

/-- Takes a run of marks off the front of a text that begins with one: how many of them belong to the string, and
whether the run ends it. Of more than five, five are taken. -/
def markRun (mark : Char) (cs : List Char) : Nat × Bool × RestOrAll cs :=
  let n := min (cs.takeWhile (· == mark)).length 5
  (if n < 3 then n else n - 3, 3 ≤ n, ⟨cs.drop n, by simp⟩)

/-- Reads a string behind three quotation marks, up to and with the next three. -/
def multilineBasicBody (cs : List Char) : Option (List Char × RestOrAll cs) :=
  match cs with
  | [] => none
  | c :: cs =>
    if c = '\x22' then
      let (own, ends, rest) := markRun '\x22' (c :: cs)
      if ends then some (List.replicate own '\x22', rest)
      else
        match multilineBasicBody cs with
        | none => none
        | some (ds, rest) => some (c :: ds, (rest.behind c).weaken)
    else if c = '\\' then
      match continuation? cs with
      | some rest =>
        match multilineBasicBody rest.1 with
        | none => none
        | some (ds, rest') => some (ds, ((rest.andThen rest').behind c).weaken)
      | none =>
        match escape cs with
        | none => none
        | some (d, rest) =>
          match multilineBasicBody rest.1 with
          | none => none
          | some (ds, rest') => some (d :: ds, ((rest.andThen rest').behind c).weaken)
    else if isPlain c then
      match multilineBasicBody cs with
      | none => none
      | some (ds, rest) => some (c :: ds, (rest.behind c).weaken)
    else
      match newLine? (c :: cs) with
      | none => none
      | some rest =>
        match multilineBasicBody rest.1 with
        | none => none
        | some (ds, rest') => some ('\n' :: ds, (rest.andThen rest').weaken)
termination_by cs.length
decreasing_by
  · simp only [List.length_cons]; omega
  · have := rest.2; simp only [List.length_cons]; omega
  · have := rest.2; simp only [List.length_cons]; omega
  · simp only [List.length_cons]; omega
  · exact rest.2

/-- Reads a string behind three apostrophes, up to and with the next three. -/
def multilineLiteralBody (cs : List Char) : Option (List Char × RestOrAll cs) :=
  match cs with
  | [] => none
  | c :: cs =>
    if c = '\x27' then
      let (own, ends, rest) := markRun '\x27' (c :: cs)
      if ends then some (List.replicate own '\x27', rest)
      else
        match multilineLiteralBody cs with
        | none => none
        | some (ds, rest) => some (c :: ds, (rest.behind c).weaken)
    else if isPlain c then
      match multilineLiteralBody cs with
      | none => none
      | some (ds, rest) => some (c :: ds, (rest.behind c).weaken)
    else
      match newLine? (c :: cs) with
      | none => none
      | some rest =>
        match multilineLiteralBody rest.1 with
        | none => none
        | some (ds, rest') => some ('\n' :: ds, (rest.andThen rest').weaken)
termination_by cs.length
decreasing_by
  · simp only [List.length_cons]; omega
  · simp only [List.length_cons]; omega
  · exact rest.2

/-- Passes over a new line at the very front of a string in triple marks. -/
def skipNewLine (cs : List Char) : RestOrAll cs :=
  match newLine? cs with
  | some rest => rest.weaken
  | none => RestOrAll.all cs

/-- Reads a string on one line, or nothing if the text begins with none. -/
def lineString : (cs : List Char) → Option (List Char × Rest cs)
  | '\x22' :: cs => (basicBody cs).map fun (s, rest) => (s, rest.behind '\x22')
  | '\x27' :: cs => (literalBody cs).map fun (s, rest) => (s, rest.behind '\x27')
  | _ => none

/-- Reads a string in any form. -/
def anyString : (cs : List Char) → Option (List Char × Rest cs)
  | '\x22' :: '\x22' :: '\x22' :: cs =>
    let front := skipNewLine cs
    (multilineBasicBody front.1).map fun (s, rest) =>
      (s, (((front.andThen rest).behind '\x22').behind '\x22').behind '\x22')
  | '\x27' :: '\x27' :: '\x27' :: cs =>
    let front := skipNewLine cs
    (multilineLiteralBody front.1).map fun (s, rest) =>
      (s, (((front.andThen rest).behind '\x27').behind '\x27').behind '\x27')
  | cs => lineString cs

end MonitorQuery.Toml
