import MonitorQuery.Text.Alphanumeric
import MonitorQuery.Text.Numbered

/-!
Patterns for the values of fields.

A pattern is a regular expression: alternatives, groups, classes in brackets, escapes, and the repetitions `*`, `+`
and `?`. A count in braces cannot occur, because a closing brace ends the field. No pattern is ever matched here; all
that counts is whether a text is one (`check`), and whether it asks for the boundaries of words, which are not
offered.
-/

namespace MonitorQuery.Cli.Log.Pattern

open MonitorQuery.Text

/-- Why a text is refused as a pattern. -/
inductive Fault
  /-- It is no regular expression. -/
  | malformed
  /-- It asks for the boundary of a word. -/
  | boundary
  deriving DecidableEq, Repr

/-- What an escape stands for. -/
inductive Escape
  | char (c : Char)
  | set
  | anchor
  | boundary
  deriving DecidableEq, Repr

namespace Escape

/-- The control characters that have a letter. -/
def controls : List (Char × Char) :=
  [('a', '\x07'), ('f', '\x0c'), ('t', '\t'), ('n', '\n'), ('r', '\r'), ('v', '\x0b')]

/-- What the letter behind a backslash stands for when it stands alone. -/
def ofLetter? (c : Char) : Option Escape :=
  if ['d', 's', 'w', 'D', 'S', 'W'].contains c then some .set
  else if c == 'A' || c == 'z' then some .anchor
  else if ['b', 'B', '<', '>'].contains c then some .boundary
  else
    match controls.lookup c with
    | some d => some (.char d)
    | none => if c.toNat < 0x80 && !c.isAlphanum then some (.char c) else none

/-- The number of digits behind the letters that write a character by its number. -/
def digitCounts : List (Char × Nat) := [('x', 2), ('u', 4), ('U', 8)]

/-- The letters of the general categories. -/
def categories : List Char := ['c', 'l', 'm', 'n', 'p', 's', 'z']

/-- Reads what stands behind a backslash. -/
def read? : (cs : List Char) → Option (Escape × Rest cs)
  | [] => none
  | c :: cs =>
    match digitCounts.lookup c with
    | some count => (numbered count cs).map fun (d, r) => (.char d, r.behind c)
    | none =>
      if c == 'p' || c == 'P' then
        match cs with
        | [] => none
        | d :: ds =>
          if categories.contains d.toLower then some (.set, ((RestOrAll.all ds).behind d).behind c) else none
      else (ofLetter? c).map fun e => (e, (RestOrAll.all cs).behind c)

end Escape

/-! ### Classes in brackets -/

/-- The names of classes of ASCII characters. -/
def classNames : List (List Char) :=
  ["alnum".toList, "alpha".toList, "ascii".toList, "blank".toList, "cntrl".toList, "digit".toList, "graph".toList,
    "lower".toList, "print".toList, "punct".toList, "space".toList, "upper".toList, "word".toList, "xdigit".toList]

/-- Passes over one character. -/
def skipOne (c : Char) : (cs : List Char) → RestOrAll cs
  | [] => RestOrAll.all []
  | d :: cs => if d = c then ((RestOrAll.all cs).behind d).weaken else RestOrAll.all (d :: cs)

/-- Reads the rest of a named class, behind its bracket: `:`, the name with or without `^`, and `:]`. -/
def named? : (cs : List Char) → Option (Rest cs)
  | ':' :: cs =>
    let r := skipOne '^' cs
    let (name, s) := takeFront (· != ':') r.1
    match s.1, s.2 with
    | ':' :: ']' :: rest, h =>
      if classNames.contains name then
        some ⟨rest, by have := r.2; simp only [List.length_cons] at h ⊢; omega⟩
      else none
    | _, _ => none
  | _ => none

/-- Passes over what has a meaning of its own behind an opening bracket: `^`, and then hyphens or, without them, a
bracket that closes nothing. -/
def skipOpening (cs : List Char) : RestOrAll cs :=
  let r := skipOne '^' cs
  let s := skipFront (· == '-') r.1
  if s.1.length = r.1.length then r.andThen (skipOne ']' r.1) else r.andThen s

/-- Reads a character or a set, as it may stand in a class. -/
def member? : (cs : List Char) → Option (Escape × Rest cs)
  | [] => none
  | '\\' :: cs => (Escape.read? cs).map fun (e, r) => (e, r.behind '\\')
  | c :: cs => some (.char c, (RestOrAll.all cs).behind c)

/-- A member of a class that is no range. A place in the text is no member. -/
def single? {cs : List Char} (r : Rest cs) : Escape → Option (Rest cs)
  | .char _ => some r
  | .set => some r
  | .anchor => none
  | .boundary => none

/-- Reads the second end of a range, a character not before the first. -/
def rangeEnd? (e : Escape) (cs : List Char) : Option (Rest cs) :=
  match e, member? cs with
  | .char a, some (.char b, r) => if a ≤ b then some r else none
  | _, _ => none

/-- Reads a member of a class or a range of members. A hyphen before another hyphen or a closing bracket makes no
range. -/
def range? (cs : List Char) : Option (Rest cs) :=
  match member? cs with
  | none => none
  | some (e, ⟨'-' :: rest, h⟩) =>
    if rest.head? = some ']' || rest.head? = some '-' then single? ⟨'-' :: rest, h⟩ e
    else (rangeEnd? e rest).map fun r => ⟨r.1, Nat.lt_trans r.2 (Nat.lt_of_succ_lt h)⟩
  | some (e, r) => single? r e

/-- Reads a class to its end, so many open brackets deep behind the first. -/
def class? (depth : Nat) (cs : List Char) : Option (RestOrAll cs) :=
  match cs with
  | [] => none
  | c :: rest =>
    if c = ']' then
      match depth with
      | 0 => some ((RestOrAll.all rest).behind c).weaken
      | depth + 1 => (class? depth rest).map fun r => (r.behind c).weaken
    else if c = '[' then
      match named? rest with
      | some r => (class? depth r.1).map fun s => ((r.andThen s).behind c).weaken
      | none =>
        let r := skipOpening rest
        (class? (depth + 1) r.1).map fun s => ((r.andThen s).behind c).weaken
    else if (c = '&' || c = '-' || c = '~') && rest.head? = some c then
      match rest with
      | [] => none
      | d :: ds => (class? depth ds).map fun r => ((r.behind d).behind c).weaken
    else
      match range? (c :: rest) with
      | some r => (class? depth r.1).map fun s => (r.andThen s).weaken
      | none => none
  termination_by cs.length
  decreasing_by
    all_goals simp only [List.length_cons]
    · omega
    · have := r.2; omega
    · have := (skipOpening rest).2; omega
    · omega
    · have := r.2; simp only [List.length_cons] at this; omega

/-! ### Groups -/

/-- How a group opens. -/
inductive Opening
  | plain
  | named (name : List Char)
  /-- No group, but flags for what follows. -/
  | flags
  deriving DecidableEq, Repr

/-- The flags. -/
def flagLetters : List Char := ['i', 'm', 's', 'U', 'u', 'R', 'x']

/-- Flags, each at most once, with at most one minus sign in front of the last of them. -/
def areFlags (cs : List Char) : Bool :=
  cs.all (fun c => flagLetters.contains c || c == '-') && decide cs.Nodup && cs.getLast? != some '-'

/-- The name of a group. -/
def isGroupName : List Char → Bool
  | [] => false
  | c :: cs =>
    (c == '_' || (isAlphanumeric c && !c.isDigit)) &&
      cs.all fun d => d == '_' || d == '.' || d == '[' || d == ']' || isAlphanumeric d

/-- Reads the name of a group and the angle that closes it. -/
def groupName? (cs : List Char) : Option (Opening × RestOrAll cs) :=
  let (name, r) := takeFront (· != '>') cs
  match r.1, r.2 with
  | _ :: rest, h =>
    if isGroupName name then some (.named name, ⟨rest, by simp only [List.length_cons] at h; omega⟩) else none
  | [], _ => none

/-- Reads how a group opens, behind its parenthesis. -/
def opening? : (cs : List Char) → Option (Opening × RestOrAll cs)
  | '?' :: 'P' :: '<' :: cs =>
    (groupName? cs).map fun (o, r) => (o, (((r.behind '<').behind 'P').behind '?').weaken)
  | '?' :: '<' :: cs => (groupName? cs).map fun (o, r) => (o, ((r.behind '<').behind '?').weaken)
  | '?' :: cs =>
    let (flags, r) := takeFront (fun c => c != ':' && c != ')') cs
    if areFlags flags then
      match r.1, r.2 with
      | c :: rest, h =>
        let s : RestOrAll ('?' :: cs) := ⟨rest, by simp only [List.length_cons] at h ⊢; omega⟩
        if c = ':' then some (.plain, s) else if flags.isEmpty then none else some (.flags, s)
      | [], _ => none
    else none
  | cs => some (.plain, RestOrAll.all cs)

/-! ### Patterns -/

/-- What has been read of a pattern. -/
structure Progress where
  /-- The number of open groups. -/
  groups : Nat := 0
  /-- The names of groups. -/
  names : List (List Char) := []
  /-- Something stands in front that can be repeated. -/
  repeatable : Bool := false
  /-- The boundary of a word has been asked for. -/
  boundary : Bool := false

namespace Progress

/-- Something that can be repeated has been read. -/
def item (p : Progress) : Progress := { p with repeatable := true }

/-- A group has been opened. No two may have one name. -/
def opened? (p : Progress) : Opening → Option Progress
  | .plain => some { p with groups := p.groups + 1, repeatable := false }
  | .named name =>
    if p.names.contains name then none
    else some { p with groups := p.groups + 1, names := name :: p.names, repeatable := false }
  | .flags => some { p with repeatable := false }

/-- An escape has been read. -/
def escaped (p : Progress) (e : Escape) : Progress :=
  { p with repeatable := true, boundary := p.boundary || e == .boundary }

/-- Reads a pattern to its end. -/
def finish? (p : Progress) (cs : List Char) : Option Progress :=
  match cs with
  | [] => if p.groups = 0 then some p else none
  | c :: rest =>
    if c = '(' then
      match opening? rest with
      | some (o, r) =>
        match p.opened? o with
        | some q => q.finish? r.1
        | none => none
      | none => none
    else if c = ')' then
      match p.groups with
      | 0 => none
      | groups + 1 => { p with groups := groups, repeatable := true }.finish? rest
    else if c = '|' then { p with repeatable := false }.finish? rest
    else if c = '[' then
      let r := skipOpening rest
      match class? 0 r.1 with
      | some s => p.item.finish? s.1
      | none => none
    else if c = '?' || c = '*' || c = '+' then
      if p.repeatable then p.finish? (skipOne '?' rest).1 else none
    else if c = '\x7b' then none
    else if c = '\\' then
      match Escape.read? rest with
      | some (e, r) => (p.escaped e).finish? r.1
      | none => none
    else p.item.finish? rest
  termination_by cs.length
  decreasing_by
    all_goals simp only [List.length_cons]
    · have := r.2; omega
    · omega
    · omega
    · have := (skipOpening rest).2; have := s.2; omega
    · have := (skipOne '?' rest).2; omega
    · have := r.2; omega
    · omega

end Progress

/-- Checks that a text is a pattern. -/
def check (s : String) : Except Fault Unit :=
  match ({} : Progress).finish? s.toList with
  | some p => if p.boundary then .error .boundary else .ok ()
  | none => .error .malformed

end MonitorQuery.Cli.Log.Pattern
