import MonitorQuery.Json.Value
import MonitorQuery.Text.Hexadecimal

/-!
JSON texts.

`compact` writes a value without white space, `pretty` with one member or item to a line and two blanks for each
level; an empty container stays on its line. A string escapes the quotation mark, the backslash and the control
characters below U+0020, five of which have letters of their own.
-/

namespace MonitorQuery.Json

/-- A character inside a string. -/
def escapeChar (c : Char) : List Char :=
  if c = '\x22' then ['\\', '\x22']
  else if c = '\\' then ['\\', '\\']
  else if c = '\x08' then ['\\', 'b']
  else if c = '\t' then ['\\', 't']
  else if c = '\n' then ['\\', 'n']
  else if c = '\x0c' then ['\\', 'f']
  else if c = '\r' then ['\\', 'r']
  else if c.toNat < 32 then
    ['\\', 'u', '0', '0', Text.Hexadecimal.lower (c.toNat / 16), Text.Hexadecimal.lower (c.toNat % 16)]
  else [c]

/-- A string with its quotation marks. -/
def quoted (s : String) : List Char := '\x22' :: (s.toList.flatMap escapeChar ++ ['\x22'])

/-- The white space of a layout: what stands before each member or item at a level, before the bracket that ends a
container at a level, and behind the colon of a member. -/
structure Layout where
  beforeItem : Nat → List Char
  beforeEnd : Nat → List Char
  afterColon : List Char

namespace Layout

/-- No white space at all. -/
def compact : Layout := ⟨fun _ => [], fun _ => [], []⟩

/-- A new line with two blanks for each level. -/
def newLine (level : Nat) : List Char := '\n' :: List.replicate (2 * level) ' '

/-- One member or item to a line. -/
def pretty : Layout := ⟨fun level => newLine (level + 1), newLine, [' ']⟩

end Layout

/-- The parts of a container with commas between them, each behind its white space, inside brackets. -/
def bracketed (layout : Layout) (level : Nat) (left right : Char) (parts : List (List Char)) : List Char :=
  match parts with
  | [] => [left, right]
  | part :: parts =>
    left :: layout.beforeItem level ++ part ++
      parts.flatMap (fun part => ',' :: layout.beforeItem level ++ part) ++ layout.beforeEnd level ++ [right]

namespace Value

mutual

/-- The text of a value at a level of a layout. -/
def toChars (layout : Layout) (level : Nat) : Value → List Char
  | null => ['n', 'u', 'l', 'l']
  | truth true => ['t', 'r', 'u', 'e']
  | truth false => ['f', 'a', 'l', 's', 'e']
  | number text => text.toList
  | string s => quoted s
  | array items => bracketed layout level '[' ']' (itemTexts layout (level + 1) items)
  | object members => bracketed layout level '\x7b' '\x7d' (memberTexts layout (level + 1) members)

/-- The texts of the items of an array. -/
def itemTexts (layout : Layout) (level : Nat) : List Value → List (List Char)
  | [] => []
  | item :: items => toChars layout level item :: itemTexts layout level items

/-- The texts of the members of an object. -/
def memberTexts (layout : Layout) (level : Nat) : List (String × Value) → List (List Char)
  | [] => []
  | (name, value) :: members =>
    (quoted name ++ ':' :: layout.afterColon ++ toChars layout level value) ::
      memberTexts layout level members

end

/-- A value without white space. -/
def compact (v : Value) : String := String.ofList (v.toChars .compact 0)

/-- A value with one member or item to a line. -/
def pretty (v : Value) : String := String.ofList (v.toChars .pretty 0)

end Value

end MonitorQuery.Json
