import MonitorQuery.Text.Extending
import MonitorQuery.Text.Hexadecimal
import MonitorQuery.Text.Unprintable

/-!
Texts between quotation marks.

Within the marks, a quotation mark and a backslash have a backslash before them, four control characters have short
names, and what has nothing to show or would join the character before it is written by its number. So a quoted text
is one line in which every character can be told from its neighbours.
-/

namespace MonitorQuery.Text

/-- A character by its number, in base 16 with lower-case digits. -/
def byNumber (c : Char) : List Char := ['\\', 'u', '\x7b'] ++ Nat.toDigits 16 c.toNat ++ ['\x7d']

/-- A character as it stands between quotation marks. -/
def quotedChar (c : Char) : List Char :=
  if c = '\x22' || c = '\\' then ['\\', c]
  else if c = '\n' then ['\\', 'n']
  else if c = '\r' then ['\\', 'r']
  else if c = '\t' then ['\\', 't']
  else if c = '\x00' then ['\\', '0']
  else if isExtending c || isUnprintable c then byNumber c
  else [c]

/-- A text between quotation marks. -/
def quoted (s : String) : String := String.ofList ('\x22' :: s.toList.flatMap quotedChar ++ ['\x22'])

/-- Quotation goes character by character. -/
theorem toList_quoted (s : String) :
    (quoted s).toList = '\x22' :: s.toList.flatMap quotedChar ++ ['\x22'] := by
  simp [quoted]

end MonitorQuery.Text
