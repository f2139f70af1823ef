import MonitorQuery.Text.Hexadecimal

/-!
Percent-encoding of a URI component.

A character is either kept or written as the bytes of its UTF-8 form, each as `%` and two upper-case
hexadecimal digits (`encodeChar`). Kept are the ASCII letters and digits and `-_.~!'()*`. The encoding
of a text is that of its characters one after the other, so it is a homomorphism of texts
(`encode_append`). `revealControls` encodes only the control characters of a text and leaves all else.
-/

namespace MonitorQuery.Text.Percent

/-- The punctuation that a component keeps. -/
def keptPunctuation : List Char := ['-', '_', '.', '~', '!', '\x27', '(', ')', '*']

/-- The characters that stand for themselves in a component. -/
def isKept (c : Char) : Bool := c.isAlphanum || keptPunctuation.contains c

/-- The three characters of one encoded byte. -/
def encodeByte (b : UInt8) : List Char :=
  ['%', Hexadecimal.upper (b.toNat / 16), Hexadecimal.upper (b.toNat % 16)]

/-- Every byte of the UTF-8 form of a character, encoded. -/
def escapeChar (c : Char) : List Char := (String.utf8EncodeChar c).flatMap encodeByte

/-- A character as it stands in a component. -/
def encodeChar (c : Char) : List Char := if isKept c then [c] else escapeChar c

/-- The characters of a text, encoded for a component. -/
def encodeChars (cs : List Char) : List Char := cs.flatMap encodeChar

/-- A text encoded for a component. -/
def encode (s : String) : String := String.ofList (encodeChars s.toList)

@[simp] theorem toList_encode (s : String) : (encode s).toList = encodeChars s.toList := by
  simp [encode]

theorem encodeChars_append (cs ds : List Char) :
    encodeChars (cs ++ ds) = encodeChars cs ++ encodeChars ds := by
  simp [encodeChars]

/-- The encoding is a homomorphism of texts. -/
theorem encode_append (s t : String) : encode (s ++ t) = encode s ++ encode t := by
  simp [encode, encodeChars_append]

/-- The control characters: the Unicode category `Cc`. -/
def isControl (c : Char) : Bool := c.toNat < 0x20 || (0x7F ≤ c.toNat && c.toNat ≤ 0x9F)

/-- A text with its control characters encoded and all else as it is. -/
def revealControls (s : String) : String :=
  String.ofList (s.toList.flatMap fun c => if isControl c then escapeChar c else [c])

end MonitorQuery.Text.Percent
