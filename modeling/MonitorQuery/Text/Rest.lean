/-!
What is left of a text when something has been read off its front.

A reader that returns a rest with the proof that it is shorter (`Rest`) or no longer (`RestOrAll`) lets its
callers recurse on the length of the text. The compositions of the two are all that a reader needs besides.
-/

namespace MonitorQuery.Text

/-- A shorter text, left when something has been read off the front of another. -/
abbrev Rest (cs : List Char) := { rest : List Char // rest.length < cs.length }

/-- A text no longer than another, left when something may have been read off its front. -/
abbrev RestOrAll (cs : List Char) := { rest : List Char // rest.length ≤ cs.length }

namespace RestOrAll

/-- Nothing has been read. -/
def all (cs : List Char) : RestOrAll cs := ⟨cs, Nat.le_refl _⟩

/-- What is left of what was left. -/
def andThen {cs : List Char} (r : RestOrAll cs) (s : RestOrAll r.1) : RestOrAll cs :=
  ⟨s.1, Nat.le_trans s.2 r.2⟩

/-- What is left of what was left, when the second reader has read something. -/
def andThenRest {cs : List Char} (r : RestOrAll cs) (s : Rest r.1) : Rest cs :=
  ⟨s.1, Nat.lt_of_lt_of_le s.2 r.2⟩

/-- What is left behind a first character. -/
def behind {cs : List Char} (c : Char) (r : RestOrAll cs) : Rest (c :: cs) :=
  ⟨r.1, Nat.lt_succ_of_le r.2⟩

end RestOrAll

namespace Rest

/-- A rest that is shorter is no longer. -/
def weaken {cs : List Char} (r : Rest cs) : RestOrAll cs := ⟨r.1, Nat.le_of_lt r.2⟩

/-- What is left of what was left. -/
def andThen {cs : List Char} (r : Rest cs) (s : RestOrAll r.1) : Rest cs :=
  ⟨s.1, Nat.lt_of_le_of_lt s.2 r.2⟩

/-- What is left behind a first character. -/
def behind {cs : List Char} (c : Char) (r : Rest cs) : Rest (c :: cs) := r.weaken.behind c

end Rest

/-- Takes the characters with a property off the front of a text. -/
def takeFront (p : Char → Bool) (cs : List Char) : List Char × RestOrAll cs :=
  (cs.takeWhile p, ⟨cs.dropWhile p, (List.dropWhile_sublist p).length_le⟩)

/-- Passes over the characters with a property at the front of a text. -/
def skipFront (p : Char → Bool) (cs : List Char) : RestOrAll cs := (takeFront p cs).2

end MonitorQuery.Text
