/-!
How far a text extends in bytes, and cutting it by bytes.

The extent of a text is the number of bytes of its UTF-8 form. Places in a text are counted in the same unit from its
beginning.
-/

namespace MonitorQuery.Text

/-- The number of bytes that characters take in UTF-8. -/
def extent : List Char → Nat
  | [] => 0
  | c :: cs => c.utf8Size + extent cs

/-- What begins at a place or behind it. -/
def dropExtent : Nat → List Char → List Char
  | _, [] => []
  | n, c :: cs => if n = 0 then c :: cs else dropExtent (n - c.utf8Size) cs

/-- What ends at a place or before it. -/
def takeExtent : Nat → List Char → List Char
  | _, [] => []
  | n, c :: cs => if n < c.utf8Size then [] else c :: takeExtent (n - c.utf8Size) cs

/-- What stands between two places. -/
def cut (start stop : Nat) (cs : List Char) : List Char := takeExtent (stop - start) (dropExtent start cs)

theorem extent_append (cs ds : List Char) : extent (cs ++ ds) = extent cs + extent ds := by
  induction cs with
  | nil => simp [extent]
  | cons c cs ih => simp [extent, ih, Nat.add_assoc]

@[simp] theorem dropExtent_zero (cs : List Char) : dropExtent 0 cs = cs := by
  cases cs <;> simp [dropExtent]

/-- What begins behind a text is what was put there. -/
theorem dropExtent_extent_append (cs ds : List Char) : dropExtent (extent cs) (cs ++ ds) = ds := by
  induction cs with
  | nil => simp [extent]
  | cons c cs ih =>
    have := c.utf8Size_pos
    simp only [extent, List.cons_append, dropExtent]
    rw [if_neg (by omega), Nat.add_sub_cancel_left, ih]

/-- What ends where a text ends is the text. -/
theorem takeExtent_extent_append (cs ds : List Char) : takeExtent (extent cs) (cs ++ ds) = cs := by
  induction cs with
  | nil =>
    cases ds with
    | nil => rfl
    | cons d ds =>
      have := d.utf8Size_pos
      simp [extent, takeExtent, this]
  | cons c cs ih =>
    simp only [extent, List.cons_append, takeExtent]
    rw [if_neg (by omega), Nat.add_sub_cancel_left, ih]

/-- A text between two others is what stands between its ends. -/
theorem cut_append (cs ds es : List Char) :
    cut (extent cs) (extent cs + extent ds) (cs ++ (ds ++ es)) = ds := by
  rw [cut, dropExtent_extent_append, Nat.add_sub_cancel_left, takeExtent_extent_append]

end MonitorQuery.Text
