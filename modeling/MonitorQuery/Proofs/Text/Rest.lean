import Mathlib.Data.List.DropRight
import MonitorQuery.Text.Rest

/-!
What a reader gives and leaves.

A reader returns what is left of a text with the proof that it is shorter, or no longer. What it reads has nothing to do with
the proof.

* `Reads`: a reader gives a value and leaves a rest.
* `takeWhile_append_of_head`, `dropWhile_append_of_head`: a text is cut where a property of its characters ends;
  `takeFront_append_of_head`, `skipFront_append_of_head`: the same of the readers.
* `rtakeWhile_append_of_getLast`, `rdropWhile_append_of_getLast`: the same from the end of a text.
-/

namespace MonitorQuery.Text

/-- The reader gives a value and leaves a rest. -/
def Reads {α : Type} {P : List Char → Prop} (result : Option (α × Subtype P)) (a : α) (rest : List Char) : Prop :=
  ∃ h, result = some (a, ⟨rest, h⟩)

section Front

variable {p : Char → Bool} {cs rest : List Char}

/-- A text is cut where a property of its characters ends. -/
lemma takeWhile_append_of_head (hcs : ∀ c ∈ cs, p c = true) (hrest : ∀ c ∈ rest.head?, p c = false) :
    (cs ++ rest).takeWhile p = cs := by
  rw [List.takeWhile_append_of_pos hcs]
  cases rest with
  | nil => simp
  | cons c rest => rw [List.takeWhile_cons_of_neg (by simp [hrest c rfl]), List.append_nil]

lemma dropWhile_append_of_head (hcs : ∀ c ∈ cs, p c = true) (hrest : ∀ c ∈ rest.head?, p c = false) :
    (cs ++ rest).dropWhile p = rest := by
  rw [List.dropWhile_append_of_pos hcs]
  cases rest with
  | nil => simp
  | cons c rest => rw [List.dropWhile_cons_of_neg (by simp [hrest c rfl])]

lemma takeFront_append_of_head (hcs : ∀ c ∈ cs, p c = true) (hrest : ∀ c ∈ rest.head?, p c = false) :
    ∃ h, takeFront p (cs ++ rest) = (cs, ⟨rest, h⟩) :=
  ⟨by simp, Prod.ext (takeWhile_append_of_head hcs hrest) (Subtype.ext (dropWhile_append_of_head hcs hrest))⟩

lemma skipFront_append_of_head (hcs : ∀ c ∈ cs, p c = true) (hrest : ∀ c ∈ rest.head?, p c = false) :
    (skipFront p (cs ++ rest)).1 = rest :=
  dropWhile_append_of_head hcs hrest

/-- Nothing is passed over where the first character has not the property. -/
lemma skipFront_of_head (hcs : ∀ c ∈ cs.head?, p c = false) : (skipFront p cs).1 = cs := by
  have hnone : ∀ c ∈ ([] : List Char), p c = true := by simp
  exact skipFront_append_of_head hnone hcs

end Front

section Back

variable {p : Char → Bool} {cs rest : List Char}

/-- From its end, a text is cut where a property of its characters begins. -/
lemma rtakeWhile_append_of_getLast (hcs : ∀ c ∈ cs.getLast?, p c = false) (hrest : ∀ c ∈ rest, p c = true) :
    (cs ++ rest).rtakeWhile p = rest := by
  have hhead : ∀ c ∈ cs.reverse.head?, p c = false := by simpa using hcs
  have hall : ∀ c ∈ rest.reverse, p c = true := by simpa using hrest
  rw [List.rtakeWhile, List.reverse_append, takeWhile_append_of_head hall hhead, List.reverse_reverse]

lemma rdropWhile_append_of_getLast (hcs : ∀ c ∈ cs.getLast?, p c = false) (hrest : ∀ c ∈ rest, p c = true) :
    (cs ++ rest).rdropWhile p = cs := by
  have hhead : ∀ c ∈ cs.reverse.head?, p c = false := by simpa using hcs
  have hall : ∀ c ∈ rest.reverse, p c = true := by simpa using hrest
  rw [List.rdropWhile, List.reverse_append, dropWhile_append_of_head hall hhead, List.reverse_reverse]

end Back

end MonitorQuery.Text
