import Mathlib.Data.List.DropRight
import MonitorQuery.Proofs.Text.Rest
import MonitorQuery.Text.Blank

/-!
Trimmed texts.

* `IsTrimmed`: a text neither begins nor ends in a blank.
* `isTrimmed_trimChars`: trimming gives such a text, and `IsTrimmed.trimChars_append`: it gives it back, whatever blanks are
  put around it.
* `IsTrimmed.trimChars_append_cons`: behind a trimmed text and a character that is no blank, only the end is trimmed.
* `length_trimChars_le`, `isTrimmed_of_length_le`: trimming makes a text no longer, and shorter unless it is trimmed already.
* `isBlank_eq_false`: the visible characters of ASCII are no blanks.
-/

namespace MonitorQuery.Text

/-- The characters between the space and the end of ASCII are no blanks. -/
lemma isBlank_eq_false {c : Char} (h : 32 < c.toNat ∧ c.toNat < 127) : isBlank c = false := by
  simp only [isBlank, Bool.or_eq_false_iff, Bool.and_eq_false_iff, decide_eq_false_iff_not, beq_eq_false_iff_ne]
  omega

/-- The text neither begins nor ends in a blank. -/
structure IsTrimmed (cs : List Char) : Prop where
  head : ∀ c ∈ cs.head?, isBlank c = false
  last : ∀ c ∈ cs.getLast?, isBlank c = false

lemma isTrimmed_iff_any {cs : List Char} :
    cs.head?.any isBlank = false ∧ cs.getLast?.any isBlank = false ↔ IsTrimmed cs := by
  rw [Option.any_eq_false, Option.any_eq_false]
  exact ⟨fun h => ⟨h.1, h.2⟩, fun h => ⟨h.head, h.last⟩⟩

instance : DecidablePred IsTrimmed := fun _ => decidable_of_iff _ isTrimmed_iff_any

lemma isTrimmed_of_forall {cs : List Char} (h : ∀ c ∈ cs, isBlank c = false) : IsTrimmed cs :=
  ⟨fun c hc => h c (List.mem_of_mem_head? hc), fun c hc => h c (List.mem_of_mem_getLast? hc)⟩

lemma isTrimmed_replicate {c : Char} (h : isBlank c = false) (n : ℕ) : IsTrimmed (List.replicate n c) :=
  isTrimmed_of_forall fun _ hd => List.eq_of_mem_replicate hd ▸ h

lemma IsTrimmed.append {cs ds : List Char} (hcs : IsTrimmed cs) (hds : IsTrimmed ds) : IsTrimmed (cs ++ ds) := by
  constructor
  · intro c hc
    rw [List.head?_append, Option.mem_def, Option.or_eq_some_iff] at hc
    rcases hc with hc | ⟨-, hc⟩
    · exact hcs.head c hc
    · exact hds.head c hc
  · intro c hc
    rw [List.getLast?_append, Option.mem_def, Option.or_eq_some_iff] at hc
    rcases hc with hc | ⟨-, hc⟩
    · exact hds.last c hc
    · exact hcs.last c hc

/-- What is trimmed at its end is a beginning of the text. -/
lemma trimEnd_isPrefix (cs : List Char) : trimEnd cs <+: cs := List.rdropWhile_prefix isBlank cs

lemma length_trimChars_le (cs : List Char) : (trimChars cs).length ≤ cs.length :=
  (trimEnd_isPrefix _).length_le.trans (List.dropWhile_suffix isBlank).length_le

/-- **A text that has been trimmed is trimmed.** -/
lemma isTrimmed_trimChars (cs : List Char) : IsTrimmed (trimChars cs) := by
  constructor
  · intro c hc
    obtain ⟨behind, hbehind⟩ := trimEnd_isPrefix (cs.dropWhile isBlank)
    have hhead := List.head?_dropWhile_not isBlank cs
    rw [← hbehind, List.head?_append, ← trimChars, Option.mem_def.mp hc] at hhead
    exact hhead
  · intro c hc
    have hlast := List.head?_dropWhile_not isBlank (cs.dropWhile isBlank).reverse
    rw [trimChars, trimEnd, List.getLast?_reverse, Option.mem_def] at hc
    rwa [hc] at hlast

/-- **Blanks around a trimmed text are taken off**, and nothing else. -/
lemma IsTrimmed.trimChars_append {before cs behind : List Char} (h : IsTrimmed cs)
    (hbefore : ∀ c ∈ before, isBlank c = true) (hbehind : ∀ c ∈ behind, isBlank c = true) :
    trimChars (before ++ cs ++ behind) = cs := by
  cases cs with
  | nil =>
      have hblank : ∀ c ∈ before ++ [] ++ behind, isBlank c = true := by
        intro c hc
        rw [List.append_nil, List.mem_append] at hc
        exact hc.elim (hbefore c) (hbehind c)
      rw [trimChars, List.dropWhile_eq_nil_iff.mpr hblank]
      rfl
  | cons d cs =>
      have hfront : (before ++ (d :: cs ++ behind)).dropWhile isBlank = d :: cs ++ behind :=
        dropWhile_append_of_head hbefore fun c hc => h.head c (by simpa using hc)
      have hback : trimEnd (d :: cs ++ behind) = d :: cs := rdropWhile_append_of_getLast h.last hbehind
      rw [trimChars, List.append_assoc, hfront, hback]

/-- Behind a character that is no blank only the end is trimmed. -/
lemma trimEnd_append_cons {d : Char} (hd : isBlank d = false) (cs ds : List Char) :
    trimEnd (cs ++ d :: ds) = cs ++ d :: trimEnd ds := by
  have hback : (d :: cs.reverse).dropWhile isBlank = d :: cs.reverse := List.dropWhile_cons_of_neg (by simp [hd])
  rw [trimEnd, List.reverse_append, List.reverse_cons, List.append_assoc, List.singleton_append, List.dropWhile_append, hback]
  split_ifs with hblank
  · rw [trimEnd, List.isEmpty_iff.mp hblank, List.reverse_cons, List.reverse_reverse, List.reverse_nil]
  · rw [List.reverse_append, List.reverse_cons, List.reverse_reverse, List.append_assoc, List.singleton_append, trimEnd]

/-- A trimmed text with more behind it is trimmed at the end alone. -/
lemma IsTrimmed.trimChars_append_cons {cs : List Char} (h : IsTrimmed cs) {d : Char} (hd : isBlank d = false) (ds : List Char) :
    trimChars (cs ++ d :: ds) = cs ++ d :: trimEnd ds := by
  have hnone : ∀ c ∈ ([] : List Char), isBlank c = true := by simp
  have hhead : ∀ c ∈ (cs ++ d :: ds).head?, isBlank c = false := by
    intro c hc
    rw [List.head?_append, Option.mem_def, Option.or_eq_some_iff] at hc
    rcases hc with hc | ⟨-, hc⟩
    · exact h.head c hc
    · exact Option.some.inj hc ▸ hd
  have hfront := dropWhile_append_of_head hnone hhead
  rw [List.nil_append] at hfront
  rw [trimChars, hfront, trimEnd_append_cons hd]

/-- A text stays as it is just if it is trimmed. -/
lemma trimChars_eq_self_iff {cs : List Char} : trimChars cs = cs ↔ IsTrimmed cs := by
  constructor
  · intro h
    exact h ▸ isTrimmed_trimChars cs
  · intro h
    have hnone : ∀ c ∈ ([] : List Char), isBlank c = true := by simp
    have htrim := h.trimChars_append hnone hnone
    rwa [List.nil_append, List.append_nil] at htrim

/-- A text that does not get shorter is trimmed. -/
lemma isTrimmed_of_length_le {cs : List Char} (h : cs.length ≤ (trimChars cs).length) : IsTrimmed cs := by
  have hfront : cs.dropWhile isBlank = cs :=
    (List.dropWhile_suffix isBlank).eq_of_length_le (h.trans (trimEnd_isPrefix _).length_le)
  have hback : trimEnd cs = cs := by
    refine (trimEnd_isPrefix cs).eq_of_length_le (h.trans_eq ?_)
    rw [trimChars, hfront]
  exact trimChars_eq_self_iff.mp (by rw [trimChars, hfront, hback])

end MonitorQuery.Text
