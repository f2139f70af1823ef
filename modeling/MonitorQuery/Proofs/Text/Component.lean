import Mathlib.Tactic
import MonitorQuery.Text.Percent

/-!
The alphabet of an encoded component.

* `toNat_of_isKept`: kept characters are ASCII, and neither blanks nor controls.
* `isKept_upper`: the hexadecimal digits of an encoded byte are themselves kept characters, so what an encoding
  adds to the kept characters is the percent sign alone (`mem_encodeChars`).
-/

namespace MonitorQuery.Text

/-- The upper-case digits are kept. -/
lemma Percent.isKept_upper {n : ℕ} (h : n < 16) : isKept (Hexadecimal.upper n) = true := by
  have all : ∀ i : Fin 16, isKept (Hexadecimal.upper i.1) = true := by decide
  exact all ⟨n, h⟩

namespace Percent

/-- The letters and digits stand between the controls and the end of ASCII. -/
lemma toNat_of_isAlphanum {c : Char} (h : c.isAlphanum = true) : 32 < c.toNat ∧ c.toNat < 127 := by
  change ((decide (0x41 ≤ c.val ∧ c.val ≤ 0x5A) || (decide (0x61 ≤ c.val) && decide (c.val ≤ 0x7A))) ||
    (decide (0x30 ≤ c.val) && decide (c.val ≤ 0x39))) = true at h
  simp only [Bool.or_eq_true, Bool.and_eq_true, decide_eq_true_eq, UInt32.le_iff_toNat_le] at h
  change ((65 ≤ c.toNat ∧ c.toNat ≤ 90) ∨ (97 ≤ c.toNat ∧ c.toNat ≤ 122)) ∨ (48 ≤ c.toNat ∧ c.toNat ≤ 57) at h
  omega

/-- So do all kept characters. -/
lemma toNat_of_isKept {c : Char} (h : isKept c = true) : 32 < c.toNat ∧ c.toNat < 127 := by
  rw [isKept, Bool.or_eq_true, List.contains_iff_mem] at h
  obtain h | h := h
  · exact toNat_of_isAlphanum h
  · have hall : ∀ d ∈ keptPunctuation, 32 < d.toNat ∧ d.toNat < 127 := by simp [keptPunctuation]
    exact hall c h

/-- An encoded byte consists of the percent sign and two kept characters. -/
lemma mem_encodeByte {b : UInt8} {c : Char} (h : c ∈ encodeByte b) : isKept c = true ∨ c = '%' := by
  have hb : b.toNat < 256 := b.toNat_lt
  simp only [encodeByte, List.mem_cons, List.not_mem_nil, or_false] at h
  rcases h with rfl | rfl | rfl
  · exact Or.inr rfl
  · exact Or.inl (isKept_upper (by omega))
  · exact Or.inl (isKept_upper (by omega))

/-- An encoded character consists of kept characters and percent signs. -/
lemma mem_encodeChar {c d : Char} (h : d ∈ encodeChar c) : isKept d = true ∨ d = '%' := by
  rw [encodeChar] at h
  split at h
  · next hc =>
      rw [List.mem_singleton.mp h]
      exact Or.inl hc
  · obtain ⟨b, -, hd⟩ := List.mem_flatMap.mp h
    exact mem_encodeByte hd

/-- A text of kept characters stands for itself. -/
lemma encodeChars_eq_self {cs : List Char} (h : ∀ c ∈ cs, isKept c = true) : encodeChars cs = cs := by
  induction cs with
  | nil => rfl
  | cons c cs ih =>
      obtain ⟨hc, hcs⟩ := List.forall_mem_cons.mp h
      have hcons : encodeChars (c :: cs) = encodeChar c ++ encodeChars cs := rfl
      rw [hcons, encodeChar, if_pos hc, ih hcs, List.singleton_append]

/-- **The alphabet of an encoding**: kept characters and the percent sign. -/
lemma mem_encodeChars {cs : List Char} {d : Char} (h : d ∈ encodeChars cs) :
    isKept d = true ∨ d = '%' := by
  obtain ⟨c, -, hd⟩ := List.mem_flatMap.mp h
  exact mem_encodeChar hd

end Percent

end MonitorQuery.Text
