import Mathlib.Tactic
import MonitorQuery.Decimal.Integer

/-!
The texts of integers.

A text writes an integer with digits behind a sign or none, and zeros may stand in front of them. Of all the texts that write an
integer one is canonical.

* `WritesInteger`: the texts that write an integer. `integer?_eq_some_iff`: **they are those that are read**, and as that integer;
  `integerIn?_eq_some_iff`: the same between bounds.
* `WritesInteger.isDigit_of_mem_tail`, `WritesInteger.isDigit_or_eq`: the characters of such a text.
* `eq_zero_of_head?_toDigits`: no zero stands in front of a number.
* `IsCanonical`, `isCanonical_renderInt`: **what is written for an integer is its canonical text.**
-/

namespace MonitorQuery.Decimal

/-! ### Digits -/

/-- One or more digits. -/
structure IsDigits (cs : List Char) : Prop where
  ne_nil : cs ≠ []
  isDigit : ∀ c ∈ cs, c.isDigit = true

section Digits

variable {cs : List Char} {n : ℕ}

lemma toNat_of_isDigit {c : Char} (h : c.isDigit = true) : 48 ≤ c.toNat ∧ c.toNat ≤ 57 := by
  simpa [Char.isDigit, UInt32.le_iff_toNat_le] using h

lemma isNumeral_iff : isNumeral cs = true ↔ IsDigits cs := by
  have hiff : isNumeral cs = true ↔ cs ≠ [] ∧ ∀ c ∈ cs, c.isDigit = true := by
    simp [isNumeral]
  exact hiff.trans ⟨fun h => ⟨h.1, h.2⟩, fun h => ⟨h.ne_nil, h.isDigit⟩⟩

lemma natural?_eq_some_iff : natural? cs = some n ↔ IsDigits cs ∧ ofDigits cs = n := by
  rw [natural?, ← isNumeral_iff]
  split_ifs with h <;> simp [h]

/-- The digits of a number are digits. -/
lemma isDigit_toDigits (n : ℕ) : ∀ c ∈ Nat.toDigits 10 n, c.isDigit = true :=
  fun _ hc => Nat.isDigit_of_mem_toDigits (by decide) (by decide) hc

lemma isDigits_toDigits (n : ℕ) : IsDigits (Nat.toDigits 10 n) := ⟨Nat.toDigits_ne_nil, isDigit_toDigits n⟩

/-- The digits of a number are worth it. -/
lemma ofDigits_toDigits (n : ℕ) : ofDigits (Nat.toDigits 10 n) = n := Nat.ofDigitChars_toDigits (by decide) (by decide)

@[simp] lemma toList_renderNat (n : ℕ) : (renderNat n).toList = Nat.toDigits 10 n := String.toList_ofList

/-- No zero stands in front of a number, unless it is zero. -/
lemma eq_zero_of_head?_toDigits (h : (Nat.toDigits 10 n).head? = some '0') : n = 0 := by
  induction n using Nat.strong_induction_on with
  | _ n ih =>
      by_cases hn : n < 10
      · rw [Nat.toDigits_of_lt_base hn] at h
        interval_cases n <;> first | rfl | exact absurd h (by decide)
      · have hlarge : 10 ≤ n := Nat.le_of_not_lt hn
        obtain ⟨c, tail, hdigits⟩ := List.exists_cons_of_ne_nil (Nat.toDigits_ne_nil (n := n / 10) (b := 10))
        have hhead : (Nat.toDigits 10 (n / 10)).head? = some '0' := by
          rw [Nat.toDigits_of_base_le (by decide) hlarge, hdigits] at h
          rwa [hdigits]
        have hzero := ih (n / 10) (by omega) hhead
        omega

end Digits

/-! ### The grammar -/

/-- A text writes an integer: digits, or digits behind a sign. -/
inductive WritesInteger : List Char → ℤ → Prop
  | unsigned {ds : List Char} (h : IsDigits ds) : WritesInteger ds (ofDigits ds)
  | plus {ds : List Char} (h : IsDigits ds) : WritesInteger ('+' :: ds) (ofDigits ds)
  | minus {ds : List Char} (h : IsDigits ds) : WritesInteger ('-' :: ds) (-(ofDigits ds : ℤ))

section Grammar

variable {cs : List Char} {n : ℤ}

/-- A sign is no digit. -/
lemma IsDigits.head_ne {c d : Char} {ds : List Char} (h : IsDigits (c :: ds)) (hd : d.isDigit = false) : c ≠ d := by
  rintro rfl
  rw [h.isDigit c List.mem_cons_self] at hd
  cases hd

/-- **The texts that are read as an integer are those that write it.** -/
theorem integer?_eq_some_iff : integer? cs = some n ↔ WritesInteger cs n := by
  constructor
  · intro h
    rw [integer?.eq_def] at h
    split at h
    all_goals
      obtain ⟨m, hm, rfl⟩ := Option.map_eq_some_iff.mp h
      obtain ⟨hds, rfl⟩ := natural?_eq_some_iff.mp hm
    · exact .plus hds
    · exact .minus hds
    · exact .unsigned hds
  · rintro (hds | hds | hds)
    all_goals have hread := natural?_eq_some_iff.mpr ⟨hds, rfl⟩
    · cases cs with
      | nil => exact absurd rfl hds.ne_nil
      | cons c cs =>
          rw [integer?, hread]
          · rfl
          · rintro tail heq
            exact hds.head_ne (by decide) (List.cons.inj heq).1
          · rintro tail heq
            exact hds.head_ne (by decide) (List.cons.inj heq).1
    · rw [integer?, hread]
      rfl
    · rw [integer?, hread]
      rfl

/-- Between bounds, an integer is read from the texts that write it. -/
theorem integerIn?_eq_some_iff {b : Bounds} :
    integerIn? b cs = some n ↔ WritesInteger cs n ∧ b.lowest ≤ n ∧ n ≤ b.highest := by
  rw [integerIn?, Option.bind_eq_some_iff]
  constructor
  · rintro ⟨m, hm, honly⟩
    rw [Bounds.only] at honly
    split_ifs at honly with hcontains
    cases honly
    refine ⟨integer?_eq_some_iff.mp hm, ?_⟩
    simpa [Bounds.contains] using hcontains
  · rintro ⟨hwrites, hlowest, hhighest⟩
    refine ⟨n, integer?_eq_some_iff.mpr hwrites, ?_⟩
    simp [Bounds.only, Bounds.contains, hlowest, hhighest]

namespace WritesInteger

/-- A text writes one integer at most. -/
lemma unique {m : ℤ} (h : WritesInteger cs n) (h' : WritesInteger cs m) : n = m :=
  Option.some.inj ((integer?_eq_some_iff.mpr h).symm.trans (integer?_eq_some_iff.mpr h'))

/-- A text that writes an integer consists of digits, but for a sign. -/
lemma isDigit_or_eq (h : WritesInteger cs n) : ∀ c ∈ cs, c.isDigit = true ∨ c = '+' ∨ c = '-' := by
  intro c hc
  cases h with
  | unsigned hds => exact .inl (hds.isDigit c hc)
  | plus hds =>
      rcases List.mem_cons.mp hc with rfl | hc
      · exact .inr (.inl rfl)
      · exact .inl (hds.isDigit c hc)
  | minus hds =>
      rcases List.mem_cons.mp hc with rfl | hc
      · exact .inr (.inr rfl)
      · exact .inl (hds.isDigit c hc)

/-- Behind the first character there are digits alone. -/
lemma isDigit_of_mem_tail (h : WritesInteger cs n) : ∀ c ∈ cs.tail, c.isDigit = true := by
  intro c hc
  cases h with
  | unsigned hds => exact hds.isDigit c (List.mem_of_mem_tail hc)
  | plus hds | minus hds => exact hds.isDigit c hc

end WritesInteger

/-! ### The canonical text -/

/-- The canonical text of an integer: a minus sign in front of a negative one alone, and no zero in front of other digits. -/
def IsCanonical (cs : List Char) (n : ℤ) : Prop :=
  ∃ ds, IsDigits ds ∧ ofDigits ds = n.natAbs ∧ (ds.head? = some '0' → ds = ['0'])
    ∧ cs = if n < 0 then '-' :: ds else ds

/-- A canonical text consists of digits, but for a minus sign. -/
lemma IsCanonical.isDigit_or_eq (h : IsCanonical cs n) : ∀ c ∈ cs, c.isDigit = true ∨ c = '-' := by
  obtain ⟨ds, hds, -, -, rfl⟩ := h
  intro c hc
  split_ifs at hc
  · rcases List.mem_cons.mp hc with rfl | hc
    · exact .inr rfl
    · exact .inl (hds.isDigit c hc)
  · exact .inl (hds.isDigit c hc)

/-- **What is written for an integer is its canonical text.** -/
theorem isCanonical_renderInt (n : ℤ) : IsCanonical (renderInt n).toList n := by
  have hzero : ∀ m : ℕ, (Nat.toDigits 10 m).head? = some '0' → Nat.toDigits 10 m = ['0'] := by
    intro m hhead
    rw [eq_zero_of_head?_toDigits hhead]
    rfl
  cases n with
  | ofNat m =>
      refine ⟨Nat.toDigits 10 m, isDigits_toDigits m, ofDigits_toDigits m, hzero m, ?_⟩
      rw [if_neg (by simp), renderInt, toList_renderNat]
  | negSucc m =>
      refine ⟨Nat.toDigits 10 (m + 1), isDigits_toDigits _, ofDigits_toDigits _, hzero _, ?_⟩
      rw [if_pos (Int.negSucc_lt_zero m), renderInt, String.toList_append, toList_renderNat]
      rfl

end Grammar

end MonitorQuery.Decimal
