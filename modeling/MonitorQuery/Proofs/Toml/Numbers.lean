import Mathlib.Tactic
import MonitorQuery.Proofs.Decimal.Integers
import MonitorQuery.Proofs.Text.Rest
import MonitorQuery.Toml.Scalar

/-!
The natural numbers of TOML, written and read back.

A number is a word like a date or a truth value, so it has to be told from those before it is read.

* `isDateOrTime_of_isDigit`, `integer?_toDigits`: digits are no date, and an integer.
* `reads_scalar_toDigits`: **a number of 64 bits is read back** at the end of a line.
-/

namespace MonitorQuery.Toml

open MonitorQuery.Calendar MonitorQuery.Decimal MonitorQuery.Text

/-! ### Digits -/

section Digits

variable {cs rest : List Char}

lemma ne_underscore_of_isDigit {c : Char} (h : c.isDigit = true) : c ≠ '_' := by
  rintro rfl
  exact absurd h (by decide)

lemma isGrouped_of_isDigit (hne : cs ≠ []) (h : ∀ c ∈ cs, c.isDigit = true) : isGrouped Char.isDigit cs = true := by
  induction cs with
  | nil => exact absurd rfl hne
  | cons c cs ih =>
      obtain ⟨hc, hcs⟩ := List.forall_mem_cons.mp h
      cases cs with
      | nil => exact hc
      | cons d cs =>
          have hd : d ≠ '_' := ne_underscore_of_isDigit (hcs d List.mem_cons_self)
          rw [isGrouped, hc, ih (List.cons_ne_nil _ _) hcs]
          · rfl
          · exact List.cons_ne_nil _ _
          · rintro _ heq
            exact hd (List.cons.inj heq).1

/-- The value of digits is the number that they are written for. -/
lemma inBase_eq (h : ∀ c ∈ cs, c.isDigit = true) : inBase 10 cs = Nat.ofDigitChars 10 cs 0 := by
  rw [inBase, Nat.ofDigitChars_eq_foldl]
  refine List.foldl_ext _ _ _ fun n c hc => ?_
  rw [Hexadecimal.value?, if_pos (h c hc)]
  rfl

/-! ### What digits are not -/

lemma skip?_of_isDigit {d : Char} (h : ∀ c ∈ cs, c.isDigit = true) (hd : d.isDigit = false) : skip? (· == d) cs = none := by
  cases cs with
  | nil => rfl
  | cons c cs =>
      have hne : c ≠ d := by
        rintro rfl
        rw [h c List.mem_cons_self] at hd
        cases hd
      rw [skip?, beq_false_of_ne hne, if_neg Bool.false_ne_true]

lemma of_digits? {k n : ℕ} (h : digits? k cs = some (n, rest)) : rest = cs.drop k := by
  rw [digits?] at h
  split at h
  · exact (Prod.mk.inj (Option.some.inj h)).2.symm
  · cases h

/-- Digits are no date and no time. -/
lemma isDateOrTime_of_isDigit (h : ∀ c ∈ cs, c.isDigit = true) : isDateOrTime cs = false := by
  have hskip : ∀ {k n : ℕ} {rest : List Char} {d : Char}, digits? k cs = some (n, rest) → d.isDigit = false →
      skip? (· == d) rest = none := by
    intro k n rest d hdigits hd
    rw [of_digits? hdigits]
    exact skip?_of_isDigit (fun c hc => h c (List.mem_of_mem_drop hc)) hd
  have hclock : clockTime? cs = none := by
    rw [clockTime?]
    cases hdigits : digits? 2 cs with
    | none => rfl
    | some p =>
        obtain ⟨n, rest⟩ := p
        simp only [Option.bind_eq_bind, Option.bind_some, hskip hdigits (by decide : ':'.isDigit = false), Option.bind_none]
  have hdate : calendarDate? cs = none := by
    rw [calendarDate?]
    cases hdigits : digits? 4 cs with
    | none => rfl
    | some p =>
        obtain ⟨n, rest⟩ := p
        simp only [Option.bind_eq_bind, Option.bind_some, hskip hdigits (by decide : '-'.isDigit = false), Option.bind_none]
  rw [isDateOrTime, isTime, hclock, hdate]
  rfl

end Digits

/-! ### Numbers at the end of a line -/

section Numbers

variable {n : ℕ}

lemma isWhole_toDigits (n : ℕ) : isWhole (Nat.toDigits 10 n) = true := by
  have hgrouped : isGrouped Char.isDigit (Nat.toDigits 10 n) = true :=
    isGrouped_of_isDigit Nat.toDigits_ne_nil (isDigit_toDigits n)
  have hzero : ((Nat.toDigits 10 n).head? == some '0' && decide (1 < (Nat.toDigits 10 n).length)) = false := by
    cases hhead : (Nat.toDigits 10 n).head? == some '0' with
    | false => rfl
    | true =>
        obtain rfl := eq_zero_of_head?_toDigits (beq_iff_eq.mp hhead)
        decide
  rw [isWhole, hgrouped, hzero]
  rfl

/-- The digits of a number of 64 bits are read as an integer. -/
lemma integer?_toDigits (hn : (n : ℤ) ≤ Bounds.signed64.highest) : integer? (Nat.toDigits 10 n) = some (.integer n) := by
  have hdigit := isDigit_toDigits n
  have hsecond : ∀ c tail, Nat.toDigits 10 n = '0' :: c :: tail → c.isDigit = true := by
    intro c tail heq
    exact hdigit c (by simp [heq])
  have hfirst : ∀ c tail, Nat.toDigits 10 n = c :: tail → c.isDigit = true := by
    intro c tail heq
    exact hdigit c (by simp [heq])
  have hsign : splitSign (Nat.toDigits 10 n) = (false, Nat.toDigits 10 n) := by
    rw [splitSign]
    · exact fun tail heq => absurd (hfirst _ tail heq) (by decide)
    · exact fun tail heq => absurd (hfirst _ tail heq) (by decide)
  have hungrouped : ungrouped (Nat.toDigits 10 n) = Nat.toDigits 10 n := by
    refine List.filter_eq_self.mpr fun c hc => ?_
    simpa using ne_underscore_of_isDigit (hdigit c hc)
  have hvalue : inBase 10 (ungrouped (Nat.toDigits 10 n)) = n := by
    rw [hungrouped, inBase_eq hdigit, Nat.ofDigitChars_toDigits (by decide) (by decide)]
  have hbounded : bounded (n : ℤ) = some (.integer n) := by
    have hcontains : Bounds.signed64.contains n = true := by
      have hlowest : Bounds.signed64.lowest ≤ (n : ℤ) := le_trans (by decide) (Int.natCast_nonneg n)
      simp [Bounds.contains, hlowest, hn]
    rw [bounded, Bounds.only, if_pos hcontains]
    rfl
  rw [integer?, hsign]
  · simp only [isWhole_toDigits, if_true, Bool.false_eq_true, if_false, hvalue, hbounded]
  · exact fun tail heq => absurd (hsecond _ tail heq) (by decide)
  · exact fun tail heq => absurd (hsecond _ tail heq) (by decide)
  · exact fun tail heq => absurd (hsecond _ tail heq) (by decide)

lemma scalarOfWord?_toDigits (hn : (n : ℤ) ≤ Bounds.signed64.highest) :
    scalarOfWord? (Nat.toDigits 10 n) = some (.integer n) := by
  have hdigit := isDigit_toDigits n
  have htrue : Nat.toDigits 10 n ≠ ['t', 'r', 'u', 'e'] := fun heq => absurd (hdigit 't' (by simp [heq])) (by decide)
  have hfalse : Nat.toDigits 10 n ≠ ['f', 'a', 'l', 's', 'e'] := fun heq => absurd (hdigit 'f' (by simp [heq])) (by decide)
  rw [scalarOfWord?, if_neg htrue, if_neg hfalse, isDateOrTime_of_isDigit hdigit, if_neg Bool.false_ne_true, integer?_toDigits hn]
  rfl

/-- Digits are the word at the end of a line. -/
lemma frontWord_of_isDigit {cs : List Char} (h : ∀ c ∈ cs, c.isDigit = true) (rest : List Char) :
    ∃ hle, frontWord (cs ++ '\n' :: rest) = (cs, ⟨'\n' :: rest, hle⟩) := by
  have hword : ∀ c ∈ cs, isWordChar c = true := by
    intro c hc
    simp [isWordChar, Char.isAlphanum, h c hc]
  have hend : ∀ c ∈ ('\n' :: rest).head?, isWordChar c = false := by
    intro c hc
    obtain rfl : '\n' = c := by simpa using hc
    decide
  obtain ⟨hle, hfront⟩ := takeFront_append_of_head hword hend
  refine ⟨hle, ?_⟩
  rw [frontWord, hfront]
  simp only
  split
  · next heq => exact absurd (List.cons.inj heq).1 (by decide)
  · rfl

/-- **A number of 64 bits is read back** at the end of a line. -/
theorem reads_scalar_toDigits (hn : (n : ℤ) ≤ Bounds.signed64.highest) (rest : List Char) :
    Reads (scalar (Nat.toDigits 10 n ++ '\n' :: rest)) (.integer n) ('\n' :: rest) := by
  obtain ⟨hle, hword⟩ := frontWord_of_isDigit (isDigit_toDigits n) rest
  have hlt : ('\n' :: rest).length < (Nat.toDigits 10 n ++ '\n' :: rest).length := by
    have hpos : 0 < (Nat.toDigits 10 n).length := Nat.length_toDigits_pos
    rw [List.length_append]
    omega
  rw [scalar, hword]
  simp only
  rw [dif_pos hlt, scalarOfWord?_toDigits hn]
  exact ⟨hlt, rfl⟩

end Numbers

end MonitorQuery.Toml
