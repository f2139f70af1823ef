import Mathlib.Data.Nat.Find
import MonitorQuery.Json.Lexeme
import MonitorQuery.Proofs.Decimal.Rounding

/-!
The range of numbers.

Of the digits of a number as many are taken as fit 64 bits, and what they amount to is rounded to 53 bits, as is the power of ten
that they stand at. The number is out of range if the product of the two overflows.

* `kept`, `taken`: how many digits are taken, and what they amount to.
* `InRange`: digits and their power of ten give no number that is too large.
* `addWhole_eq`, `addFraction_eq`: **the reader takes the same digits.**
* `overflows_iff`: **it finds the same numbers out of range.**
-/

namespace MonitorQuery.Json

open MonitorQuery.Decimal

/-- How many of the digits behind a number fit 64 bits together with it. -/
def kept (n : ℕ) (ds : List Char) : ℕ := Nat.findGreatest (fun k => Nat.ofDigitChars 10 (ds.take k) n < 2 ^ 64) ds.length

/-- A number with the digits behind it that fit 64 bits. -/
def taken (n : ℕ) (ds : List Char) : ℕ := Nat.ofDigitChars 10 (ds.take (kept n ds)) n

/-- A number times a power of ten, both rounded, does not overflow. -/
def InRange (significand : ℕ) (power : ℤ) : Prop :=
  significand = 0 ∨ power < 0 ∨ power ≤ 308 ∧ rounded significand * rounded (10 ^ power.toNat) < overflowsFrom

instance (significand : ℕ) (power : ℤ) : Decidable (InRange significand power) := inferInstanceAs (Decidable (_ ∨ _ ∨ _ ∧ _))

section Digits

variable {n : ℕ}

/-- Digits make a number no smaller. -/
lemma le_ofDigitChars (ds : List Char) (n : ℕ) : n ≤ Nat.ofDigitChars 10 ds n := by
  rw [Nat.ofDigitChars_eq_ofDigitChars_zero]
  exact (Nat.le_mul_of_pos_left n (by positivity)).trans (Nat.le_add_right _ _)

lemma taken_lt (hn : n < 2 ^ 64) (ds : List Char) : taken n ds < 2 ^ 64 :=
  Nat.findGreatest_spec (P := fun k => Nat.ofDigitChars 10 (ds.take k) n < 2 ^ 64) (Nat.zero_le _) hn

/-- A digit that fits is taken, and then those behind it that do. -/
lemma kept_cons {c : Char} (h : Nat.ofDigitChars 10 [c] n < 2 ^ 64) (cs : List Char) :
    kept n (c :: cs) = kept (Nat.ofDigitChars 10 [c] n) cs + 1 := by
  have hcons : ∀ ds, Nat.ofDigitChars 10 (c :: ds) n = Nat.ofDigitChars 10 ds (Nat.ofDigitChars 10 [c] n) := fun _ => rfl
  obtain ⟨hle, -, hgreatest⟩ := Nat.findGreatest_eq_iff.mp (rfl : kept (Nat.ofDigitChars 10 [c] n) cs = _)
  refine Nat.findGreatest_eq_iff.mpr ⟨Nat.succ_le_succ hle, fun _ => ?_, fun k hk hk' => ?_⟩
  · rw [List.take_succ_cons, hcons]
    exact taken_lt h cs
  · obtain ⟨k, rfl⟩ := Nat.exists_eq_succ_of_ne_zero (show k ≠ 0 by omega)
    rw [List.take_succ_cons, hcons]
    exact hgreatest (Nat.lt_of_succ_lt_succ hk) (Nat.le_of_succ_le_succ hk')

/-- From a digit on that does not fit none is taken. -/
lemma kept_cons_of_not {c : Char} (h : ¬ Nat.ofDigitChars 10 [c] n < 2 ^ 64) (cs : List Char) : kept n (c :: cs) = 0 := by
  refine Nat.findGreatest_eq_iff.mpr ⟨Nat.zero_le _, fun hne => absurd rfl hne, fun k hk _ hfits => h ?_⟩
  obtain ⟨k, rfl⟩ := Nat.exists_eq_succ_of_ne_zero hk.ne'
  exact (le_ofDigitChars (cs.take k) _).trans_lt hfits

lemma taken_cons {c : Char} (h : Nat.ofDigitChars 10 [c] n < 2 ^ 64) (cs : List Char) :
    taken n (c :: cs) = taken (Nat.ofDigitChars 10 [c] n) cs := by
  rw [taken, kept_cons h, List.take_succ_cons]
  rfl

lemma taken_cons_of_not {c : Char} (h : ¬ Nat.ofDigitChars 10 [c] n < 2 ^ 64) (cs : List Char) : taken n (c :: cs) = n := by
  rw [taken, kept_cons_of_not h, List.take_zero]
  rfl

end Digits

namespace Scaled

variable {n : ℕ}

/-- A digit is put behind a number. -/
lemma push_eq (n : ℕ) (e : ℤ) (c : Char) : push ⟨n, e⟩ c = ⟨Nat.ofDigitChars 10 [c] n, e⟩ := by
  rw [push, Nat.ofDigitChars_cons, Nat.ofDigitChars_nil, Nat.mul_comm]
  rfl

/-- A digit fits if 64 bits are enough with it. -/
lemma fits_iff (n : ℕ) (e : ℤ) (c : Char) : fits ⟨n, e⟩ c = true ↔ Nat.ofDigitChars 10 [c] n < 2 ^ 64 := by
  have hpush : Nat.ofDigitChars 10 [c] n = n * 10 + (c.toNat - 48) := (congrArg significand (push_eq n e c)).symm
  rw [fits, Bounds.contains, Bool.and_eq_true, decide_eq_true_eq, decide_eq_true_eq, hpush, Bounds.unsigned64]
  dsimp only
  omega

/-- **Before the point the digits are taken that fit**, and the others count as places. -/
lemma addWhole_eq (hn : n < 2 ^ 64) (e : ℤ) (ds : List Char) :
    addWhole ⟨n, e⟩ ds = ⟨taken n ds, e + (ds.length - kept n ds : ℕ)⟩ := by
  induction ds generalizing n with
  | nil => simp [addWhole, taken, kept]
  | cons c ds ih =>
      rw [addWhole]
      by_cases hfits : Nat.ofDigitChars 10 [c] n < 2 ^ 64
      · rw [if_pos ((fits_iff n e c).mpr hfits), push_eq, ih hfits, taken_cons hfits, kept_cons hfits, List.length_cons,
          Nat.add_sub_add_right]
      · rw [if_neg fun h => hfits ((fits_iff n e c).mp h), taken_cons_of_not hfits, kept_cons_of_not hfits, List.length_cons]
        rfl

/-- **Behind the point the digits are taken that fit**, a place further each, and the others do not count. -/
lemma addFraction_eq (hn : n < 2 ^ 64) (e : ℤ) (ds : List Char) :
    addFraction ⟨n, e⟩ ds = ⟨taken n ds, e - kept n ds⟩ := by
  induction ds generalizing n e with
  | nil => simp [addFraction, taken, kept]
  | cons c ds ih =>
      rw [addFraction]
      by_cases hfits : Nat.ofDigitChars 10 [c] n < 2 ^ 64
      · rw [if_pos ((fits_iff n e c).mpr hfits), push_eq]
        dsimp only
        rw [ih hfits, taken_cons hfits, kept_cons hfits, Scaled.mk.injEq]
        exact ⟨rfl, by omega⟩
      · rw [if_neg fun h => hfits ((fits_iff n e c).mp h), taken_cons_of_not hfits, kept_cons_of_not hfits, Nat.cast_zero,
          Int.sub_zero]

/-- **A number overflows just if it is out of range.** -/
theorem overflows_iff (hn : n < 2 ^ 64) (e : ℤ) : overflows ⟨n, e⟩ = true ↔ ¬ InRange n e := by
  rw [overflows, InRange]
  dsimp only
  obtain rfl | hpos := n.eq_zero_or_pos
  · simp
  by_cases hnegative : e < 0
  · simp [hnegative]
  obtain ⟨r, rfl⟩ := Int.eq_ofNat_of_zero_le (Int.not_lt.mp hnegative)
  rw [if_neg (by simp [hpos.ne'])]
  by_cases hlarge : 308 < r
  · rw [if_pos (by exact_mod_cast hlarge)]
    exact iff_of_true rfl (by omega)
  -- Both factors are finite, and worth what they are rounded to.
  have hsmall : n * 10 ^ 0 < overflowsFrom := by
    have hbits : 2 ^ 64 < 10 ^ 20 := by norm_num
    rw [Nat.pow_zero, Nat.mul_one]
    exact hn.trans (hbits.trans (Binary64.pow_ten_lt_overflowsFrom (by decide)))
  have hpow : 1 * 10 ^ r < overflowsFrom := by
    rw [Nat.one_mul]
    exact Binary64.pow_ten_lt_overflowsFrom (Nat.le_of_not_lt hlarge)
  obtain ⟨m, q, hfirst, hvalue⟩ := Binary64.exists_ofDecimal false hpos (by decide) hsmall
  obtain ⟨m', q', hsecond, hvalue'⟩ := Binary64.exists_ofDecimal false one_pos (by omega) hpow
  rw [Nat.pow_zero, Nat.mul_one] at hvalue
  rw [Nat.one_mul] at hvalue'
  have hproduct : ((m * m' : ℕ) : ℚ) * 2 ^ (q + q') = (rounded n * rounded (10 ^ r) : ℕ) := by
    rw [Nat.cast_mul, Nat.cast_mul, ← hvalue, ← hvalue', zpow_add₀ two_ne_zero]
    ring
  rw [if_neg (by exact_mod_cast hlarge), ← Nat.cast_zero, hfirst, hsecond]
  dsimp only
  have hden : 0 < (Binary64.scaleDown 2 (m * m') 1 (-(q + q'))).2 := (Binary64.scaleDown_div one_pos _ _).1
  have hiff := (Binary64.ofQuotient_eq_infinite_iff false hden).trans (Binary64.overflowsFrom_mul_le_scaleDown_iff hproduct)
  rw [Int.toNat_natCast]
  by_cases hinfinite : overflowsFrom ≤ rounded n * rounded (10 ^ r)
  · rw [hiff.mpr hinfinite]
    exact iff_of_true rfl (by omega)
  · obtain ⟨m, q, hfinite⟩ := Binary64.exists_ofQuotient fun heq => hinfinite (hiff.mp heq)
    rw [hfinite]
    exact iff_of_false (by simp) (by omega)

end Scaled

/-- The greatest finite number in 17 digits, and the next such number. -/
example : InRange 17976931348623157 292 ∧ ¬ InRange 17976931348623158 292 := by decide +kernel

end MonitorQuery.Json
