import Mathlib.Data.Nat.Size
import Mathlib.Tactic
import MonitorQuery.Decimal.Binary64

/-!
Rounding to binary floating-point numbers.

A quotient of natural numbers is rounded to 53 bits, and overflows from halfway between the greatest finite number and the next
power of two on. For a natural number the result can be told without quotients and exponents.

* `rounded`, `overflowsFrom`: a natural number in 53 bits, and the least number that is too large.
* `scaleDown_div`, `floorLog2_spec`: what is computed on pairs of natural numbers, as rational numbers.
* `le_roundHalfEven_iff`: where rounding reaches an even number.
* `ofQuotient_eq_infinite_iff`: **a quotient overflows from `overflowsFrom` on.**
* `exists_ofQuotient_one`: **a natural number that does not overflow is rounded**; `exists_ofDecimal`: the same with zeros behind it.
-/

namespace MonitorQuery.Decimal

/-- A natural number in 53 bits: the nearest multiple of the power of two that leaves so many, and the even one of two. -/
def rounded (n : ℕ) : ℕ :=
  let unit := 2 ^ (n.size - 53)
  if unit < 2 * (n % unit) ∨ unit = 2 * (n % unit) ∧ n / unit % 2 = 1 then unit * (n / unit + 1) else unit * (n / unit)

/-- Halfway between the greatest finite number, `(2^53 - 1) * 2^971`, and the next power of two. -/
def overflowsFrom : ℕ := (2 ^ 54 - 1) * 2 ^ 970

namespace Binary64

/-! ### Quotients -/

section Quotients

variable {num den : ℕ}

/-- A pair that is scaled down by powers of two is the quotient that it stands for. -/
lemma scaleDown_div (hden : 0 < den) (num : ℕ) (k : ℤ) :
    0 < (scaleDown 2 num den k).2 ∧ ((scaleDown 2 num den k).1 : ℚ) / (scaleDown 2 num den k).2 = (num : ℚ) / den / 2 ^ k := by
  rw [scaleDown]
  split_ifs with hk
  · obtain ⟨n, rfl⟩ := Int.eq_ofNat_of_zero_le hk
    refine ⟨Nat.mul_pos hden (Nat.pow_pos two_pos), ?_⟩
    simp [div_div]
  · obtain ⟨n, hn⟩ := Int.eq_ofNat_of_zero_le (show 0 ≤ -k by omega)
    obtain rfl : k = -(n : ℤ) := by omega
    refine ⟨hden, ?_⟩
    simp [div_eq_mul_inv, mul_right_comm]

/-- The bits of a quotient are counted right. -/
lemma floorLog2_spec (hnum : 0 < num) (hden : 0 < den) :
    (2 : ℚ) ^ floorLog2 num den ≤ num / den ∧ (num / den : ℚ) < 2 ^ (floorLog2 num den + 1) := by
  have hnum₁ : (2 : ℚ) ^ (num.log2 : ℤ) ≤ num := by exact_mod_cast Nat.log2_self_le hnum.ne'
  have hnum₂ : (num : ℚ) < 2 ^ ((num.log2 : ℤ) + 1) := by exact_mod_cast Nat.lt_log2_self
  have hden₁ : (2 : ℚ) ^ (den.log2 : ℤ) ≤ den := by exact_mod_cast Nat.log2_self_le hden.ne'
  have hden₂ : (den : ℚ) < 2 ^ ((den.log2 : ℤ) + 1) := by exact_mod_cast Nat.lt_log2_self
  have hpos : (0 : ℚ) < den := by exact_mod_cast hden
  obtain ⟨hpos', hscaled⟩ := scaleDown_div hden num ((num.log2 : ℤ) - den.log2)
  rw [floorLog2]
  generalize (num.log2 : ℤ) = a at *
  generalize (den.log2 : ℤ) = b at *
  dsimp only
  have hupper : (num / den : ℚ) < 2 ^ (a - b + 1) := by
    rw [div_lt_iff₀ hpos]
    calc (num : ℚ) < 2 ^ (a - b + 1) * 2 ^ b := by rw [← zpow_add₀ two_ne_zero]; convert hnum₂ using 2; ring
      _ ≤ 2 ^ (a - b + 1) * den := by gcongr
  have hlower : (2 : ℚ) ^ (a - b - 1) ≤ num / den := by
    rw [le_div_iff₀ hpos]
    calc (2 : ℚ) ^ (a - b - 1) * den ≤ 2 ^ (a - b - 1) * 2 ^ (b + 1) := by gcongr
      _ ≤ num := by rw [← zpow_add₀ two_ne_zero]; convert hnum₁ using 2; ring
  have hiff : (scaleDown 2 num den (a - b)).2 ≤ (scaleDown 2 num den (a - b)).1 ↔ (2 : ℚ) ^ (a - b) ≤ num / den := by
    rw [← one_le_div₀ (zpow_pos two_pos _), ← hscaled, one_le_div₀ (Nat.cast_pos.mpr hpos'), Nat.cast_le]
  split_ifs with h
  · exact ⟨hiff.mp h, hupper⟩
  · refine ⟨hlower, ?_⟩
    rw [sub_add_cancel]
    exact lt_of_not_ge fun hge => h (hiff.mpr hge)

/-- **Rounding reaches an even number** from halfway between it and the one before. -/
lemma le_roundHalfEven_iff {m : ℕ} (hden : 0 < den) (hm : m % 2 = 0) (hpos : 0 < m) :
    m ≤ roundHalfEven num den ↔ (2 * m - 1) * den ≤ 2 * num := by
  have hdiv := Nat.div_add_mod num den
  have hmod := Nat.mod_lt num hden
  obtain ⟨k, rfl⟩ : ∃ k, m = k + 1 := ⟨m - 1, by omega⟩
  have hdouble : (2 * (k + 1) - 1) * den = 2 * (den * k) + den := by
    rw [show 2 * (k + 1) - 1 = 2 * k + 1 by omega]
    ring
  rw [roundHalfEven, hdouble]
  generalize num / den = floor at *
  generalize num % den = rest at *
  obtain hless | heq | hgreater := Nat.lt_trichotomy floor k
  · have hmul : den * (floor + 1) ≤ den * k := Nat.mul_le_mul_left _ hless
    rw [Nat.mul_succ] at hmul
    refine iff_of_false ?_ (by omega)
    split_ifs <;> omega
  · subst heq
    simp only [Bool.or_eq_true, decide_eq_true_eq, Bool.and_eq_true, beq_iff_eq]
    split_ifs <;> omega
  · have hmul : den * (k + 1) ≤ den * floor := Nat.mul_le_mul_left _ hgreater
    rw [Nat.mul_succ] at hmul
    refine iff_of_true ?_ (by omega)
    split_ifs <;> omega

/-- Rounding goes no further than to a number above. -/
lemma roundHalfEven_le {m : ℕ} (h : num < m * den) : roundHalfEven num den ≤ m := by
  have hfloor : num / den < m := Nat.div_lt_of_lt_mul (by rwa [Nat.mul_comm])
  rw [roundHalfEven]
  split_ifs <;> omega

/-- The power of two at the last place of a rounded quotient. -/
def lastPlace (num den : ℕ) : ℤ := max (floorLog2 num den - 52) leastExponent

/-- A quotient, rounded to its last place and counted in that. -/
def places (num den : ℕ) : ℕ :=
  roundHalfEven (scaleDown 2 num den (lastPlace num den)).1 (scaleDown 2 num den (lastPlace num den)).2

/-- What becomes of a quotient. If rounding makes it a power of two, that is written in one place less. -/
lemma ofQuotient_eq (negative : Bool) (hnum : 0 < num) :
    ofQuotient negative num den
      = if places num den = 2 ^ 53 then
          if greatestExponent < lastPlace num den + 1 then .infinite negative
          else .finite negative (2 ^ 52) (lastPlace num den + 1)
        else if greatestExponent < lastPlace num den then .infinite negative
        else .finite negative (places num den) (lastPlace num den) := by
  have hnormal : 2 * leastNormal = 2 ^ 53 := by decide
  let carried : ℕ × ℤ :=
    if places num den = 2 * leastNormal then (leastNormal, lastPlace num den + 1) else (places num den, lastPlace num den)
  have hrounded : ofQuotient negative num den
      = if greatestExponent < carried.2 then .infinite negative else .finite negative carried.1 carried.2 := by
    rw [ofQuotient, if_neg hnum.ne']
    rfl
  by_cases hcarry : places num den = 2 ^ 53
  · have hpair : carried = (2 ^ 52, lastPlace num den + 1) := if_pos (hcarry.trans hnormal.symm)
    rw [hrounded, hpair, if_pos hcarry]
  · have hpair : carried = (places num den, lastPlace num den) := if_neg fun heq => hcarry (heq.trans hnormal)
    rw [hrounded, hpair, if_neg hcarry]

/-- Where a rounded quotient reaches an even number of places. -/
lemma le_places_iff {m : ℕ} (hden : 0 < den) (hm : m % 2 = 0) (hpos : 0 < m) :
    m ≤ places num den ↔ (2 * m - 1 : ℚ) * 2 ^ (lastPlace num den - 1) ≤ num / den := by
  obtain ⟨hpos', hscaled⟩ := scaleDown_div hden num (lastPlace num den)
  have hplace : (0 : ℚ) < 2 ^ lastPlace num den := by positivity
  rw [places, le_roundHalfEven_iff hpos' hm hpos]
  generalize (scaleDown 2 num den (lastPlace num den)).1 = n at *
  generalize (scaleDown 2 num den (lastPlace num den)).2 = d at *
  have hd : (0 : ℚ) < d := Nat.cast_pos.mpr hpos'
  rw [eq_div_iff hplace.ne'] at hscaled
  have hsub : ((2 * m - 1 : ℕ) : ℚ) = 2 * m - 1 := by rw [Nat.cast_sub (by omega)]; norm_num
  have hhalf : (2 * m - 1 : ℚ) * (2 ^ lastPlace num den * 2⁻¹) = (2 * m - 1) / 2 * 2 ^ lastPlace num den := by ring
  rw [← hscaled, zpow_sub_one₀ two_ne_zero, hhalf, mul_le_mul_iff_of_pos_right hplace, div_le_div_iff₀ two_pos hd,
    ← Nat.cast_le (α := ℚ), Nat.cast_mul, hsub, Nat.cast_mul, Nat.cast_ofNat, mul_comm (n : ℚ)]

/-- A rounded quotient has 53 bits, or is the next power of two. -/
lemma places_le (hnum : 0 < num) (hden : 0 < den) : places num den ≤ 2 ^ 53 := by
  obtain ⟨hpos, hscaled⟩ := scaleDown_div hden num (lastPlace num den)
  refine roundHalfEven_le ?_
  have hbits : floorLog2 num den + 1 ≤ 53 + lastPlace num den := by
    have hmax : floorLog2 num den - 52 ≤ lastPlace num den := le_max_left _ _
    omega
  have hlt : (num / den : ℚ) < 2 ^ (53 : ℤ) * 2 ^ lastPlace num den := by
    rw [← zpow_add₀ two_ne_zero]
    exact (floorLog2_spec hnum hden).2.trans_le (zpow_le_zpow_right₀ one_le_two hbits)
  rw [← div_lt_iff₀ (zpow_pos two_pos _), ← hscaled, div_lt_iff₀ (Nat.cast_pos.mpr hpos)] at hlt
  exact_mod_cast hlt

/-- The halfway number in places of the greatest exponent, and the powers of two around it. -/
lemma overflowsFrom_spec :
    (overflowsFrom : ℚ) = (2 * (2 ^ 53 : ℕ) - 1) * 2 ^ (970 : ℤ)
      ∧ (2 : ℚ) ^ (1023 : ℤ) ≤ overflowsFrom ∧ (overflowsFrom : ℚ) ≤ 2 ^ (1024 : ℤ) := by
  have heq : (overflowsFrom : ℚ) = (2 * (2 ^ 53 : ℕ) - 1) * 2 ^ (970 : ℤ) := by
    rw [overflowsFrom, Nat.cast_mul, Nat.cast_pow]
    norm_num
  have hpos : (0 : ℚ) ≤ 2 ^ (970 : ℤ) := by positivity
  have hlower : (2 : ℚ) ^ (1023 : ℤ) = 2 ^ (53 : ℤ) * 2 ^ (970 : ℤ) := by
    rw [← zpow_add₀ two_ne_zero]
    rfl
  have hupper : (2 : ℚ) ^ (1024 : ℤ) = 2 ^ (54 : ℤ) * 2 ^ (970 : ℤ) := by
    rw [← zpow_add₀ two_ne_zero]
    rfl
  rw [hlower, hupper, heq]
  exact ⟨rfl, mul_le_mul_of_nonneg_right (by norm_num) hpos, mul_le_mul_of_nonneg_right (by norm_num) hpos⟩

/-- **A quotient overflows** from halfway between the greatest finite number and the next power of two on. -/
theorem ofQuotient_eq_infinite_iff (negative : Bool) (hden : 0 < den) :
    ofQuotient negative num den = .infinite negative ↔ overflowsFrom * den ≤ num := by
  obtain ⟨hfrom, hfrom₁, hfrom₂⟩ := overflowsFrom_spec
  have hquotient : overflowsFrom * den ≤ num ↔ (overflowsFrom : ℚ) ≤ num / den := by
    rw [le_div_iff₀ (Nat.cast_pos.mpr hden)]
    exact_mod_cast Iff.rfl
  rw [hquotient]
  obtain rfl | hnum := num.eq_zero_or_pos
  · have hpos : (0 : ℚ) < 2 ^ (1023 : ℤ) := by positivity
    rw [Nat.cast_zero, zero_div]
    exact iff_of_false (by simp [ofQuotient, zero]) (hpos.trans_le hfrom₁).not_ge
  obtain ⟨hlower, hupper⟩ := floorLog2_spec hnum hden
  have hplace : lastPlace num den = max (floorLog2 num den - 52) (-1074) := rfl
  rw [ofQuotient_eq negative hnum, greatestExponent]
  obtain hless | heq | hgreater := lt_trichotomy (floorLog2 num den) 1023
  · have hfinite : (num / den : ℚ) < overflowsFrom :=
      (hupper.trans_le (zpow_le_zpow_right₀ one_le_two (by omega))).trans_le hfrom₁
    have hlast : ¬ (971 : ℤ) < lastPlace num den := by omega
    have hlast' : ¬ (971 : ℤ) < lastPlace num den + 1 := by omega
    simp only [hlast, hlast', if_false]
    exact iff_of_false (by split_ifs <;> simp) hfinite.not_ge
  · have hlast : lastPlace num den = 971 := by omega
    have hreach : 2 ^ 53 ≤ places num den ↔ (overflowsFrom : ℚ) ≤ num / den := by
      rw [le_places_iff hden (by decide) (by decide), hlast, hfrom]
      rfl
    rw [← hreach, hlast]
    by_cases hcarry : places num den = 2 ^ 53
    · rw [if_pos hcarry, if_pos (by decide)]
      exact iff_of_true rfl hcarry.ge
    · rw [if_neg hcarry, if_neg (by decide)]
      exact iff_of_false (by simp) fun hle => hcarry (le_antisymm (places_le hnum hden) hle)
  · have hinfinite : (overflowsFrom : ℚ) ≤ num / den :=
      (hfrom₂.trans (zpow_le_zpow_right₀ one_le_two (by omega))).trans hlower
    have hlast : (971 : ℤ) < lastPlace num den := by omega
    have hlast' : (971 : ℤ) < lastPlace num den + 1 := by omega
    simp only [hlast, hlast', if_true, ite_self, hinfinite]

end Quotients

/-! ### Natural numbers -/

section Naturals

variable {n : ℕ}

lemma floorLog2_one (hn : 0 < n) : floorLog2 n 1 = n.log2 := by
  have hlog : Nat.log2 1 = 0 := by decide
  have hle : 1 * Nat.pow 2 n.log2 ≤ n := by
    rw [Nat.one_mul]
    exact Nat.log2_self_le hn.ne'
  rw [floorLog2, hlog, Nat.cast_zero, sub_zero, scaleDown, if_pos (Int.natCast_nonneg _), Int.toNat_natCast]
  exact if_pos hle

lemma roundHalfEven_one (n : ℕ) : roundHalfEven n 1 = n := by
  simp [roundHalfEven, Nat.mod_one]

/-- Rounding to 53 bits, counted in the power of two that leaves so many. -/
lemma rounded_eq (n : ℕ) : rounded n = 2 ^ (n.size - 53) * roundHalfEven n (2 ^ (n.size - 53)) := by
  have hiff : ∀ unit rest floor : ℕ, (decide (unit < 2 * rest) || (unit == 2 * rest && floor % 2 == 1)) = true
      ↔ unit < 2 * rest ∨ unit = 2 * rest ∧ floor % 2 = 1 := by
    intro unit rest floor
    rw [Bool.or_eq_true, Bool.and_eq_true, decide_eq_true_eq, beq_iff_eq, beq_iff_eq]
  simp only [rounded, roundHalfEven, hiff, mul_ite]

/-- The places of a natural number are worth it, rounded to 53 bits. -/
lemma places_one (hn : 0 < n) : (places n 1 : ℚ) * 2 ^ lastPlace n 1 = rounded n := by
  have hsize : n.size = n.log2 + 1 :=
    le_antisymm (Nat.size_le.mpr Nat.lt_log2_self) (Nat.lt_size.mpr (Nat.log2_self_le hn.ne'))
  have hlast : lastPlace n 1 = n.log2 - 52 := by
    rw [lastPlace, floorLog2_one hn, leastExponent]
    omega
  rw [places, hlast, rounded_eq, hsize, scaleDown]
  obtain hsmall | ⟨t, ht⟩ : n.log2 < 52 ∨ ∃ t, n.log2 = 52 + t :=
    (Nat.lt_or_ge n.log2 52).imp_right fun h => ⟨n.log2 - 52, by omega⟩
  · -- All the bits are there, and more places than are needed.
    obtain ⟨t, ht⟩ : ∃ t : ℕ, (n.log2 : ℤ) - 52 = -(t : ℤ) := ⟨52 - n.log2, by omega⟩
    rw [if_neg (by omega), show n.log2 + 1 - 53 = 0 by omega, pow_zero, one_mul, roundHalfEven_one, roundHalfEven_one, ht,
      neg_neg, Int.toNat_natCast, zpow_neg, zpow_natCast]
    have hscaled : ((n * Nat.pow 2 t : ℕ) : ℚ) = n * 2 ^ t := by exact_mod_cast rfl
    rw [hscaled]
    field_simp
  · rw [show (n.log2 : ℤ) - 52 = (t : ℤ) by omega, if_pos (Int.natCast_nonneg t), Int.toNat_natCast,
      show n.log2 + 1 - 53 = t by omega, one_mul, zpow_natCast, mul_comm]
    push_cast
    rfl

/-- What does not overflow is finite. -/
lemma exists_ofQuotient {num den : ℕ} {negative : Bool} (h : ofQuotient negative num den ≠ .infinite negative) :
    ∃ m q, ofQuotient negative num den = .finite negative m q := by
  obtain rfl | hnum := num.eq_zero_or_pos
  · exact ⟨0, leastExponent, rfl⟩
  rw [ofQuotient_eq negative hnum] at h ⊢
  split_ifs at h ⊢ <;> first | exact absurd rfl h | exact ⟨_, _, rfl⟩

/-- **A natural number that does not overflow is rounded** to 53 bits. -/
theorem exists_ofQuotient_one (negative : Bool) (hn : 0 < n) (hlt : n < overflowsFrom) :
    ∃ m q, ofQuotient negative n 1 = .finite negative m q ∧ (m : ℚ) * 2 ^ q = rounded n := by
  have hfinite : ofQuotient negative n 1 ≠ .infinite negative := by
    rw [Ne, ofQuotient_eq_infinite_iff negative one_pos]
    omega
  have hvalue := places_one hn
  rw [ofQuotient_eq negative hn] at hfinite ⊢
  split_ifs at hfinite ⊢ with hcarry
  · exact absurd rfl hfinite
  · refine ⟨2 ^ 52, lastPlace n 1 + 1, rfl, ?_⟩
    rw [← hvalue, hcarry, zpow_add_one₀ two_ne_zero]
    push_cast
    ring
  · exact absurd rfl hfinite
  · exact ⟨_, _, rfl, hvalue⟩

/-- No power of ten up to this one overflows. -/
lemma pow_ten_lt_overflowsFrom {e : ℕ} (he : e ≤ 308) : 10 ^ e < overflowsFrom := by
  have hgreatest : 10 ^ 308 < overflowsFrom := by decide +kernel
  exact (pow_le_pow_right₀ (by decide) he).trans_lt hgreatest

/-- A number with zeros behind it is no quotient. -/
lemma ofDecimal_natCast (negative : Bool) (hn : 0 < n) {e : ℕ} (he : e < 310) :
    ofDecimal negative n e = ofQuotient negative (n * 10 ^ e) 1 := by
  have hscale : scaleDown 10 n 1 (-(e : ℤ)) = (n * 10 ^ e, 1) := by
    rw [scaleDown]
    obtain rfl | hpos := e.eq_zero_or_pos
    · rw [if_pos (by omega), Nat.pow_zero, Nat.mul_one]
      rfl
    · rw [if_neg (by omega), neg_neg, Int.toNat_natCast]
      rfl
  rw [ofDecimal, if_neg hn.ne', if_neg (by omega), if_neg (by simp), hscale]

/-- **A number with zeros behind it is rounded** to 53 bits. -/
lemma exists_ofDecimal (negative : Bool) (hn : 0 < n) {e : ℕ} (he : e < 310) (hlt : n * 10 ^ e < overflowsFrom) :
    ∃ m q, ofDecimal negative n e = .finite negative m q ∧ (m : ℚ) * 2 ^ q = rounded (n * 10 ^ e) := by
  rw [ofDecimal_natCast negative hn he]
  exact exists_ofQuotient_one negative (by positivity) hlt

/-- What is left to decide of a product of powers of two. -/
lemma overflowsFrom_mul_le_scaleDown_iff {m : ℕ} {q : ℤ} (hvalue : (m : ℚ) * 2 ^ q = n) :
    overflowsFrom * (scaleDown 2 m 1 (-q)).2 ≤ (scaleDown 2 m 1 (-q)).1 ↔ overflowsFrom ≤ n := by
  obtain ⟨hpos, hscaled⟩ := scaleDown_div one_pos m (-q)
  rw [Nat.cast_one, div_one, zpow_neg, div_inv_eq_mul, hvalue] at hscaled
  rw [← Nat.cast_le (α := ℚ), Nat.cast_mul, ← le_div_iff₀ (Nat.cast_pos.mpr hpos), hscaled, Nat.cast_le]

end Naturals

end Binary64

end MonitorQuery.Decimal
