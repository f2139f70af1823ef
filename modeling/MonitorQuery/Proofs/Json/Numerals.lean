import MonitorQuery.Proofs.Json.Range
import MonitorQuery.Proofs.Json.Spelling
import MonitorQuery.Proofs.Text.Rest

/-!
The numbers of JSON as they are written.

A number has digits, of which a zero in front stands alone, and perhaps a sign before them, a fraction and an exponent behind them.
It ends where none of these can go on.

* `Numeral`, `Numeral.text`: the parts of a number, and what they are together.
* `Numeral.significand`, `Numeral.power`: what the digits that are taken amount to, and the power of ten that they stand at.
* `Numeral.InRange`: a number is in range if that is; `Numeral.overflows_iff`: the reader finds the others out of range.
* `magnitude_unsigned`: **a number without its sign is read to its end**, and found malformed if it is out of range.
* `number_text`: the same with the sign, as a lexeme that keeps the text.
-/

namespace MonitorQuery.Json

open MonitorQuery.Text MonitorQuery.Decimal

/-- Digits, at least one. -/
structure Digits where
  chars : List Char
  ne_nil : chars ≠ []
  isDigit : ∀ c ∈ chars, c.isDigit = true

/-- An exponent: its mark, perhaps a sign, and digits. -/
structure Exponent where
  mark : Char
  sign : Option Char
  digits : Digits
  mark_eq : mark = 'e' ∨ mark = 'E'
  sign_eq : ∀ c ∈ sign, c = '-' ∨ c = '+'

namespace Exponent

/-- What an exponent is in a text. -/
def text (e : Exponent) : List Char := e.mark :: (e.sign.toList ++ e.digits.chars)

/-- The number of an exponent. -/
def number (e : Exponent) : ℤ :=
  if e.sign = some '-' then -(Nat.ofDigitChars 10 e.digits.chars 0 : ℤ) else Nat.ofDigitChars 10 e.digits.chars 0

end Exponent

/-- A number as it is written. -/
structure Numeral where
  negative : Bool
  whole : Digits
  fraction : Option Digits
  exponent : Option Exponent
  zero_alone : whole.chars.head? = some '0' → whole.chars.length ≤ 1

namespace Numeral

/-- What a fraction is in a text. -/
def fractionText (n : Numeral) : List Char := (n.fraction.map fun ds => '.' :: ds.chars).getD []

/-- What an exponent is in a text. -/
def exponentText (n : Numeral) : List Char := (n.exponent.map Exponent.text).getD []

/-- A number without its sign. -/
def unsigned (n : Numeral) : List Char := n.whole.chars ++ (n.fractionText ++ n.exponentText)

/-- What a number is in a text. -/
def text (n : Numeral) : List Char := if n.negative then '-' :: n.unsigned else n.unsigned

/-- The digits behind the point. -/
def places (n : Numeral) : List Char := (n.fraction.map Digits.chars).getD []

/-- What the digits amount to that are taken, first before the point and then behind it. -/
def significand (n : Numeral) : ℕ := taken (taken 0 n.whole.chars) n.places

/-- The power of ten at the last digit that is taken. -/
def power (n : Numeral) : ℤ :=
  (n.exponent.map Exponent.number).getD 0 + (n.whole.chars.length - kept 0 n.whole.chars : ℕ)
    - kept (taken 0 n.whole.chars) n.places

/-- The number is not too large. -/
def InRange (n : Numeral) : Prop := Json.InRange n.significand n.power

instance (n : Numeral) : Decidable n.InRange := inferInstanceAs (Decidable (Json.InRange _ _))

/-- What the reader makes of the parts of a number. -/
def scaled (n : Numeral) : Scaled :=
  let s := ((Scaled.mk 0 0).addWhole n.whole.chars).addFraction n.places
  { s with exponent := s.exponent + (n.exponent.map Exponent.number).getD 0 }

/-- **The reader finds the numbers out of range that are.** -/
lemma overflows_iff (n : Numeral) : n.scaled.overflows = true ↔ ¬ n.InRange := by
  have hwhole : taken 0 n.whole.chars < 2 ^ 64 := taken_lt (by decide) _
  have hscaled : n.scaled = ⟨n.significand, n.power⟩ := by
    rw [scaled, Scaled.addWhole_eq (by decide), Scaled.addFraction_eq hwhole, Scaled.mk.injEq]
    refine ⟨rfl, ?_⟩
    rw [power]
    ring
  rw [hscaled]
  exact Scaled.overflows_iff (taken_lt hwhole _) _

end Numeral

/-- No number goes on with this text. -/
def EndsNumber (rest : List Char) : Prop :=
  ∀ c ∈ rest.head?, c.isDigit = false ∧ c ≠ '.' ∧ c ≠ 'e' ∧ c ≠ 'E'

section Parts

variable {rest : List Char}

/-- Digits are read to their end. -/
lemma answers_neededDigits (ds : Digits) (hrest : ∀ c ∈ rest.head?, c.isDigit = false) :
    Answers (neededDigits (ds.chars ++ rest)) (some ds.chars) rest := by
  obtain ⟨hlength, hfront⟩ := takeFront_append_of_head ds.isDigit hrest
  have hne : ds.chars.isEmpty = false := by simpa using ds.ne_nil
  rw [neededDigits, hfront]
  dsimp only
  rw [hne]
  exact answers_some rfl rfl

lemma answers_wholeDigits (n : Numeral) (hrest : ∀ c ∈ rest.head?, c.isDigit = false) :
    Answers (wholeDigits (n.whole.chars ++ rest)) (some n.whole.chars) rest := by
  obtain ⟨hlength, hread⟩ := answers_neededDigits n.whole hrest
  have hzero : ¬ ((n.whole.chars.head? = some '0' && 1 < n.whole.chars.length) = true) := by
    simpa using n.zero_alone
  rw [wholeDigits, hread, ok_bind]
  dsimp only
  rw [if_neg hzero]
  exact answers_some rfl rfl

lemma answers_fractionDigits (n : Numeral) (hrest : ∀ c ∈ rest.head?, c.isDigit = false ∧ c ≠ '.') :
    Answers (fractionDigits (n.fractionText ++ rest)) (some n.places) rest := by
  rw [Numeral.fractionText, Numeral.places]
  cases n.fraction with
  | none =>
      have hpoint : ∀ cs, rest ≠ '.' :: cs := by
        rintro cs rfl
        exact (hrest '.' rfl).2 rfl
      show Answers (fractionDigits rest) (some []) rest
      rw [fractionDigits]
      · exact answers_some rfl rfl
      · exact hpoint
  | some ds =>
      obtain ⟨hlength, hread⟩ := answers_neededDigits ds fun c hc => (hrest c hc).1
      show Answers (fractionDigits ('.' :: (ds.chars ++ rest))) (some ds.chars) rest
      rw [fractionDigits, hread, ok_bind]
      exact answers_some rfl rfl

/-- Digits begin with a digit. -/
lemma Digits.ne_cons (ds : Digits) {c : Char} (hc : c.isDigit = false) (cs : List Char) : ds.chars ++ rest ≠ c :: cs := by
  obtain ⟨d, chars, hchars⟩ := List.exists_cons_of_ne_nil ds.ne_nil
  have hd : d.isDigit = true := ds.isDigit d (hchars ▸ List.mem_cons_self)
  rw [hchars, List.cons_append]
  intro heq
  rw [(List.cons.inj heq).1, hc] at hd
  cases hd

/-- A sign is taken off the front of an exponent. -/
lemma exponentSign_append (e : Exponent) (rest : List Char) :
    ∃ h, exponentSign (e.sign.toList ++ (e.digits.chars ++ rest))
      = (decide (e.sign = some '-'), ⟨e.digits.chars ++ rest, h⟩) := by
  obtain ⟨mark, sign, digits, -, hsign⟩ := e
  refine ⟨by simp, ?_⟩
  cases sign with
  | none =>
      show exponentSign (digits.chars ++ rest) = (false, _)
      rw [exponentSign]
      · rfl
      · exact digits.ne_cons (by decide)
      · exact digits.ne_cons (by decide)
  | some c =>
      obtain rfl | rfl := hsign c rfl
      · rfl
      · rfl

lemma answers_exponentPart (n : Numeral) (hrest : EndsNumber rest) :
    Answers (exponentPart (n.exponentText ++ rest)) (some ((n.exponent.map Exponent.number).getD 0)) rest := by
  rw [Numeral.exponentText]
  cases n.exponent with
  | none =>
      show Answers (exponentPart rest) (some 0) rest
      cases rest with
      | nil => exact answers_some rfl rfl
      | cons c cs =>
          obtain ⟨-, -, he, hE⟩ := hrest c rfl
          rw [exponentPart, if_neg (by simp [he, hE])]
          exact answers_some rfl rfl
  | some e =>
      obtain ⟨hsign, hexponentSign⟩ := exponentSign_append e rest
      obtain ⟨hlength, hread⟩ := answers_neededDigits e.digits fun c hc => (hrest c hc).1
      have hmark : (decide (e.mark = 'e') || decide (e.mark = 'E')) = true := by simpa using e.mark_eq
      have htext : e.text ++ rest = e.mark :: (e.sign.toList ++ (e.digits.chars ++ rest)) := by simp [Exponent.text]
      show Answers (exponentPart (e.text ++ rest)) (some e.number) rest
      rw [htext, exponentPart, if_pos hmark, hexponentSign]
      dsimp only
      rw [hread, ok_bind, Exponent.number]
      simp only [decide_eq_true_eq]
      exact answers_some rfl rfl

/-! ### Numbers -/

/-- The fraction begins with its point, the exponent with its mark. -/
lemma Numeral.endsNumber_text (n : Numeral) (hrest : EndsNumber rest) :
    (∀ c ∈ (n.exponentText ++ rest).head?, c.isDigit = false ∧ c ≠ '.')
      ∧ ∀ c ∈ (n.fractionText ++ (n.exponentText ++ rest)).head?, c.isDigit = false := by
  have hexponent : ∀ c ∈ (n.exponentText ++ rest).head?, c.isDigit = false ∧ c ≠ '.' := by
    rw [exponentText]
    cases n.exponent with
    | none => exact fun c hc => ⟨(hrest c hc).1, (hrest c hc).2.1⟩
    | some e =>
        rintro c ⟨⟩
        obtain hmark | hmark := e.mark_eq
        · rw [hmark]
          decide
        · rw [hmark]
          decide
  refine ⟨hexponent, ?_⟩
  rw [fractionText]
  cases n.fraction with
  | none => exact fun c hc => (hexponent c hc).1
  | some ds =>
      rintro c ⟨⟩
      decide

/-- **A number without its sign is read to its end**, and found malformed if it is out of range. -/
lemma magnitude_unsigned (n : Numeral) (hrest : EndsNumber rest) :
    ∃ h, magnitude (n.unsigned ++ rest) = if n.InRange then .ok ⟨rest, h⟩ else .error .malformed := by
  obtain ⟨hexponent, hfraction⟩ := n.endsNumber_text hrest
  obtain ⟨hlength, hwhole⟩ := answers_wholeDigits n hfraction
  obtain ⟨hlength', hfractionDigits⟩ := answers_fractionDigits n hexponent
  obtain ⟨hlength'', hexponentPart⟩ := answers_exponentPart n hrest
  have htext : n.unsigned ++ rest = n.whole.chars ++ (n.fractionText ++ (n.exponentText ++ rest)) := by
    simp [Numeral.unsigned]
  rw [htext]
  refine ⟨hlength''.trans (hlength'.trans hlength), ?_⟩
  rw [magnitude, hwhole, ok_bind]
  dsimp only
  rw [hfractionDigits, ok_bind]
  dsimp only
  rw [hexponentPart, ok_bind]
  change (if n.scaled.overflows = true then _ else _) = _
  simp only [n.overflows_iff, ite_not]
  rfl

/-- The text that was read is what stands in front of the rest. -/
lemma readText_of_eq_append {cs text : List Char} (hcs : cs = text ++ rest) (h : rest.length ≤ cs.length) :
    readText (⟨rest, h⟩ : RestOrAll cs) = String.ofList text := by
  subst hcs
  have hlength : (text ++ rest).length - rest.length = text.length := by simp
  show String.ofList ((text ++ rest).take ((text ++ rest).length - rest.length)) = _
  rw [hlength, List.take_left]

/-- The value of a number, kept as its text. -/
def Numeral.value (n : Numeral) : Value := .number (String.ofList n.text)

/-- The first digit is no sign. -/
lemma Numeral.ne_minus (n : Numeral) {c : Char} {cs : List Char} (hcs : n.unsigned ++ rest = c :: cs) : c ≠ '-' := by
  rintro rfl
  rw [unsigned, List.append_assoc] at hcs
  exact n.whole.ne_cons (by decide) _ hcs

/-- **A number is read to its end as a lexeme**, and is broken if it is out of range. -/
theorem number_text (n : Numeral) (hrest : EndsNumber rest) {c : Char} {cs : List Char} (hcs : n.text ++ rest = c :: cs) :
    ∃ h, Lexeme.number c cs
      = if n.InRange then (.scalar n.value, ⟨rest, h⟩) else Lexeme.stop c false .malformed := by
  have hmagnitude := magnitude_unsigned n hrest
  cases hnegative : n.negative with
  | true =>
      have htext : n.text = '-' :: n.unsigned := by rw [Numeral.text, hnegative, if_pos rfl]
      rw [htext, List.cons_append] at hcs
      obtain ⟨rfl, rfl⟩ := List.cons.inj hcs
      obtain ⟨hlength, hmagnitude⟩ := hmagnitude
      refine ⟨Nat.lt_succ_of_le hlength, ?_⟩
      rw [Lexeme.number, if_pos rfl, hmagnitude]
      split_ifs with hrange
      · have hread : "-" ++ readText (⟨rest, hlength⟩ : RestOrAll (n.unsigned ++ rest)) = String.ofList n.text := by
          rw [readText_of_eq_append rfl, htext, String.ofList_cons]
          rfl
        dsimp only
        rw [hread]
        rfl
      · rfl
  | false =>
      have htext : n.text = n.unsigned := by rw [Numeral.text, hnegative]; rfl
      rw [htext] at hcs
      have hminus := n.ne_minus hcs
      obtain ⟨d, ds, hds⟩ := List.exists_cons_of_ne_nil n.whole.ne_nil
      have hshorter : rest.length < (c :: cs).length := by
        rw [← hcs, Numeral.unsigned, hds]
        simp
        omega
      rw [hcs] at hmagnitude
      obtain ⟨hlength, hmagnitude⟩ := hmagnitude
      refine ⟨hshorter, ?_⟩
      rw [Lexeme.number, if_neg hminus, hmagnitude]
      split_ifs with hrange
      · have hread : readText (⟨rest, hlength⟩ : RestOrAll (c :: cs)) = String.ofList n.text := by
          rw [readText_of_eq_append hcs.symm, htext]
        dsimp only
        rw [dif_pos hshorter, hread]
        rfl
      · rfl

end Parts

end MonitorQuery.Json
