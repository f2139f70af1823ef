import Mathlib.Data.Nat.Digits.Lemmas
import MonitorQuery.Json.Lexeme
import MonitorQuery.Proofs.Computation

/-!
The strings of JSON as they are written.

A string is written piece by piece: a character as it is, a backslash and a letter, or `\u` and the four hexadecimal digits of a
16-bit unit. A unit that is half of a character counts together with its other half, and writes nothing without it.

* `escapes`, `hexDigits`, `utf16`: the tables of letters and digits, and the units of a character; `escapeLetter?_eq_some_iff`,
  `hexadecimalValue?_eq_some_iff`: **the reader has the same tables.**
* `Piece`, `Spelling.text`: the pieces, each with the proof that it may stand in a string, and what they are together.
* `Spelling.Spells`: the characters that pieces write; `Spelling.decode?`: how they are found, if no half stands alone.
  `Spelling.decode?_eq_some_iff`: **they are found just where there are any.**
* `Answers`: a reader gives a value and leaves a rest, or finds a fault where there is no value.
* `answers_stringBody`: **a string is read as what its pieces write**, and with half a character in it not at all.
-/

namespace MonitorQuery.Json

open MonitorQuery.Text

/-! ### Readers -/

section Readers

variable {α β : Type} {P Q : List Char → Prop}

/-- The reader gives the value and leaves the rest, or finds the text malformed where there is no value. -/
def Answers (result : Except Fault (α × Subtype P)) (answer : Option α) (rest : List Char) : Prop :=
  match answer with
  | some a => ∃ h, result = .ok (a, ⟨rest, h⟩)
  | none => result = .error .malformed

lemma answers_some {result : Except Fault (α × Subtype P)} {a : α} {r : Subtype P} {rest : List Char}
    (h : result = .ok (a, r)) (hr : r.1 = rest) : Answers result (some a) rest := by
  subst hr
  exact ⟨r.2, h⟩

end Readers

/-! ### Tables -/

/-- The letters that may stand behind a backslash, with the characters that they stand for. -/
def escapes : List (Char × Char) :=
  [('\x22', '\x22'), ('\\', '\\'), ('/', '/'), ('b', '\x08'), ('f', '\x0c'), ('n', '\n'), ('r', '\r'), ('t', '\t')]

/-- The hexadecimal digits in both cases, with their values. -/
def hexDigits : List (Char × ℕ) :=
  [('0', 0), ('1', 1), ('2', 2), ('3', 3), ('4', 4), ('5', 5), ('6', 6), ('7', 7), ('8', 8), ('9', 9),
    ('a', 10), ('b', 11), ('c', 12), ('d', 13), ('e', 14), ('f', 15),
    ('A', 10), ('B', 11), ('C', 12), ('D', 13), ('E', 14), ('F', 15)]

/-- The 16-bit units of a character: its number, or two halves if that is beyond them. -/
def utf16 (c : Char) : List ℕ :=
  if c.toNat < 0x10000 then [c.toNat]
  else [0xD800 + (c.toNat - 0x10000) / 0x400, 0xDC00 + (c.toNat - 0x10000) % 0x400]

/-- A unit is the first half of a character. -/
def IsFirstHalf (n : ℕ) : Prop := 0xD800 ≤ n ∧ n < 0xDC00

/-- A unit is the second half of a character. -/
def IsSecondHalf (n : ℕ) : Prop := 0xDC00 ≤ n ∧ n < 0xE000

instance (n : ℕ) : Decidable (IsFirstHalf n) := inferInstanceAs (Decidable (_ ∧ _))

instance (n : ℕ) : Decidable (IsSecondHalf n) := inferInstanceAs (Decidable (_ ∧ _))

/-- The character of two halves. -/
def joined (first second : ℕ) : Char := Char.ofNat (0x10000 + 0x400 * (first - 0xD800) + (second - 0xDC00))

section Tables

/-- **The reader takes the letters of the table**, as what they stand for there. -/
lemma escapeLetter?_eq_some_iff {l c : Char} : escapeLetter? l = some c ↔ (l, c) ∈ escapes := by
  constructor
  · intro h
    rw [escapeLetter?] at h
    split_ifs at h with hself hb hf hn hr ht
    · cases h
      simp only [Bool.or_eq_true, decide_eq_true_eq] at hself
      obtain (rfl | rfl) | rfl := hself <;> decide
    all_goals
      cases h
      subst l
      decide
  · intro h
    have hall : ∀ e ∈ escapes, escapeLetter? e.1 = some e.2 := by decide
    exact hall (l, c) h

/-- **The reader takes the digits of the table**, at their values there. -/
lemma hexadecimalValue?_eq_some_iff {c : Char} {n : ℕ} : Hexadecimal.value? c = some n ↔ (c, n) ∈ hexDigits := by
  constructor
  · intro h
    have hsmall : c.toNat < 128 := by
      rw [Hexadecimal.value?] at h
      split_ifs at h with hdigit hlower hupper
      · simp [Char.isDigit, UInt32.le_iff_toNat_le] at hdigit
        omega
      · simp [Char.le_def, UInt32.le_iff_toNat_le] at hlower
        omega
      · simp [Char.le_def, UInt32.le_iff_toNat_le] at hupper
        omega
    have hall : ∀ i : Fin 128, ∀ n ∈ Hexadecimal.value? (Char.ofNat i), (Char.ofNat i, n) ∈ hexDigits := by decide
    have hc := hall ⟨c.toNat, hsmall⟩ n
    rw [Char.ofNat_toNat] at hc
    exact hc h
  · intro h
    have hall : ∀ d ∈ hexDigits, Hexadecimal.value? d.1 = some d.2 := by decide
    exact hall (c, n) h

lemma isHighUnit_iff {n : ℕ} : isHighUnit n = true ↔ IsFirstHalf n := by
  rw [isHighUnit, Bool.and_eq_true, decide_eq_true_eq, decide_eq_true_eq, IsFirstHalf]
  omega

lemma isLowUnit_iff {n : ℕ} : isLowUnit n = true ↔ IsSecondHalf n := by
  rw [isLowUnit, Bool.and_eq_true, decide_eq_true_eq, decide_eq_true_eq, IsSecondHalf]
  omega

lemma joinUnits_eq_joined (first second : ℕ) : joinUnits first second = joined first second := by
  have hnumber : (first - 0xD800) * 0x400 + (second - 0xDC00) + 0x10000 = 0x10000 + 0x400 * (first - 0xD800) + (second - 0xDC00) := by
    omega
  rw [joinUnits, joined, hnumber]

/-- A character has a number that is no half, up to the greatest. -/
lemma toNat_cases (c : Char) : c.toNat < 0xD800 ∨ 0xE000 ≤ c.toNat ∧ c.toNat < 0x110000 := by
  have hvalid : c.toNat < 0xD800 ∨ 0xDFFF < c.toNat ∧ c.toNat < 0x110000 := c.valid
  omega

/-- Numbers that are no halves are the numbers of characters. -/
lemma toNat_ofNat {n : ℕ} (h : n < 0xD800 ∨ 0xE000 ≤ n ∧ n < 0x110000) : (Char.ofNat n).toNat = n := by
  have hvalid : n.isValidChar := h.imp_right fun h => ⟨by omega, h.2⟩
  rw [Char.ofNat, dif_pos hvalid]
  rfl

/-- A unit that is no half is all there is of a character. -/
lemma utf16_ofNat {n : ℕ} (h : n < 0x10000) (hfirst : ¬ IsFirstHalf n) (hsecond : ¬ IsSecondHalf n) :
    utf16 (Char.ofNat n) = [n] := by
  rw [IsFirstHalf] at hfirst
  rw [IsSecondHalf] at hsecond
  rw [utf16, toNat_ofNat (by omega), if_pos h]

/-- Two halves are all there is of a character. -/
lemma utf16_joined {first second : ℕ} (hfirst : IsFirstHalf first) (hsecond : IsSecondHalf second) :
    utf16 (joined first second) = [first, second] := by
  obtain ⟨hfirst, hfirst'⟩ := hfirst
  obtain ⟨hsecond, hsecond'⟩ := hsecond
  rw [utf16, joined, toNat_ofNat (by omega), if_neg (by omega)]
  simp only [List.cons.injEq, and_true]
  omega

end Tables

/-! ### Pieces -/

/-- A 16-bit unit by its four hexadecimal digits, each with its value. -/
structure CodeUnit where
  digits : List (Char × ℕ)
  length_digits : digits.length = 4
  mem_hexDigits : ∀ d ∈ digits, d ∈ hexDigits

namespace CodeUnit

/-- What a unit is in a text. -/
def text (u : CodeUnit) : List Char := u.digits.map (·.1)

/-- The number of a unit. -/
def number (u : CodeUnit) : ℕ := Nat.ofDigits 16 (u.digits.map (·.2)).reverse

/-- A unit has 16 bits. -/
lemma number_lt (u : CodeUnit) : u.number < 0x10000 := by
  have hvalues : ∀ d ∈ hexDigits, d.2 < 16 := by decide
  have hdigits : ∀ n ∈ (u.digits.map (·.2)).reverse, n < 16 := by
    intro n hn
    obtain ⟨d, hd, rfl⟩ := List.mem_map.mp (List.mem_reverse.mp hn)
    exact hvalues d (u.mem_hexDigits d hd)
  have hlt := Nat.ofDigits_lt_base_pow_length (by decide) hdigits
  rwa [List.length_reverse, List.length_map, u.length_digits] at hlt

/-- Digits are read at their values. -/
lemma number?_map {ds : List (Char × ℕ)} (h : ∀ d ∈ ds, d ∈ hexDigits) (n : ℕ) :
    Hexadecimal.number? n (ds.map (·.1)) = some (Nat.ofDigits 16 (ds.map (·.2)).reverse + 16 ^ ds.length * n) := by
  induction ds generalizing n with
  | nil => simp [Hexadecimal.number?]
  | cons d ds ih =>
      obtain ⟨hd, hds⟩ := List.forall_mem_cons.mp h
      rw [List.map_cons, Hexadecimal.number?, hexadecimalValue?_eq_some_iff.mpr hd, Option.bind_some, ih hds, List.map_cons,
        List.reverse_cons, Nat.ofDigits_append, Nat.ofDigits_singleton, List.length_reverse, List.length_map, List.length_cons]
      congr 1
      ring

end CodeUnit

/-- A piece of a string as it is written. -/
inductive Piece
  /-- A character that stands for itself. -/
  | plain (c : Char) (h : c ≠ '\x22' ∧ c ≠ '\\' ∧ 32 ≤ c.toNat)
  /-- A letter behind a backslash, and the character it stands for. -/
  | letter (l c : Char) (h : (l, c) ∈ escapes)
  /-- A unit behind a backslash and a `u`. -/
  | unit (u : CodeUnit)

/-- What a piece is in a text. -/
def Piece.text : Piece → List Char
  | plain c _ => [c]
  | letter l _ _ => ['\\', l]
  | unit u => '\\' :: 'u' :: u.text

/-- A string as it is written, piece by piece. -/
abbrev Spelling := List Piece

namespace Spelling

/-- The pieces one after the other, up to and with the quotation mark that ends the string. -/
def body (ps : Spelling) : List Char := ps.flatMap Piece.text ++ ['\x22']

/-- The string between its quotation marks. -/
def text (ps : Spelling) : List Char := '\x22' :: ps.body

/-- Pieces write characters: one for each that stands for one, and one for the units of each that has any. -/
inductive Spells : Spelling → List Char → Prop
  | nil : Spells [] []
  | plain {c : Char} {h : c ≠ '\x22' ∧ c ≠ '\\' ∧ 32 ≤ c.toNat} {ps : Spelling} {cs : List Char} (hps : Spells ps cs) :
      Spells (.plain c h :: ps) (c :: cs)
  | letter {l c : Char} {h : (l, c) ∈ escapes} {ps : Spelling} {cs : List Char} (hps : Spells ps cs) :
      Spells (.letter l c h :: ps) (c :: cs)
  | units {us : List CodeUnit} {c : Char} {ps : Spelling} {cs : List Char} (hus : us.map CodeUnit.number = utf16 c)
      (hps : Spells ps cs) : Spells (us.map .unit ++ ps) (c :: cs)

/-- The characters that pieces write. Half a character without its other half writes nothing. -/
def decode? : Spelling → Option (List Char)
  | [] => some []
  | .plain c _ :: ps => (decode? ps).map (c :: ·)
  | .letter _ c _ :: ps => (decode? ps).map (c :: ·)
  | .unit u :: ps =>
    if IsFirstHalf u.number then
      match ps with
      | .unit v :: ps =>
        if IsSecondHalf v.number then (decode? ps).map (joined u.number v.number :: ·) else none
      | _ => none
    else if IsSecondHalf u.number then none
    else (decode? ps).map (Char.ofNat u.number :: ·)

variable {u : CodeUnit}

/-- A unit and the pieces behind it. -/
lemma body_unit_cons (u : CodeUnit) (ps : Spelling) (rest : List Char) :
    body (.unit u :: ps) ++ rest = '\\' :: 'u' :: (u.text ++ (body ps ++ rest)) := by
  simp [body, Piece.text]

/-- A unit that is no first half writes a character, if it is no second half. -/
lemma decode?_unit (hfirst : ¬ IsFirstHalf u.number) (ps : Spelling) :
    decode? (.unit u :: ps)
      = (if IsSecondHalf u.number then none else some (Char.ofNat u.number)).bind fun c => (decode? ps).map (c :: ·) := by
  match ps with
  | [] | .plain _ _ :: _ | .letter _ _ _ :: _ | .unit _ :: _ =>
      simp only [decode?, hfirst, if_false]
      split <;> rfl

/-- A first half with the unit behind it writes a character, if that is a second half. -/
lemma decode?_pair (hfirst : IsFirstHalf u.number) (v : CodeUnit) (ps : Spelling) :
    decode? (.unit u :: .unit v :: ps)
      = (if IsSecondHalf v.number then some (joined u.number v.number) else none).bind fun c => (decode? ps).map (c :: ·) := by
  rw [decode?, if_pos hfirst]
  split <;> rfl

/-- A first half with no unit behind it writes nothing. -/
lemma decode?_alone (hfirst : IsFirstHalf u.number) {ps : Spelling} (h : ∀ v ps', ps ≠ .unit v :: ps') :
    decode? (.unit u :: ps) = none := by
  match ps with
  | [] | .plain _ _ :: _ | .letter _ _ _ :: _ => simp only [decode?, hfirst, if_true]
  | .unit v :: ps => exact absurd rfl (h v ps)

/-- The units of a character write it. -/
lemma decode?_units {us : List CodeUnit} {c : Char} (hus : us.map CodeUnit.number = utf16 c) (ps : Spelling) :
    decode? (us.map .unit ++ ps) = (decode? ps).map (c :: ·) := by
  have hc := toNat_cases c
  rw [utf16] at hus
  split_ifs at hus with hsmall
  · obtain ⟨u, rfl, hu⟩ := List.map_eq_singleton_iff.mp hus
    have hfirst : ¬ IsFirstHalf u.number := by rw [IsFirstHalf, hu]; omega
    have hsecond : ¬ IsSecondHalf u.number := by rw [IsSecondHalf, hu]; omega
    rw [List.map_singleton, List.singleton_append, decode?_unit hfirst, if_neg hsecond, hu, Char.ofNat_toNat]
    rfl
  · obtain ⟨u, vs, rfl, hu, hvs⟩ := List.map_eq_cons_iff.mp hus
    obtain ⟨v, rfl, hv⟩ := List.map_eq_singleton_iff.mp hvs
    have hfirst : IsFirstHalf u.number := by rw [IsFirstHalf, hu]; omega
    have hsecond : IsSecondHalf v.number := by rw [IsSecondHalf, hv]; omega
    have hnumber : 0x10000 + 0x400 * (u.number - 0xD800) + (v.number - 0xDC00) = c.toNat := by
      omega
    have hjoined : joined u.number v.number = c := by
      rw [joined, hnumber, Char.ofNat_toNat]
    rw [List.map_cons, List.map_singleton, List.cons_append, List.singleton_append, decode?_pair hfirst, if_pos hsecond, hjoined]
    rfl

/-- What is found is what the pieces write. -/
lemma spells_of_decode? : ∀ {ps : Spelling} {cs : List Char}, decode? ps = some cs → Spells ps cs
  | [], cs, h => by
      cases h
      exact .nil
  | .plain c _ :: ps, cs, h => by
      obtain ⟨cs, hcs, rfl⟩ := Option.map_eq_some_iff.mp h
      exact .plain (spells_of_decode? hcs)
  | .letter l c _ :: ps, cs, h => by
      obtain ⟨cs, hcs, rfl⟩ := Option.map_eq_some_iff.mp h
      exact .letter (spells_of_decode? hcs)
  | .unit u :: ps, cs, h => by
      by_cases hfirst : IsFirstHalf u.number
      · match ps with
        | [] | .plain _ _ :: _ | .letter _ _ _ :: _ => simp [decode?, hfirst] at h
        | .unit v :: ps =>
            rw [decode?_pair hfirst] at h
            split_ifs at h with hsecond
            · obtain ⟨cs, hcs, rfl⟩ := Option.map_eq_some_iff.mp h
              have hunits : [u, v].map CodeUnit.number = utf16 (joined u.number v.number) := (utf16_joined hfirst hsecond).symm
              exact .units hunits (spells_of_decode? hcs)
            · cases h
      · rw [decode?_unit hfirst] at h
        split_ifs at h with hsecond
        · cases h
        · obtain ⟨cs, hcs, rfl⟩ := Option.map_eq_some_iff.mp h
          have hunits : [u].map CodeUnit.number = utf16 (Char.ofNat u.number) :=
            (utf16_ofNat u.number_lt hfirst hsecond).symm
          exact .units hunits (spells_of_decode? hcs)

/-- **The characters that pieces write are found**, just where there are any. -/
theorem decode?_eq_some_iff {ps : Spelling} {cs : List Char} : decode? ps = some cs ↔ Spells ps cs := by
  refine ⟨spells_of_decode?, fun h => ?_⟩
  induction h with
  | nil => rfl
  | plain _ ih | letter _ ih => rw [decode?, ih, Option.map_some]
  | units hus _ ih => rw [decode?_units hus, ih, Option.map_some]

end Spelling

/-! ### Units -/

section Units

variable {cs rest : List Char}

/-- Four digits are read as their number. -/
lemma unit_append (u : CodeUnit) (rest : List Char) : Answers (unit (u.text ++ rest)) (some u.number) rest := by
  have hnumber : Hexadecimal.number? 0 u.text = some u.number := by
    rw [CodeUnit.text, CodeUnit.number?_map u.mem_hexDigits, Nat.mul_zero, Nat.add_zero]
    rfl
  obtain ⟨a, b, c, d, htext⟩ : ∃ a b c d, u.text = [a, b, c, d] := by
    have hlength : u.text.length = 4 := by rw [CodeUnit.text, List.length_map, u.length_digits]
    match u.text, hlength with
    | [a, b, c, d], _ => exact ⟨a, b, c, d, rfl⟩
  have hsize : ¬ (String.ofList ((a :: b :: c :: d :: rest).take 4)).utf8ByteSize < 4 := by
    have ha := Char.utf8Size_pos a
    have hb := Char.utf8Size_pos b
    have hc := Char.utf8Size_pos c
    have hd := Char.utf8Size_pos d
    simp only [List.take_succ_cons, List.take_zero, String.ofList_cons, String.utf8ByteSize_append, String.utf8ByteSize_singleton]
    omega
  rw [htext] at hnumber ⊢
  have hread : unit (a :: b :: c :: d :: rest)
      = .ok (u.number, ((((RestOrAll.all rest).behind d).behind c).behind b |>.behind a).weaken) := by
    rw [unit, if_neg hsize]
    simp only [hnumber]
  exact answers_some hread rfl

/-- No letter behind a backslash is a `u`. -/
lemma ne_of_mem_escapes {l c : Char} (h : (l, c) ∈ escapes) : l ≠ 'u' := by
  have hall : ∀ e ∈ escapes, e.1 ≠ 'u' := by decide
  exact hall (l, c) h

/-- Behind a first half there is a second one only where the next piece is a unit. -/
lemma lowUnit_body (high : ℕ) {ps : Spelling} (h : ∀ v ps', ps ≠ .unit v :: ps') (rest : List Char) :
    lowUnit high (Spelling.body ps ++ rest) = .error .malformed := by
  match ps with
  | [] => rfl
  | .plain c hc :: ps =>
      have hbackslash : c ≠ '\\' := hc.2.1
      have htext : Spelling.body (.plain c hc :: ps) ++ rest = c :: (Spelling.body ps ++ rest) := rfl
      rw [htext, lowUnit]
      · simp
      · simp [hbackslash]
      · simp [hbackslash]
  | .letter l c hl :: ps =>
      have hletter := ne_of_mem_escapes hl
      have htext : Spelling.body (.letter l c hl :: ps) ++ rest = '\\' :: l :: (Spelling.body ps ++ rest) := rfl
      rw [htext, lowUnit]
      · simp
      · simp
      · simp [hletter]
  | .unit v :: ps => exact absurd rfl (h v ps)

/-- A unit that is a second half completes a character, and no other does. -/
lemma answers_lowUnit (first : ℕ) (v : CodeUnit) (cs : List Char) :
    Answers (lowUnit first ('\\' :: 'u' :: (v.text ++ cs)))
      (if IsSecondHalf v.number then some (joined first v.number) else none) cs := by
  obtain ⟨h, hunit⟩ := unit_append v cs
  rw [lowUnit, hunit, ok_bind]
  simp only [isLowUnit_iff, joinUnits_eq_joined]
  split_ifs
  · exact answers_some rfl rfl
  · rfl

/-- A first half is read together with its second half. -/
lemma answers_unicodeEscape_first {u : CodeUnit} (hfirst : IsFirstHalf u.number) {cs rest : List Char} {o : Option Char}
    (h : Answers (lowUnit u.number cs) o rest) : Answers (unicodeEscape (u.text ++ cs)) o rest := by
  obtain ⟨hlength, hunit⟩ := unit_append u cs
  rw [unicodeEscape, hunit, ok_bind]
  dsimp only
  rw [if_pos (isHighUnit_iff.mpr hfirst)]
  cases o with
  | none => rw [show lowUnit u.number cs = .error .malformed from h]; rfl
  | some c =>
      obtain ⟨hlength', hread⟩ := h
      rw [hread]
      exact answers_some rfl rfl

/-- A unit that is no first half is a character, if it is no second half. -/
lemma answers_unicodeEscape {u : CodeUnit} (hfirst : ¬ IsFirstHalf u.number) (cs : List Char) :
    Answers (unicodeEscape (u.text ++ cs)) (if IsSecondHalf u.number then none else some (Char.ofNat u.number)) cs := by
  obtain ⟨hlength, hunit⟩ := unit_append u cs
  rw [unicodeEscape, hunit, ok_bind]
  simp only [isHighUnit_iff, isLowUnit_iff, hfirst, if_false]
  split_ifs
  · rfl
  · exact answers_some rfl rfl

end Units

/-! ### Strings -/

section Strings

variable {cs rest : List Char}

/-- What is read behind `\u` is read behind the backslash. -/
lemma answers_escape_unit {o : Option Char} (h : Answers (unicodeEscape cs) o rest) :
    Answers (escape ('u' :: cs)) o rest := by
  cases o with
  | none =>
      rw [escape, if_pos rfl, show unicodeEscape cs = .error .malformed from h]
      rfl
  | some c =>
      obtain ⟨hlength, hread⟩ := h
      rw [escape, if_pos rfl, hread]
      exact answers_some rfl rfl

/-- A letter behind a backslash is read as what it stands for. -/
lemma answers_escape_letter {l c : Char} (h : (l, c) ∈ escapes) (cs : List Char) :
    Answers (escape (l :: cs)) (some c) cs := by
  rw [escape, if_neg (ne_of_mem_escapes h), escapeLetter?_eq_some_iff.mpr h]
  exact answers_some rfl rfl

/-- A string goes on behind an escape, if that is read. -/
lemma answers_stringBody_escape {d : Char} {o : Option (List Char)} {cs' : List Char}
    (hescape : Answers (escape cs) (some d) cs') (h : Answers (stringBody cs') o rest) :
    Answers (stringBody ('\\' :: cs)) (o.map (d :: ·)) rest := by
  obtain ⟨hlength, hread⟩ := hescape
  rw [stringBody, if_neg (by decide), if_pos rfl, hread]
  dsimp only
  cases o with
  | none => rw [show stringBody cs' = .error .malformed from h]; rfl
  | some ds =>
      obtain ⟨hlength', hread'⟩ := h
      rw [hread']
      exact answers_some rfl rfl

/-- With an escape that is none a string is none. -/
lemma stringBody_of_escape (h : escape cs = .error .malformed) : stringBody ('\\' :: cs) = .error .malformed := by
  rw [stringBody, if_neg (by decide), if_pos rfl, h]

/-- A string goes on behind a character that stands for itself. -/
lemma answers_stringBody_plain {c : Char} (hc : c ≠ '\x22' ∧ c ≠ '\\' ∧ 32 ≤ c.toNat) {o : Option (List Char)}
    (h : Answers (stringBody cs) o rest) : Answers (stringBody (c :: cs)) (o.map (c :: ·)) rest := by
  rw [stringBody, if_neg hc.1, if_neg hc.2.1, if_neg (by omega)]
  cases o with
  | none => rw [show stringBody cs = .error .malformed from h]; rfl
  | some ds =>
      obtain ⟨hlength, hread⟩ := h
      rw [hread]
      exact answers_some rfl rfl

/-- A string with a unit in it goes on behind that, if it is read. -/
lemma answers_stringBody_unit {u : CodeUnit} {d : Option Char} {o : Option (List Char)} {cs' : List Char}
    (hunit : Answers (unicodeEscape (u.text ++ cs)) d cs') (h : Answers (stringBody cs') o rest) :
    Answers (stringBody ('\\' :: 'u' :: (u.text ++ cs))) (d.bind fun d => o.map (d :: ·)) rest := by
  have hescape := answers_escape_unit hunit
  cases d with
  | none => exact stringBody_of_escape hescape
  | some d => exact answers_stringBody_escape hescape h

/-- **A string is read as what its pieces write**, and not at all if they write nothing. -/
theorem answers_stringBody (ps : Spelling) (rest : List Char) : Answers (stringBody (ps.body ++ rest)) ps.decode? rest := by
  match ps with
  | [] =>
      show Answers (stringBody ('\x22' :: rest)) (some []) rest
      rw [stringBody, if_pos rfl]
      exact answers_some rfl rfl
  | .plain c hc :: ps => exact answers_stringBody_plain hc (answers_stringBody ps rest)
  | .letter l c hl :: ps => exact answers_stringBody_escape (answers_escape_letter hl _) (answers_stringBody ps rest)
  | .unit u :: ps =>
      rw [Spelling.body_unit_cons]
      by_cases hfirst : IsFirstHalf u.number
      · by_cases hpair : ∃ v ps', ps = .unit v :: ps'
        · obtain ⟨v, ps, rfl⟩ := hpair
          rw [Spelling.body_unit_cons, Spelling.decode?_pair hfirst]
          exact answers_stringBody_unit (answers_unicodeEscape_first hfirst (answers_lowUnit u.number v _))
            (answers_stringBody ps rest)
        · have halone : ∀ v ps', ps ≠ .unit v :: ps' := fun v ps' heq => hpair ⟨v, ps', heq⟩
          have hnone : Answers (lowUnit u.number (Spelling.body ps ++ rest)) none rest := lowUnit_body u.number halone rest
          rw [Spelling.decode?_alone hfirst halone]
          exact stringBody_of_escape (answers_escape_unit (answers_unicodeEscape_first hfirst hnone))
      · rw [Spelling.decode?_unit hfirst]
        exact answers_stringBody_unit (answers_unicodeEscape hfirst _) (answers_stringBody ps rest)

end Strings

end MonitorQuery.Json
