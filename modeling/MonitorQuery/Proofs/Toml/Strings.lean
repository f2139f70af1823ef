import Mathlib.Tactic
import MonitorQuery.Proofs.Text.Rest
import MonitorQuery.Toml.Writer

/-!
The strings of TOML, written and read back.

A string is written in one of four forms, and read by one of four readers. Each is followed along the string: what is written
for one more character is read as that character, whatever stands behind it. The marks at the very end of a string in triple
marks are the one thing that is not: they are read together with the three that close it.

* `Escapes`: what stands for a character behind a backslash; `exists_escapes`: what is written there does.
* `basicChars_cons_cases`: **how one more character is written between quotation marks.**
* `markRun_end`, `markRun_middle`: when a run of marks ends a string.
* `reads_basicBody`, `reads_literalBody`, `reads_multilineBasicBody`, `reads_multilineLiteralBody`: the four readers, by
  induction on the string.
* `reads_writeString`: **a string is read back**, whatever its characters are.
-/

namespace MonitorQuery.Toml

open MonitorQuery.Text

/-! ### Escapes -/

/-- No new line begins with another character. -/
lemma newLine?_eq_none {cs : List Char} (h : ∀ c ∈ cs.head?, c ≠ '\n' ∧ c ≠ '\r') : newLine? cs = none := by
  rw [newLine?]
  · rintro rest rfl
    exact (h '\n' rfl).1 rfl
  · rintro rest rfl
    exact (h '\r' rfl).2 rfl

/-- A backslash does not end its line before a character that is neither blank nor a new line. -/
lemma continuation?_eq_none {cs : List Char} (h : ∀ c ∈ cs.head?, isBlank c = false ∧ c ≠ '\n' ∧ c ≠ '\r') :
    continuation? cs = none := by
  have hnone : newLine? (skipFront isBlank cs).1 = none := by
    rw [skipFront_of_head fun c hc => (h c hc).1]
    exact newLine?_eq_none fun c hc => (h c hc).2
  rw [continuation?]
  simp only [hnone]

/-- Behind a backslash, the characters stand for one, and the backslash does not end its line. -/
def Escapes (ds : List Char) (c : Char) : Prop := ∀ rest, Reads (escape (ds ++ rest)) c rest ∧ continuation? (ds ++ rest) = none

lemma escapes_letter {d c : Char} (h : escapeLetter? d = some c) : Escapes [d] c := by
  have hne : ∀ x, escapeLetter? x = none → d ≠ x := by
    rintro x hx rfl
    rw [hx] at h
    cases h
  have hhead : isBlank d = false ∧ d ≠ '\n' ∧ d ≠ '\r' :=
    ⟨by simp [isBlank, hne ' ' (by decide), hne '\t' (by decide)], hne _ (by decide), hne _ (by decide)⟩
  intro rest
  refine ⟨?_, continuation?_eq_none (by simpa using hhead)⟩
  rw [List.singleton_append, escape, if_neg (hne 'u' (by decide)), if_neg (hne 'U' (by decide)), h]
  exact ⟨_, rfl⟩

/-- A character by its number. -/
lemma escapes_numbered {c : Char} (hc : c.toNat < 256) :
    Escapes ['u', '0', '0', Hexadecimal.upper (c.toNat / 16), Hexadecimal.upper (c.toNat % 16)] c := by
  have hnumber : Hexadecimal.number? 0 ['0', '0', Hexadecimal.upper (c.toNat / 16), Hexadecimal.upper (c.toNat % 16)]
      = some c.toNat := by
    have hzero : Hexadecimal.value? '0' = some 0 := by decide
    simp only [Hexadecimal.number?, hzero, Hexadecimal.value?_upper (show c.toNat / 16 < 16 by omega),
      Hexadecimal.value?_upper (show c.toNat % 16 < 16 by omega), Option.bind_some, Option.some.injEq]
    omega
  have hvalid : c.toNat.isValidChar := c.valid
  have hhead : isBlank 'u' = false ∧ 'u' ≠ '\n' ∧ 'u' ≠ '\r' := by decide
  intro rest
  refine ⟨?_, continuation?_eq_none (by simpa using hhead)⟩
  simp only [List.cons_append, List.nil_append]
  rw [escape, if_pos rfl, numbered]
  simp only [List.take_succ_cons, List.take_zero, List.drop_succ_cons, List.drop_zero, hnumber, List.length_cons,
    List.length_nil, if_pos hvalid, Char.ofNat_toNat]
  exact ⟨_, rfl⟩

section Escaped

variable {keepNewLines : Bool} {c : Char}

/-- **What is written for a character behind a backslash stands for it.** -/
lemma exists_escapes {ds : List Char} (h : escaped? keepNewLines c = some ds) :
    ∃ tail, ds = '\\' :: tail ∧ Escapes tail c := by
  have hletter : ∀ d, ['\\', d] = ds → escapeLetter? d = some c → ∃ tail, ds = '\\' :: tail ∧ Escapes tail c :=
    fun d hds hd => ⟨[d], hds.symm, escapes_letter hd⟩
  rw [escaped?] at h
  split_ifs at h with hslash hb ht hn hkeep hf hr hnumber
  · exact hletter '\\' (Option.some.inj h) (by rw [hslash]; rfl)
  · exact hletter 'b' (Option.some.inj h) (hb ▸ rfl)
  · exact hletter 't' (Option.some.inj h) (ht ▸ rfl)
  · exact hletter 'n' (Option.some.inj h) (hn ▸ rfl)
  · exact hletter 'f' (Option.some.inj h) (hf ▸ rfl)
  · exact hletter 'r' (Option.some.inj h) (hr ▸ rfl)
  · have hsmall : c.toNat < 256 := by
      simp only [needsEscape, Bool.and_eq_true, Bool.or_eq_true, decide_eq_true_eq, beq_iff_eq] at hnumber
      omega
    exact ⟨_, (Option.some.inj h).symm, escapes_numbered hsmall⟩

/-- What needs no escape may stand in a string on one line, unless it is a new line. -/
lemma isPlain_of_not_needsEscape (h : needsEscape c = false) (hn : c ≠ '\n') : isPlain c = true := by
  by_cases ht : c = '\t'
  · subst ht
    rfl
  · simpa [needsEscape, isPlain, ht, hn] using h

/-- A character that is written as it is. -/
lemma of_escaped?_eq_none (h : escaped? keepNewLines c = none) :
    c ≠ '\\' ∧ (isPlain c = true ∨ keepNewLines = true ∧ c = '\n') := by
  rw [escaped?] at h
  split_ifs at h with hslash hb ht hn hkeep hf hr hnumber
  · exact ⟨hslash, .inr ⟨hkeep, hn⟩⟩
  · refine ⟨hslash, .inl ?_⟩
    exact isPlain_of_not_needsEscape (by simpa using hnumber) hn

/-- **How one more character is written between quotation marks**: a quotation mark as it is where the run before it is short, any
character behind a backslash, or one as it is that is neither a quotation mark nor a backslash. -/
lemma basicChars_cons_cases (keepNewLines : Bool) (bound run : ℕ) (c : Char) (cs : List Char) :
    (c = '\x22' ∧ run < bound
        ∧ basicChars keepNewLines bound run (c :: cs) = '\x22' :: basicChars keepNewLines bound (run + 1) cs)
      ∨ (∃ tail, Escapes tail c
        ∧ basicChars keepNewLines bound run (c :: cs) = '\\' :: (tail ++ basicChars keepNewLines bound 0 cs))
      ∨ (c ≠ '\x22' ∧ c ≠ '\\' ∧ (isPlain c = true ∨ keepNewLines = true ∧ c = '\n')
        ∧ basicChars keepNewLines bound run (c :: cs) = c :: basicChars keepNewLines bound 0 cs) := by
  rw [basicChars]
  by_cases hmark : c = '\x22'
  · rw [if_pos hmark]
    by_cases hrun : run < bound
    · rw [if_pos hrun]
      exact .inl ⟨hmark, hrun, by rw [hmark]⟩
    · rw [if_neg hrun]
      exact .inr (.inl ⟨['\x22'], escapes_letter (by rw [hmark]; rfl), rfl⟩)
  · rw [if_neg hmark]
    cases hescaped : escaped? keepNewLines c with
    | some ds =>
        obtain ⟨tail, rfl, htail⟩ := exists_escapes hescaped
        exact .inr (.inl ⟨tail, htail, rfl⟩)
    | none =>
        obtain ⟨hslash, hc⟩ := of_escaped?_eq_none hescaped
        exact .inr (.inr ⟨hmark, hslash, hc, rfl⟩)

end Escaped

/-! ### Strings on one line -/

section BasicBody

variable {c : Char} {cs ds rest tail : List Char}

lemma reads_basicBody_end (rest : List Char) : Reads (basicBody ('\x22' :: rest)) [] rest := by
  rw [basicBody, if_pos rfl]
  exact ⟨_, rfl⟩

lemma Escapes.reads_basicBody (h : Escapes tail c) (hbody : Reads (basicBody cs) ds rest) :
    Reads (basicBody ('\\' :: (tail ++ cs))) (c :: ds) rest := by
  obtain ⟨⟨hlt, hescape⟩, -⟩ := h cs
  obtain ⟨hlt', hbody⟩ := hbody
  rw [basicBody, if_neg (by decide), if_pos rfl, hescape]
  simp only [hbody]
  exact ⟨_, rfl⟩

lemma reads_basicBody_cons (hmark : c ≠ '\x22') (hslash : c ≠ '\\') (hplain : isPlain c = true)
    (hbody : Reads (basicBody cs) ds rest) : Reads (basicBody (c :: cs)) (c :: ds) rest := by
  obtain ⟨hlt, hbody⟩ := hbody
  rw [basicBody, if_neg hmark, if_neg hslash, if_pos hplain, hbody]
  exact ⟨_, rfl⟩

/-- **What is written between quotation marks is read back**, if no new line is kept and every quotation mark is escaped. -/
lemma reads_basicBody (cs rest : List Char) (run : ℕ) :
    Reads (basicBody (basicChars false 0 run cs ++ '\x22' :: rest)) cs rest := by
  induction cs generalizing run with
  | nil => exact reads_basicBody_end rest
  | cons c cs ih =>
      obtain ⟨-, hrun, -⟩ | ⟨tail, htail, hchars⟩ | ⟨hmark, hslash, hc, hchars⟩ :=
        basicChars_cons_cases false 0 run c cs
      · exact absurd hrun (Nat.not_lt_zero _)
      · rw [hchars, List.cons_append, List.append_assoc]
        exact htail.reads_basicBody (ih 0)
      · rw [hchars, List.cons_append]
        have hplain : isPlain c = true := hc.resolve_right fun h => Bool.false_ne_true h.1
        exact reads_basicBody_cons hmark hslash hplain (ih 0)

end BasicBody

/-- A string without marks that needs no escape is read as it is between apostrophes. -/
lemma reads_literalBody {cs : List Char} (hplain : ∀ c ∈ cs, isPlain c = true) (hmark : '\x27' ∉ cs) (rest : List Char) :
    Reads (literalBody (cs ++ '\x27' :: rest)) cs rest := by
  induction cs with
  | nil =>
      rw [List.nil_append, literalBody, if_pos rfl]
      exact ⟨_, rfl⟩
  | cons c cs ih =>
      obtain ⟨hc, hcs⟩ := List.forall_mem_cons.mp hplain
      rw [List.mem_cons, not_or] at hmark
      obtain ⟨hne, hmark⟩ := hmark
      obtain ⟨hlt, hbody⟩ := ih hcs hmark
      rw [List.cons_append, literalBody, if_neg (Ne.symm hne), if_pos hc, hbody]
      exact ⟨_, rfl⟩

/-! ### Runs of marks -/

section Runs

variable {mark : Char} {cs rest : List Char}

/-- The marks at the end of a string are told from the three behind it. -/
lemma markRun_end (hcs : ∀ c ∈ cs, c = mark) (hlength : cs.length ≤ 2) (hrest : mark ∉ rest.head?) :
    ∃ h, markRun mark (cs ++ mark :: mark :: mark :: rest) = (cs.length, true, ⟨rest, h⟩) := by
  have htake : (cs ++ mark :: mark :: mark :: rest).takeWhile (· == mark) = cs ++ [mark, mark, mark] := by
    have hall : ∀ c ∈ cs ++ [mark, mark, mark], (c == mark) = true := by
      intro c hc
      obtain hc | hc := List.mem_append.mp hc
      · simpa using hcs c hc
      · simpa using hc
    have hhead : ∀ c ∈ rest.head?, (c == mark) = false := by
      intro c hc
      exact beq_false_of_ne fun heq => hrest (heq ▸ hc)
    have h := takeWhile_append_of_head hall hhead
    rwa [List.append_assoc] at h
  have hn : min ((cs ++ mark :: mark :: mark :: rest).takeWhile (· == mark)).length 5 = cs.length + 3 := by
    rw [htake, List.length_append, List.length_cons, List.length_cons, List.length_cons, List.length_nil]
    omega
  have hdrop : (cs ++ mark :: mark :: mark :: rest).drop (cs.length + 3) = rest := by
    rw [← List.drop_drop, List.drop_left]
    rfl
  have hle : rest.length ≤ (cs ++ mark :: mark :: mark :: rest).length := by
    simp only [List.length_append, List.length_cons]
    omega
  refine ⟨hle, Prod.ext ?_ (Prod.ext ?_ (Subtype.ext ?_))⟩
  · simp only [markRun, hn]
    rw [if_neg (by omega), Nat.add_sub_cancel]
  · simp only [markRun, hn]
    exact decide_eq_true (Nat.le_add_left 3 _)
  · simp only [markRun, hn]
    exact hdrop

/-- It begins with a mark in any case. -/
lemma exists_markRun_end (hcs : ∀ c ∈ cs, c = mark) (hlength : cs.length ≤ 2) (hrest : mark ∉ rest.head?) :
    ∃ front h, cs ++ mark :: mark :: mark :: rest = mark :: front
      ∧ markRun mark (mark :: front) = (cs.length, true, ⟨rest, h⟩) := by
  have hrun := markRun_end hcs hlength hrest
  obtain ⟨front, hfront⟩ : ∃ front, cs ++ mark :: mark :: mark :: rest = mark :: front := by
    cases cs with
    | nil => exact ⟨_, rfl⟩
    | cons c cs => exact ⟨_, by rw [hcs c List.mem_cons_self, List.cons_append]⟩
  rw [hfront] at hrun
  obtain ⟨h, hrun⟩ := hrun
  exact ⟨front, h, hfront, hrun⟩

/-- Fewer than three marks before another character do not end a string. -/
lemma markRun_middle (hrun : ((mark :: cs).takeWhile (· == mark)).length ≤ 2) (hne : ∃ c ∈ mark :: cs, c ≠ mark)
    (rest : List Char) : ∃ own left, markRun mark (mark :: (cs ++ rest)) = (own, false, left) := by
  have htake : (mark :: (cs ++ rest)).takeWhile (· == mark) = (mark :: cs).takeWhile (· == mark) := by
    rw [← List.cons_append, List.takeWhile_append, if_neg]
    intro hlength
    obtain ⟨c, hc, hne⟩ := hne
    have hself := (List.takeWhile_sublist (· == mark)).eq_of_length hlength
    exact hne (by simpa using List.takeWhile_eq_self_iff.mp hself c hc)
  refine ⟨_, _, Prod.ext rfl (Prod.ext ?_ rfl)⟩
  simp only [markRun, htake]
  exact decide_eq_false (by omega)

end Runs

/-! ### Strings between three quotation marks -/

section MultilineBasicBody

variable {c : Char} {cs ds rest tail : List Char}

/-- The marks at the end of a string, and the three behind it. -/
lemma reads_multilineBasicBody_end (hcs : ∀ c ∈ cs, c = '\x22') (hlength : cs.length ≤ 2) (hrest : '\x22' ∉ rest.head?) :
    Reads (multilineBasicBody (cs ++ '\x22' :: '\x22' :: '\x22' :: rest)) cs rest := by
  obtain ⟨front, hle, hfront, hrun⟩ := exists_markRun_end hcs hlength hrest
  rw [hfront, multilineBasicBody, if_pos rfl, hrun]
  simp only [if_true]
  rw [← List.eq_replicate_of_mem hcs]
  exact ⟨_, rfl⟩

/-- A mark in the middle of a string. -/
lemma reads_multilineBasicBody_mark (hrun : (('\x22' :: cs).takeWhile (· == '\x22')).length ≤ 2)
    (hne : ∃ c ∈ '\x22' :: cs, c ≠ '\x22') (hbody : Reads (multilineBasicBody (cs ++ tail)) ds rest) :
    Reads (multilineBasicBody ('\x22' :: (cs ++ tail))) ('\x22' :: ds) rest := by
  obtain ⟨own, left, hmiddle⟩ := markRun_middle hrun hne tail
  obtain ⟨hle, hbody⟩ := hbody
  rw [multilineBasicBody, if_pos rfl, hmiddle]
  simp only [Bool.false_eq_true, if_false, hbody]
  exact ⟨_, rfl⟩

lemma Escapes.reads_multilineBasicBody (h : Escapes tail c) (hbody : Reads (multilineBasicBody cs) ds rest) :
    Reads (multilineBasicBody ('\\' :: (tail ++ cs))) (c :: ds) rest := by
  obtain ⟨⟨hlt, hescape⟩, hline⟩ := h cs
  obtain ⟨hle, hbody⟩ := hbody
  rw [multilineBasicBody, if_neg (by decide), if_pos rfl, hline]
  simp only [hescape, hbody]
  exact ⟨_, rfl⟩

lemma reads_multilineBasicBody_cons (hmark : c ≠ '\x22') (hslash : c ≠ '\\') (hplain : isPlain c = true ∨ c = '\n')
    (hbody : Reads (multilineBasicBody cs) ds rest) : Reads (multilineBasicBody (c :: cs)) (c :: ds) rest := by
  obtain ⟨hle, hbody⟩ := hbody
  obtain hplain | rfl := hplain
  · rw [multilineBasicBody, if_neg hmark, if_neg hslash, if_pos hplain]
    simp only [hbody]
    exact ⟨_, rfl⟩
  · have hplain : isPlain '\n' = false := by decide
    rw [multilineBasicBody, if_neg hmark, if_neg hslash, hplain, if_neg Bool.false_ne_true, newLine?]
    simp only [RestOrAll.behind, RestOrAll.all, hbody]
    exact ⟨_, rfl⟩

/-- Of the quotation marks in a run, so many stand as they are. -/
lemma length_takeWhile_basicChars {bound : ℕ} (cs : List Char) {run : ℕ} (hrun : run ≤ bound) :
    run + ((basicChars true bound run cs).takeWhile (· == '\x22')).length ≤ bound := by
  induction cs generalizing run with
  | nil => simpa [basicChars] using hrun
  | cons c cs ih =>
      obtain ⟨-, hlt, hchars⟩ | ⟨tail, -, hchars⟩ | ⟨hmark, -, -, hchars⟩ := basicChars_cons_cases true bound run c cs
      · have hnext := ih (show run + 1 ≤ bound from hlt)
        rw [hchars, List.takeWhile_cons_of_pos (by simp), List.length_cons]
        omega
      · rw [hchars, List.takeWhile_cons_of_neg (by simp)]
        exact hrun
      · rw [hchars, List.takeWhile_cons_of_neg (by simpa using hmark)]
        exact hrun

/-- If nothing but quotation marks is written, it is the string itself. -/
lemma basicChars_eq_self {bound run : ℕ} {cs : List Char} (h : ∀ c ∈ basicChars true bound run cs, c = '\x22') :
    basicChars true bound run cs = cs := by
  induction cs generalizing run with
  | nil => rfl
  | cons c cs ih =>
      obtain ⟨rfl, -, hchars⟩ | ⟨tail, -, hchars⟩ | ⟨hmark, -, -, hchars⟩ := basicChars_cons_cases true bound run c cs
      · rw [hchars] at h ⊢
        rw [ih (List.forall_mem_cons.mp h).2]
      · rw [hchars] at h
        exact absurd (List.forall_mem_cons.mp h).1 (by decide)
      · rw [hchars] at h
        exact absurd (List.forall_mem_cons.mp h).1 hmark

/-- **What is written between three quotation marks is read back**, if the third of a run is always escaped. The induction is on the
string; where nothing is left but the marks at its end, they are read with those behind them. -/
lemma reads_multilineBasicBody (cs : List Char) (hrest : '\x22' ∉ rest.head?) {run : ℕ} (hrun : run ≤ 2) :
    Reads (multilineBasicBody (basicChars true 2 run cs ++ '\x22' :: '\x22' :: '\x22' :: rest)) cs rest := by
  induction cs generalizing run with
  | nil => exact reads_multilineBasicBody_end (by simp [basicChars]) (by simp [basicChars]) hrest
  | cons c cs ih =>
      have hfront := length_takeWhile_basicChars (c :: cs) hrun
      obtain ⟨rfl, hlt, hchars⟩ | ⟨tail, htail, hchars⟩ | ⟨hmark, hslash, hc, hchars⟩ :=
        basicChars_cons_cases true 2 run c cs
      · by_cases hall : ∀ d ∈ basicChars true 2 run ('\x22' :: cs), d = '\x22'
        · have hself := basicChars_eq_self hall
          have htake := List.takeWhile_eq_self_iff.mpr fun d hd => beq_iff_eq.mpr (hall d hd)
          rw [htake] at hfront
          rw [hself] at hall hfront ⊢
          exact reads_multilineBasicBody_end hall (by omega) hrest
        · rw [hchars] at hall hfront ⊢
          rw [List.cons_append]
          exact reads_multilineBasicBody_mark (by omega) (by simpa using hall) (ih (Nat.succ_le_of_lt hlt))
      · rw [hchars, List.cons_append, List.append_assoc]
        exact htail.reads_multilineBasicBody (ih (Nat.zero_le _))
      · rw [hchars, List.cons_append]
        exact reads_multilineBasicBody_cons hmark hslash (hc.imp_right And.right) (ih (Nat.zero_le _))

end MultilineBasicBody

/-! ### Strings between three apostrophes -/

section MultilineLiteralBody

variable {c : Char} {cs ds rest tail : List Char}

lemma reads_multilineLiteralBody_end (hcs : ∀ c ∈ cs, c = '\x27') (hlength : cs.length ≤ 2) (hrest : '\x27' ∉ rest.head?) :
    Reads (multilineLiteralBody (cs ++ '\x27' :: '\x27' :: '\x27' :: rest)) cs rest := by
  obtain ⟨front, hle, hfront, hrun⟩ := exists_markRun_end hcs hlength hrest
  rw [hfront, multilineLiteralBody, if_pos rfl, hrun]
  simp only [if_true]
  rw [← List.eq_replicate_of_mem hcs]
  exact ⟨_, rfl⟩

lemma reads_multilineLiteralBody_mark (hrun : (('\x27' :: cs).takeWhile (· == '\x27')).length ≤ 2)
    (hne : ∃ c ∈ '\x27' :: cs, c ≠ '\x27') (hbody : Reads (multilineLiteralBody (cs ++ tail)) ds rest) :
    Reads (multilineLiteralBody ('\x27' :: (cs ++ tail))) ('\x27' :: ds) rest := by
  obtain ⟨own, left, hmiddle⟩ := markRun_middle hrun hne tail
  obtain ⟨hle, hbody⟩ := hbody
  rw [multilineLiteralBody, if_pos rfl, hmiddle]
  simp only [Bool.false_eq_true, if_false, hbody]
  exact ⟨_, rfl⟩

lemma reads_multilineLiteralBody_cons (hmark : c ≠ '\x27') (hc : needsEscape c = false)
    (hbody : Reads (multilineLiteralBody cs) ds rest) : Reads (multilineLiteralBody (c :: cs)) (c :: ds) rest := by
  obtain ⟨hle, hbody⟩ := hbody
  by_cases hn : c = '\n'
  · subst hn
    have hplain : isPlain '\n' = false := by decide
    rw [multilineLiteralBody, if_neg hmark, hplain, if_neg Bool.false_ne_true, newLine?]
    simp only [RestOrAll.behind, RestOrAll.all, hbody]
    exact ⟨_, rfl⟩
  · rw [multilineLiteralBody, if_neg hmark, if_pos (isPlain_of_not_needsEscape hc hn)]
    simp only [hbody]
    exact ⟨_, rfl⟩

/-- A run at the front is among the runs of a text. -/
lemma length_takeWhile_le_longestRun (mark : Char) (current : ℕ) (cs : List Char) :
    current + (cs.takeWhile (· == mark)).length ≤ longestRun mark current cs := by
  induction cs generalizing current with
  | nil => simp [longestRun]
  | cons c cs ih =>
      rw [longestRun]
      by_cases hc : c = mark
      · have hnext := ih (current + 1)
        rw [if_pos hc, List.takeWhile_cons_of_pos (by simpa using hc), List.length_cons]
        omega
      · rw [if_neg hc, List.takeWhile_cons_of_neg (by simpa using hc)]
        exact Nat.le_max_left _ _

/-- The runs of the rest of a text are among those of the text. -/
lemma longestRun_le_cons (mark c : Char) (current : ℕ) (cs : List Char) :
    longestRun mark 0 cs ≤ longestRun mark current (c :: cs) := by
  have hmono : ∀ (cs : List Char) {m n : ℕ}, m ≤ n → longestRun mark m cs ≤ longestRun mark n cs := by
    intro cs
    induction cs with
    | nil => exact id
    | cons c cs ih =>
        intro m n hmn
        rw [longestRun, longestRun]
        split
        · exact ih (Nat.succ_le_succ hmn)
        · exact max_le_max_right _ hmn
  rw [longestRun]
  split
  · exact hmono cs (Nat.zero_le _)
  · exact Nat.le_max_right _ _

/-- A character that is in a text is in a run of it. -/
lemma notMem_of_longestRun_eq_zero {mark : Char} {cs : List Char} (h : longestRun mark 0 cs = 0) : mark ∉ cs := by
  induction cs with
  | nil => exact List.not_mem_nil
  | cons c cs ih =>
      have hfront := length_takeWhile_le_longestRun mark 0 (c :: cs)
      have hrest := longestRun_le_cons mark c 0 cs
      have hc : c ≠ mark := by
        intro hc
        rw [List.takeWhile_cons_of_pos (by simpa using hc), List.length_cons] at hfront
        omega
      rw [List.mem_cons, not_or]
      exact ⟨hc.symm, ih (by omega)⟩

/-- **A string with no three apostrophes in a row is read as it is between three**, if it needs no escape. -/
lemma reads_multilineLiteralBody (cs : List Char) (hplain : ∀ c ∈ cs, needsEscape c = false)
    (hrun : longestRun '\x27' 0 cs ≤ 2) (hrest : '\x27' ∉ rest.head?) :
    Reads (multilineLiteralBody (cs ++ '\x27' :: '\x27' :: '\x27' :: rest)) cs rest := by
  induction cs with
  | nil => exact reads_multilineLiteralBody_end (by simp) (by simp) hrest
  | cons c cs ih =>
      obtain ⟨hc, hcs⟩ := List.forall_mem_cons.mp hplain
      have hnext := ih hcs ((longestRun_le_cons _ c 0 cs).trans hrun)
      have hfront := (length_takeWhile_le_longestRun '\x27' 0 (c :: cs)).trans hrun
      by_cases hmark : c = '\x27'
      · subst hmark
        by_cases hall : ∀ d ∈ '\x27' :: cs, d = '\x27'
        · rw [List.takeWhile_eq_self_iff.mpr fun d hd => beq_iff_eq.mpr (hall d hd)] at hfront
          exact reads_multilineLiteralBody_end hall (by omega) hrest
        · exact reads_multilineLiteralBody_mark (by omega) (by simpa using hall) hnext
      · exact reads_multilineLiteralBody_cons hmark hc hnext

end MultilineLiteralBody

/-! ### Strings in any form -/

/-- A new line at the front that is not of the string is passed over, and nothing else is. -/
lemma skipNewLine_append {keep : Bool} {cs : List Char} (h : keep = false → ∀ c ∈ cs.head?, c ≠ '\n' ∧ c ≠ '\r') :
    (skipNewLine ((if keep then ['\n'] else []) ++ cs)).1 = cs := by
  cases keep with
  | true => rfl
  | false =>
      rw [if_neg Bool.false_ne_true, List.nil_append, skipNewLine, newLine?_eq_none (h rfl)]
      rfl

lemma ne_newLine_of_isPlain {c : Char} (h : isPlain c = true) : c ≠ '\n' ∧ c ≠ '\r' := by
  constructor
  · rintro rfl
    exact absurd h (by decide)
  · rintro rfl
    exact absurd h (by decide)

namespace Form

variable {cs rest : List Char}

/-- What a form can hold as it is. -/
lemma of_holds {f : Form} (h : f.holds cs = true) :
    (∀ c ∈ cs, needsEscape c = false) ∧ (f.isSingle = true → '\n' ∉ cs)
      ∧ longestRun f.mark 0 cs ≤ if f.isSingle then 0 else 2 := by
  simp only [holds, Bool.and_eq_true, Bool.not_eq_true', List.any_eq_false, Bool.and_eq_false_imp, List.contains_eq_mem,
    decide_eq_false_iff_not, decide_eq_true_eq, Bool.not_eq_true] at h
  exact ⟨h.1.1.1, h.1.2, h.2⟩

/-- The form that suits a string can hold it as it is, or it has escapes. -/
lemma choose_cases (cs : List Char) :
    (choose cs).holds cs = true ∨ choose cs = .basic ∨ choose cs = .multilineBasic := by
  rw [choose]
  cases hfind : ([basic, literal, multilineBasic, multilineLiteral] : List Form).find? (·.holds cs) with
  | some f => exact .inl (List.find?_some (p := fun f : Form => f.holds cs) hfind)
  | none =>
      rw [Option.getD_none]
      split
      · exact .inr (.inr rfl)
      · exact .inr (.inl rfl)

/-- Between quotation marks. -/
lemma reads_basic (cs : List Char) (hrest : '\x22' ∉ rest.head?) : Reads (anyString (basic.write cs ++ rest)) cs rest := by
  have htext : basic.write cs ++ rest = '\x22' :: (basicChars false 0 0 cs ++ '\x22' :: rest) := by
    simp [write, marks, mark, isSingle, inside]
  have hfront : ∀ tail, basicChars false 0 0 cs ++ '\x22' :: rest ≠ '\x22' :: '\x22' :: tail := by
    intro tail heq
    cases cs with
    | nil =>
        obtain rfl : rest = '\x22' :: tail := List.cons.inj heq |>.2
        exact hrest rfl
    | cons c cs =>
        obtain ⟨-, hrun, -⟩ | ⟨ds, -, hchars⟩ | ⟨hmark, -, -, hchars⟩ := basicChars_cons_cases false 0 0 c cs
        · exact Nat.not_lt_zero _ hrun
        · rw [hchars] at heq
          exact absurd (List.cons.inj heq).1 (by decide)
        · rw [hchars] at heq
          exact hmark (List.cons.inj heq).1
  obtain ⟨hlt, hbody⟩ := reads_basicBody cs rest 0
  rw [htext, anyString, lineString, hbody]
  · exact ⟨_, rfl⟩
  · rintro tail heq
    exact hfront tail (List.cons.inj heq).2
  · rintro tail heq
    exact absurd (List.cons.inj heq).1 (by decide)

/-- Between apostrophes. -/
lemma reads_literal (h : literal.holds cs = true) (hrest : '\x27' ∉ rest.head?) :
    Reads (anyString (literal.write cs ++ rest)) cs rest := by
  obtain ⟨hescape, hline, hrun⟩ := of_holds h
  have hplain : ∀ c ∈ cs, isPlain c = true := by
    intro c hc
    exact isPlain_of_not_needsEscape (hescape c hc) (ne_of_mem_of_not_mem hc (hline rfl))
  have hmark : '\x27' ∉ cs := notMem_of_longestRun_eq_zero (Nat.le_zero.mp hrun)
  have htext : literal.write cs ++ rest = '\x27' :: (cs ++ '\x27' :: rest) := by
    simp [write, marks, mark, isSingle, inside]
  have hfront : ∀ tail, cs ++ '\x27' :: rest ≠ '\x27' :: '\x27' :: tail := by
    intro tail heq
    cases cs with
    | nil =>
        obtain rfl : rest = '\x27' :: tail := (List.cons.inj heq).2
        exact hrest rfl
    | cons c cs => exact hmark ((List.cons.inj heq).1 ▸ List.mem_cons_self)
  obtain ⟨hlt, hbody⟩ := reads_literalBody hplain hmark rest
  rw [htext, anyString, lineString, hbody]
  · exact ⟨_, rfl⟩
  · rintro tail heq
    exact absurd (List.cons.inj heq).1 (by decide)
  · rintro tail heq
    exact hfront tail (List.cons.inj heq).2

/-- A string without a new line does not begin with one between three quotation marks. -/
lemma head?_basicChars (hline : '\n' ∉ cs) (tail : List Char) :
    ∀ c ∈ (basicChars true 2 0 cs ++ '\x22' :: tail).head?, c ≠ '\n' ∧ c ≠ '\r' := by
  cases cs with
  | nil => simp [basicChars]
  | cons c cs =>
      obtain ⟨-, -, hchars⟩ | ⟨ds, -, hchars⟩ | ⟨-, -, hc, hchars⟩ := basicChars_cons_cases true 2 0 c cs
      · simp [hchars]
      · simp [hchars]
      · have hplain : isPlain c = true := hc.resolve_right fun h => hline (h.2 ▸ List.mem_cons_self)
        simpa [hchars] using ne_newLine_of_isPlain hplain

/-- Between three quotation marks. -/
lemma reads_multilineBasic (cs : List Char) (hrest : '\x22' ∉ rest.head?) :
    Reads (anyString (multilineBasic.write cs ++ rest)) cs rest := by
  have htext : multilineBasic.write cs ++ rest = '\x22' :: '\x22' :: '\x22' :: ((if cs.contains '\n' then ['\n'] else [])
      ++ (basicChars true 2 0 cs ++ '\x22' :: '\x22' :: '\x22' :: rest)) := by
    simp [write, marks, mark, isSingle, inside]
  have hhead : cs.contains '\n' = false →
      ∀ c ∈ (basicChars true 2 0 cs ++ '\x22' :: '\x22' :: '\x22' :: rest).head?, c ≠ '\n' ∧ c ≠ '\r' := by
    intro hline
    exact head?_basicChars (by simpa using hline) _
  have hbody := reads_multilineBasicBody cs hrest (Nat.zero_le 2)
  rw [← skipNewLine_append hhead] at hbody
  obtain ⟨hle, hbody⟩ := hbody
  rw [htext, anyString, hbody]
  exact ⟨_, rfl⟩

/-- Between three apostrophes. -/
lemma reads_multilineLiteral (h : multilineLiteral.holds cs = true) (hrest : '\x27' ∉ rest.head?) :
    Reads (anyString (multilineLiteral.write cs ++ rest)) cs rest := by
  obtain ⟨hescape, -, hrun⟩ := of_holds h
  have htext : multilineLiteral.write cs ++ rest = '\x27' :: '\x27' :: '\x27' :: ((if cs.contains '\n' then ['\n'] else [])
      ++ (cs ++ '\x27' :: '\x27' :: '\x27' :: rest)) := by
    simp [write, marks, mark, isSingle, inside]
  have hhead : cs.contains '\n' = false →
      ∀ c ∈ (cs ++ '\x27' :: '\x27' :: '\x27' :: rest).head?, c ≠ '\n' ∧ c ≠ '\r' := by
    intro hline
    cases cs with
    | nil => simp
    | cons c cs =>
        have hn : c ≠ '\n' := by
          rintro rfl
          simp at hline
        have hplain := isPlain_of_not_needsEscape (hescape c List.mem_cons_self) hn
        simpa using ne_newLine_of_isPlain hplain
  have hbody := reads_multilineLiteralBody cs hescape hrun hrest
  rw [← skipNewLine_append hhead] at hbody
  obtain ⟨hle, hbody⟩ := hbody
  rw [htext, anyString, hbody]
  exact ⟨_, rfl⟩

end Form

/-- **A string is read back in the form that suits it**, whatever its characters are. Behind it, no mark may stand. -/
theorem reads_writeString (s : String) (rest : List Char) (hquote : '\x22' ∉ rest.head?) (hapostrophe : '\x27' ∉ rest.head?) :
    Reads (anyString (writeString s ++ rest)) s.toList rest := by
  rw [writeString]
  obtain h | h | h := Form.choose_cases s.toList
  · cases hform : Form.choose s.toList with
    | basic => exact Form.reads_basic _ hquote
    | literal => exact Form.reads_literal (hform ▸ h) hapostrophe
    | multilineBasic => exact Form.reads_multilineBasic _ hquote
    | multilineLiteral => exact Form.reads_multilineLiteral (hform ▸ h) hapostrophe
  · rw [h]
    exact Form.reads_basic _ hquote
  · rw [h]
    exact Form.reads_multilineBasic _ hquote

end MonitorQuery.Toml
