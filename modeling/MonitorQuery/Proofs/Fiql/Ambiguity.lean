import Mathlib.Data.List.DropRight
import MonitorQuery.Proofs.Fiql.Decoder

/-!
Search expressions that share a text.

The encoding of values leaves parentheses alone, and groups are written with the same characters. Where a group opens
can be seen nonetheless: a `(` stands before an attribute, and no value does. What the text does not say is which of the
`)` behind a value belong to the value.

* `Agree`: lexemes that differ at most in how the `)` behind their values are shared between value and groups.
* `agree_of_charsOf_eq`: **lexemes of one text agree**, whatever their values are.
* `Agree.outline_eq`: the attributes, signs and joints and the groups opened before them are the same, and so are the
  values up to the `)` at their ends.
* `Agree.eq_of_even`, `Agree.closing_of_not_closing`: they are the same lexemes if the values on both sides have as
  many `(` as `)`, and if those on one side do not end in `)`.
* `same_text_iff_agree`: clauses compile to one text exactly if their trees agree.
* `not_same_tree_of_same_text`: two trees with one text.
-/

namespace MonitorQuery.Request.Fiql

open MonitorQuery.Query

/-! ### Cutting equal texts -/

/-- Equal texts are cut at the same place where a property of the characters ends. -/
lemma append_inj_of_head {p : Char → Bool} {cs rest ds tail : List Char} (hcs : ∀ c ∈ cs, p c = true)
    (hrest : ∀ c ∈ rest.head?, p c = false) (hds : ∀ c ∈ ds, p c = true)
    (htail : ∀ c ∈ tail.head?, p c = false) (h : cs ++ rest = ds ++ tail) : cs = ds ∧ rest = tail := by
  constructor
  · rw [← Text.takeWhile_append_of_head hcs hrest, h, Text.takeWhile_append_of_head hds htail]
  · rw [← Text.dropWhile_append_of_head hcs hrest, h, Text.dropWhile_append_of_head hds htail]

/-- The attribute and the sign of a comparison can be told from its text, whatever stands behind them. -/
lemma Comparison.Plain.cut {c d : Comparison} (hc : c.Plain) (hd : d.Plain) {rest tail : List Char}
    (h : c.attr.toList ++ (c.sign.chars ++ rest) = d.attr.toList ++ (d.sign.chars ++ tail)) :
    c.attr = d.attr ∧ c.sign = d.sign ∧ rest = tail := by
  obtain ⟨hattr, h⟩ := append_inj_of_head (isPlainChar_of_isPlain hc.attr_plain)
    (c.sign.not_isPlainChar_head rest) (isPlainChar_of_isPlain hd.attr_plain)
    (d.sign.not_isPlainChar_head tail) h
  have hsign : some (c.sign, rest) = some (d.sign, tail) := by
    rw [← Sign.take?_chars, h, Sign.take?_chars]
  rw [Option.some.injEq, Prod.mk.injEq] at hsign
  exact ⟨String.toList_inj.mp hattr, hsign⟩

/-- The character joins no terms. -/
def isInner (c : Char) : Bool := c ≠ ';' && c ≠ ','

lemma isInner_of_isJoined {cs : List Char} (h : IsJoined cs) : ∀ c ∈ cs, isInner c = true := by
  intro c hc
  simpa [isInner] using h c hc

lemma isJoined_replicate (m : ℕ) : IsJoined (List.replicate m ')') := by
  intro c hc
  rw [List.eq_of_mem_replicate hc]
  decide

lemma Comparison.Plain.isJoined_chars {c : Comparison} (hc : c.Plain) : IsJoined c.chars := by
  intro d hd
  simp only [chars, List.mem_append] at hd
  rcases hd with (hd | hd) | hd
  · have hres := hc.attr_plain d hd
    constructor
    · rintro rfl
      exact hres (by decide)
    · rintro rfl
      exact hres (by decide)
  · revert hd
    cases c.sign <;> simp +contextual [Sign.chars, or_imp]
  · exact hc.value_joined d hd

/-! ### What stands behind a comparison -/

/-- The text ends, or a list goes on with a further term. -/
def EndsOrJoins (ls : List Lexeme) : Prop := ls = [] ∨ ∃ op ks, ls = .joint op :: ks ∧ Awaits ks

/-- Behind a term some lists are closed, and then the text ends or a list goes on. -/
lemma Continues.exists_closings {ls : List Lexeme} (h : Continues ls) :
    ∃ m ks, ls = List.replicate m .closing ++ ks ∧ EndsOrJoins ks := by
  induction ls with
  | nil => exact ⟨0, [], rfl, Or.inl rfl⟩
  | cons l ls ih =>
      cases h with
      | closing h =>
          obtain ⟨m, ks, rfl, hks⟩ := ih h
          exact ⟨m + 1, ks, by simp [List.replicate_succ], hks⟩
      | joint op h => exact ⟨0, .joint op :: ls, rfl, Or.inr ⟨op, ls, rfl, h⟩⟩

lemma EndsOrJoins.not_isInner_head {ls : List Lexeme} (h : EndsOrJoins ls) :
    ∀ c ∈ (charsOf ls).head?, isInner c = false := by
  rcases h with rfl | ⟨op, ks, rfl, -⟩
  · simp
  · cases op <;> simp [Lexeme.chars, Operator.sign, isInner]

lemma charsOf_replicate_closing (m : ℕ) : charsOf (List.replicate m .closing) = List.replicate m ')' := by
  induction m with
  | zero => rfl
  | succ m ih =>
      rw [List.replicate_succ, charsOf_cons, ih]
      rfl

/-- No comparison begins like a group. -/
lemma Comparison.Plain.chars_append_ne {c : Comparison} (hc : c.Plain) (rest tail : List Char) :
    c.chars ++ rest ≠ '(' :: tail := by
  obtain ⟨d, ds, hd, hres⟩ := hc.chars_eq_cons
  rw [hd, List.cons_append]
  intro h
  rw [(List.cons.inj h).1] at hres
  exact hres (by decide)

/-- Two comparisons with the lists that are closed behind them, in equal texts. -/
lemma Comparison.Plain.cut_closings {c d : Comparison} (hc : c.Plain) (hd : d.Plain) {m n : ℕ}
    {ls ks : List Lexeme} (hls : EndsOrJoins ls) (hks : EndsOrJoins ks)
    (h : charsOf (.comparison c :: (List.replicate m .closing ++ ls))
      = charsOf (.comparison d :: (List.replicate n .closing ++ ks))) :
    c.attr = d.attr ∧ c.sign = d.sign
      ∧ c.value.toList ++ List.replicate m ')' = d.value.toList ++ List.replicate n ')'
      ∧ charsOf ls = charsOf ks := by
  have hinner : ∀ {e : Comparison} (m : ℕ), e.Plain → ∀ x ∈ e.chars ++ List.replicate m ')', isInner x = true := by
    intro e m he x hx
    rcases List.mem_append.mp hx with hx | hx
    · exact isInner_of_isJoined he.isJoined_chars x hx
    · exact isInner_of_isJoined (isJoined_replicate m) x hx
  simp only [charsOf_cons, charsOf_append, charsOf_replicate_closing, Lexeme.chars, ← List.append_assoc] at h
  obtain ⟨hbody, hrest⟩ := append_inj_of_head (hinner m hc) hls.not_isInner_head (hinner n hd)
    hks.not_isInner_head h
  simp only [chars, List.append_assoc] at hbody
  obtain ⟨hattr, hsign, hvalue⟩ := hc.cut hd hbody
  exact ⟨hattr, hsign, hvalue, hrest⟩

/-! ### Agreement -/

/-- Lexemes that differ at most in how the `)` behind their values are shared between value and groups. -/
inductive Agree : List Lexeme → List Lexeme → Prop
  | nil : Agree [] []
  | opening {ls ks : List Lexeme} : Agree ls ks → Agree (.opening :: ls) (.opening :: ks)
  | joint (op : Operator) {ls ks : List Lexeme} : Agree ls ks → Agree (.joint op :: ls) (.joint op :: ks)
  | comparison (attr : String) (sign : Sign) {v w : String} {m n : ℕ} {ls ks : List Lexeme} :
      v.toList ++ List.replicate m ')' = w.toList ++ List.replicate n ')' → Agree ls ks →
      Agree (.comparison ⟨attr, sign, v⟩ :: (List.replicate m .closing ++ ls))
        (.comparison ⟨attr, sign, w⟩ :: (List.replicate n .closing ++ ks))

/-- Where the text ends or a list goes on, agreement is that of the terms to come. -/
lemma EndsOrJoins.agree {ls ks : List Lexeme} (hls : EndsOrJoins ls) (hks : EndsOrJoins ks)
    (h : charsOf ls = charsOf ks)
    (next : ∀ op ls' ks', ls = .joint op :: ls' → ks = .joint op :: ks' → Awaits ls' → Awaits ks' →
      charsOf ls' = charsOf ks' → Agree ls' ks') : Agree ls ks := by
  rcases hls with rfl | ⟨op, ls', rfl, hls'⟩
  · rcases hks with rfl | ⟨op, ks', rfl, -⟩
    · exact .nil
    · exact absurd h (by simp [Lexeme.chars])
  · rcases hks with rfl | ⟨op', ks', rfl, hks'⟩
    · exact absurd h (by simp [Lexeme.chars])
    · simp only [charsOf_cons, Lexeme.chars, List.singleton_append, List.cons.injEq] at h
      obtain rfl : op = op' := by
        have hsign := h.1
        revert hsign
        cases op <;> cases op' <;> simp [Operator.sign]
      exact .joint op (next op ls' ks' rfl rfl hls' hks' h.2)

/-- **Lexemes of one text agree.** The induction is on the number of lexemes: a comparison is taken together with the
lists that are closed behind it, so what is left is more than one lexeme shorter. -/
theorem agree_of_charsOf_eq {ls ks : List Lexeme} (hls : Awaits ls) (hks : Awaits ks)
    (pls : ∀ c, .comparison c ∈ ls → c.Plain) (pks : ∀ c, .comparison c ∈ ks → c.Plain)
    (h : charsOf ls = charsOf ks) : Agree ls ks := by
  induction hn : ls.length using Nat.strong_induction_on generalizing ls ks with
  | _ n ih =>
      subst hn
      cases hls with
      | @opening ls hls =>
          cases hks with
          | @opening ks hks =>
              have hrest : charsOf ls = charsOf ks := by simpa [Lexeme.chars] using h
              exact .opening (ih ls.length (by simp) hls hks (fun c hc => pls c (by simp [hc]))
                (fun c hc => pks c (by simp [hc])) hrest rfl)
          | comparison d _ => exact absurd h.symm ((pks d (by simp)).chars_append_ne _ _)
      | @comparison c ls hls =>
          cases hks with
          | opening _ => exact absurd h ((pls c (by simp)).chars_append_ne _ _)
          | @comparison d ks hks =>
              obtain ⟨m, ls, rfl, hends⟩ := hls.exists_closings
              obtain ⟨n, ks, rfl, hends'⟩ := hks.exists_closings
              obtain ⟨hattr, hsign, hvalue, hrest⟩ :=
                (pls c (by simp)).cut_closings (pks d (by simp)) hends hends' h
              obtain ⟨a, s, v⟩ := c
              obtain ⟨b, t, w⟩ := d
              obtain rfl : a = b := hattr
              obtain rfl : s = t := hsign
              refine .comparison a s hvalue (hends.agree hends' hrest ?_)
              rintro op ls ks rfl rfl hls hks hrest
              exact ih ls.length (by simp; omega) hls hks (fun e he => pls e (by simp [he]))
                (fun e he => pks e (by simp [he])) hrest rfl

/-! ### What agreement leaves open -/

/-- The value without the `)` at its end. -/
def stripped (v : String) : String := String.ofList (v.toList.rdropWhile (· == ')'))

/-- A lexeme with the `)` at the end of a value left out; one that closes a list is left out altogether. -/
def Lexeme.outline? : Lexeme → Option Lexeme
  | .closing => none
  | .comparison c => some (.comparison { c with value := stripped c.value })
  | l => some l

/-- What a text says of its tree in any case: from left to right the groups that open, the joints, and the comparisons
up to the `)` at the end of their values. -/
def Expression.outline (e : Expression) : List Lexeme := e.lexemes.filterMap Lexeme.outline?

lemma outline_replicate_closing (m : ℕ) : (List.replicate m .closing).filterMap Lexeme.outline? = [] := by
  induction m with
  | zero => rfl
  | succ m ih =>
      rw [List.replicate_succ, List.filterMap_cons_none rfl, ih]

lemma count_closing_comparison (c : Comparison) (m : ℕ) (ls : List Lexeme) :
    (Lexeme.comparison c :: (List.replicate m .closing ++ ls)).count .closing = m + ls.count .closing := by
  rw [List.count_cons_of_ne (by simp), List.count_append, List.count_replicate_self]

lemma rdropWhile_append_replicate (v : List Char) (m : ℕ) :
    (v ++ List.replicate m ')').rdropWhile (· == ')') = v.rdropWhile (· == ')') := by
  induction m with
  | zero => simp
  | succ m ih =>
      rw [List.replicate_succ', ← List.append_assoc, List.rdropWhile_concat_pos _ _ _ (by simp), ih]

namespace Agree

variable {ls ks : List Lexeme}

/-- **Agreeing lexemes have one outline.** -/
lemma outline_eq (h : Agree ls ks) : ls.filterMap Lexeme.outline? = ks.filterMap Lexeme.outline? := by
  induction h with
  | nil => rfl
  | opening _ ih => simp [Lexeme.outline?, ih]
  | joint op _ ih => simp [Lexeme.outline?, ih]
  | @comparison attr sign v w m n ls ks hvalue _ ih =>
      have hstripped : stripped v = stripped w := by
        rw [stripped, ← rdropWhile_append_replicate _ m, hvalue, rdropWhile_append_replicate]
        rfl
      simp [Lexeme.outline?, hstripped, ih, outline_replicate_closing]

/-- Agreeing lexemes have one text. -/
lemma charsOf_eq (h : Agree ls ks) : charsOf ls = charsOf ks := by
  induction h with
  | nil => rfl
  | opening _ ih => rw [charsOf_cons, charsOf_cons, ih]
  | joint op _ ih => rw [charsOf_cons, charsOf_cons, ih]
  | @comparison attr sign v w m n ls ks hvalue _ ih =>
      simp only [charsOf_cons, charsOf_append, charsOf_replicate_closing, Lexeme.chars, Comparison.chars,
        List.append_assoc]
      rw [← List.append_assoc v.toList, hvalue, ih]
      simp

/-- Agreeing lexemes open the same number of groups. -/
lemma count_opening_eq (h : Agree ls ks) : ls.count .opening = ks.count .opening := by
  induction h with
  | nil => rfl
  | opening _ ih => simp [ih]
  | joint op _ ih => simp [ih]
  | comparison attr sign _ _ ih => simp [List.count_replicate, ih]

/-- **Agreeing lexemes are the same** if all their values have as many `(` as `)`. -/
theorem eq_of_even (h : Agree ls ks)
    (hls : ∀ c, .comparison c ∈ ls → c.value.toList.count '(' = c.value.toList.count ')')
    (hks : ∀ c, .comparison c ∈ ks → c.value.toList.count '(' = c.value.toList.count ')') : ls = ks := by
  induction h with
  | nil => rfl
  | opening _ ih =>
      rw [ih (fun c hc => hls c (by simp [hc])) (fun c hc => hks c (by simp [hc]))]
  | joint op _ ih =>
      rw [ih (fun c hc => hls c (by simp [hc])) (fun c hc => hks c (by simp [hc]))]
  | @comparison attr sign v w m n ls ks hvalue _ ih =>
      have hv := hls _ (List.mem_cons_self ..)
      have hw := hks _ (List.mem_cons_self ..)
      -- the parentheses of the value and behind it are the same on both sides
      have hopen := congrArg (List.count '(') hvalue
      have hclose := congrArg (List.count ')') hvalue
      rw [List.count_append, List.count_append, List.count_replicate, List.count_replicate,
        if_neg (by decide), if_neg (by decide)] at hopen
      rw [List.count_append, List.count_append, List.count_replicate_self, List.count_replicate_self] at hclose
      obtain rfl : m = n := by
        simp only at hv hw
        omega
      rw [String.toList_inj.mp (List.append_cancel_right hvalue),
        ih (fun c hc => hls c (by simp [hc])) (fun c hc => hks c (by simp [hc]))]

/-- **Agreeing lexemes close no more groups** than those whose values do not end in `)`, and are the same if they close
as many. -/
theorem closing_of_not_closing (h : Agree ls ks)
    (hls : ∀ c, .comparison c ∈ ls → c.value.toList.getLast? ≠ some ')') :
    ks.count .closing ≤ ls.count .closing ∧ (ks.count .closing = ls.count .closing → ls = ks) := by
  induction h with
  | nil => simp
  | opening _ ih => simpa using ih fun c hc => hls c (by simp [hc])
  | joint op _ ih => simpa using ih fun c hc => hls c (by simp [hc])
  | @comparison attr sign v w m n ls ks hvalue _ ih =>
      obtain ⟨hle, heq⟩ := ih fun c hc => hls c (by simp [hc])
      have hv := hls _ (List.mem_cons_self ..)
      have hnm : n ≤ m := by
        by_contra hlt
        -- otherwise a `)` behind the other value belongs to this one
        obtain ⟨k, rfl⟩ : ∃ k, n = k + 1 + m := ⟨n - m - 1, by omega⟩
        rw [← List.replicate_append_replicate, ← List.append_assoc] at hvalue
        refine hv ?_
        simp only
        rw [List.append_cancel_right hvalue, List.replicate_succ', ← List.append_assoc]
        simp
      rw [count_closing_comparison, count_closing_comparison]
      refine ⟨by omega, fun hcount => ?_⟩
      obtain rfl : m = n := by omega
      rw [String.toList_inj.mp (List.append_cancel_right hvalue), heq (by omega)]

end Agree

/-! ### Trees of one text -/

mutual

/-- A term closes the groups that it opens. -/
lemma Term.count_closing : ∀ t : Term, t.lexemes.count .closing = t.lexemes.count .opening
  | .comparison c => by simp [Term.lexemes]
  | .group first links => by
      have hfirst := first.count_closing
      have hlinks := count_closing_linkLexemes links
      simp only [Term.lexemes, List.count_cons, List.count_append, List.count_nil, beq_iff_eq, reduceCtorEq, if_true,
        if_false, beq_self_eq_true]
      omega

/-- Terms behind their operators close the groups that they open. -/
lemma count_closing_linkLexemes : ∀ links : List (Operator × Term),
    (linkLexemes links).count .closing = (linkLexemes links).count .opening
  | [] => rfl
  | (op, t) :: links => by
      have ht := t.count_closing
      have hlinks := count_closing_linkLexemes links
      rw [linkLexemes, List.count_cons_of_ne (by simp), List.count_cons_of_ne (by simp), List.count_append,
        List.count_append, ht, hlinks]

end

namespace Expression

lemma count_closing (e : Expression) : e.lexemes.count .closing = e.lexemes.count .opening := by
  simp only [lexemes, List.count_append, e.first.count_closing, count_closing_linkLexemes e.links]

/-- A tree is known from its lexemes. -/
lemma eq_of_lexemes_eq {e e' : Expression} (h : e.lexemes = e'.lexemes) : e = e' := by
  have hread := Progress.takeAll_start e
  rw [h, Progress.takeAll_start e'] at hread
  exact (Option.some.inj hread).symm

variable {e e' : Expression}

/-- The lexemes of trees of plain comparisons with one text agree. -/
lemma agree_of_text_eq (he : ∀ c, .comparison c ∈ e.lexemes → c.Plain)
    (he' : ∀ c, .comparison c ∈ e'.lexemes → c.Plain) (h : e.text = e'.text) :
    Agree e.lexemes e'.lexemes :=
  agree_of_charsOf_eq e.awaits_lexemes e'.awaits_lexemes he he' (String.ofList_inj.mp h)

/-- A tree whose values do not end in `)` shares its text with no other. -/
lemma eq_of_agree_of_not_closing (h : Agree e.lexemes e'.lexemes)
    (he : ∀ c, .comparison c ∈ e.lexemes → c.value.toList.getLast? ≠ some ')') : e = e' := by
  refine eq_of_lexemes_eq ((h.closing_of_not_closing he).2 ?_)
  rw [e.count_closing, e'.count_closing, h.count_opening_eq]

end Expression

/-! ### Clauses that compile to one text -/

/-- Letters and digits of ASCII, points and underscores. -/
def isNameChar (c : Char) : Bool := c.isAlphanum || c = '.' || c = '_'

/-- A text of letters, digits, points and underscores. -/
def IsName (cs : List Char) : Prop := ∀ c ∈ cs, isNameChar c = true

instance : DecidablePred IsName := fun cs => List.decidableBAll (isNameChar · = true) cs

lemma isPlain_of_isName {cs : List Char} (h : IsName cs) : IsPlain cs := by
  intro c hc hres
  have hname := h c hc
  simp only [reserved, List.mem_cons, List.not_mem_nil, or_false] at hres
  rcases hres with rfl | rfl | rfl | rfl | rfl | rfl <;> exact absurd hname (by decide)

/-- **Values can move nothing but the ends of groups.** Clauses compile to one text exactly if their trees differ at most
in how the `)` behind a value are shared between the value and the groups that end there. So they have the same
attributes, signs and joints, with the same groups opened before them, and the same values up to the `)` at their ends;
and they have the same tree if all their values have as many `(` as `)`, and if the values of one side do not end
in `)`. -/
theorem same_text_iff_agree {P Q : List Property} {c d : Clause} {cs ds : List Clause} {s s' : String}
    (hs : expression P (c :: cs) = .ok s) (hs' : expression Q (d :: ds) = .ok s')
    (hname : ∀ r ∈ restrictionsOf (c :: cs), IsName r.attr.toList)
    (hname' : ∀ r ∈ restrictionsOf (d :: ds), IsName r.attr.toList) :
    ∃ e e', Expression.ofClauses P c cs = .ok e ∧ Expression.ofClauses Q d ds = .ok e'
      ∧ (s = s' ↔ Agree e.lexemes e'.lexemes)
      ∧ (s = s' → e.outline = e'.outline)
      ∧ (s = s' →
          (∀ r ∈ restrictionsOf (c :: cs),
            (valueText P r).toList.count '(' = (valueText P r).toList.count ')') →
          (∀ r ∈ restrictionsOf (d :: ds),
            (valueText Q r).toList.count '(' = (valueText Q r).toList.count ')') → e = e')
      ∧ (s = s' →
          (∀ r ∈ restrictionsOf (c :: cs), (valueText P r).toList.getLast? ≠ some ')') → e = e') := by
  obtain ⟨e, he, rfl⟩ := exists_ofClauses_of_expression hs
  obtain ⟨e', he', rfl⟩ := exists_ofClauses_of_expression hs'
  have hagree : e.text = e'.text → Agree e.lexemes e'.lexemes :=
    Expression.agree_of_text_eq (plain_of_ofClauses he fun r hr => isPlain_of_isName (hname r hr))
      (plain_of_ofClauses he' fun r hr => isPlain_of_isName (hname' r hr))
  refine ⟨e, e', he, he', ⟨hagree, fun h => congrArg String.ofList h.charsOf_eq⟩, ?_, ?_, ?_⟩
  · exact fun h => (hagree h).outline_eq
  · intro h heven heven'
    refine Expression.eq_of_lexemes_eq ((hagree h).eq_of_even ?_ ?_)
    · exact value_of_ofClauses (P := fun v => v.count '(' = v.count ')') he heven
    · exact value_of_ofClauses (P := fun v => v.count '(' = v.count ')') he' heven'
  · intro h hend
    exact Expression.eq_of_agree_of_not_closing (hagree h)
      (value_of_ofClauses (P := fun v => v.getLast? ≠ some ')') he hend)

/-- A comparison of an attribute with a text, joined by OR. -/
def alternative (attr text : String) : Clause := .restriction .or ⟨attr, .eq, some (.text text)⟩

/-- Two texts of one query: a first operator and the words for a comparator do not show. -/
theorem same_text_iff_agree_group :
    ∃ e, Expression.ofClauses [] (.group .or [alternative "a" "f(x)"]) [alternative "b" "y"] = .ok e
      ∧ Expression.ofClauses [] (.group .and [.restriction .and ⟨"a", .like, some (.text "f(x)")⟩])
          [alternative "b" "y"] = .ok e := by
  have hs : expression [] [.group .or [alternative "a" "f(x)"], alternative "b" "y"] = .ok "(a==f(x)),b==y" := by
    decide
  have hs' : expression []
      [.group .and [.restriction .and ⟨"a", .like, some (.text "f(x)")⟩], alternative "b" "y"]
        = .ok "(a==f(x)),b==y" := by
    decide
  obtain ⟨e, e', he, he', -, -, heven, -⟩ := same_text_iff_agree hs hs' (by decide) (by decide)
  obtain rfl := heven rfl (by decide) (by decide)
  exact ⟨e, he, he'⟩

/-- **Two queries of one text**: the group ends behind the first value or behind the second. -/
theorem not_same_tree_of_same_text :
    ¬ ∀ (P : List Property) (c d : Clause) (cs ds : List Clause) (s : String),
      expression P (c :: cs) = .ok s → expression P (d :: ds) = .ok s →
      (∀ r ∈ restrictionsOf (c :: cs), IsName r.attr.toList) →
      (∀ r ∈ restrictionsOf (d :: ds), IsName r.attr.toList) →
      Expression.ofClauses P c cs = Expression.ofClauses P d ds := by
  intro h
  have htrees := h [] (.group .or [alternative "a" "f(x"]) (.group .or [alternative "a" "f(x)", alternative "b" "g(y"])
    [alternative "b" "g(y)"] [] "(a==f(x),b==g(y)" (by decide) (by decide) (by decide) (by decide)
  cases htrees

end MonitorQuery.Request.Fiql
