import MonitorQuery.Proofs.Fiql.Lexing

/-!
Reading search expressions back.

* `Progress`: what is known after some of the lexemes, namely the lists in which a group is open and the list that is
  being read. `Progress.step` takes one lexeme, and `decode` cuts a text and takes all its lexemes.
* `Progress.takeAll_lexemes`: every tree is put together again from its lexemes, whatever stands behind it.
* `Progress.lexemes_step`: a step adds its lexeme to those that have been read and changes nothing before it, so
  **a text that is read is the text of its tree** (`text_of_decode`).
* `IsExpression`: the grammar of search expressions, and `Expression.isExpression_text`, that clean trees are
  written in it.
* `isExpression_and_decode_of_expression`: **what the compiler writes belongs to the grammar and is read back as the
  tree of the clauses.**
-/

namespace MonitorQuery.Request.Fiql

open MonitorQuery.Query

/-! ### Putting lexemes together -/

/-- The terms of a list before the one to come, with the operator behind them, if there are any. -/
abbrev Begun := Option (Expression × Operator)

namespace Begun

/-- The list with the term that has come. -/
def add : Begun → Term → Expression
  | none, t => ⟨t, []⟩
  | some (e, op), t => ⟨e.first, e.links ++ [(op, t)]⟩

/-- The lexemes that have been read of the list. -/
def lexemes : Begun → List Lexeme
  | none => []
  | some (e, op) => e.lexemes ++ [.joint op]

end Begun

/-- What is known after some of the lexemes: the lists in which a group is open, innermost first, and whether the
innermost list awaits a term or has just got one. -/
inductive Progress
  | awaiting (enclosing : List Begun) (begun : Begun)
  | behind (enclosing : List Begun) (e : Expression)

namespace Progress

/-- Nothing has been read. -/
def start : Progress := .awaiting [] none

/-- Takes one lexeme. -/
def step : Progress → Lexeme → Option Progress
  | .awaiting enclosing b, .opening => some (.awaiting (b :: enclosing) none)
  | .awaiting enclosing b, .comparison c => some (.behind enclosing (b.add (.comparison c)))
  | .behind enclosing e, .joint op => some (.awaiting enclosing (some (e, op)))
  | .behind (b :: enclosing) e, .closing => some (.behind enclosing (b.add (.group e.first e.links)))
  | _, _ => none

/-- The tree, once nothing is open. -/
def finish : Progress → Option Expression
  | .behind [] e => some e
  | _ => none

/-- Takes all lexemes. -/
def takeAll (p : Progress) : List Lexeme → Option Expression
  | [] => p.finish
  | l :: ls => (p.step l).bind fun p => p.takeAll ls

lemma takeAll_cons {p q : Progress} {l : Lexeme} (h : p.step l = some q) (ls : List Lexeme) :
    p.takeAll (l :: ls) = q.takeAll ls := by
  rw [takeAll, h]
  rfl

mutual

/-- The lexemes of a term are put together to the term. -/
lemma takeAll_lexemes : ∀ (t : Term) (enclosing : List Begun) (b : Begun) (ls : List Lexeme),
    (awaiting enclosing b).takeAll (t.lexemes ++ ls) = (behind enclosing (b.add t)).takeAll ls
  | .comparison c, enclosing, b, ls => takeAll_cons rfl ls
  | .group first links, enclosing, b, ls => by
      calc (awaiting enclosing b).takeAll ((Term.group first links).lexemes ++ ls)
          = (awaiting (b :: enclosing) none).takeAll
              (first.lexemes ++ (linkLexemes links ++ (.closing :: ls))) := by
            rw [← takeAll_cons (p := awaiting enclosing b) (l := .opening) rfl]
            simp [Term.lexemes]
        _ = (behind (b :: enclosing) ⟨first, links⟩).takeAll (.closing :: ls) := by
            rw [takeAll_lexemes first, takeAll_linkLexemes links]
            rfl
        _ = (behind enclosing (b.add (.group first links))).takeAll ls := takeAll_cons rfl ls

/-- The lexemes of terms behind their operators are put together behind the terms before them. -/
lemma takeAll_linkLexemes : ∀ (links : List (Operator × Term)) (enclosing : List Begun) (e : Expression)
    (ls : List Lexeme), (behind enclosing e).takeAll (linkLexemes links ++ ls)
      = (behind enclosing ⟨e.first, e.links ++ links⟩).takeAll ls
  | [], enclosing, e, ls => by simp [linkLexemes]
  | (op, t) :: links, enclosing, e, ls => by
      calc (behind enclosing e).takeAll (linkLexemes ((op, t) :: links) ++ ls)
          = (awaiting enclosing (some (e, op))).takeAll (t.lexemes ++ (linkLexemes links ++ ls)) := by
            rw [← takeAll_cons (p := behind enclosing e) (l := .joint op) rfl]
            simp [linkLexemes]
        _ = (behind enclosing ⟨e.first, e.links ++ [(op, t)] ++ links⟩).takeAll ls := by
            rw [takeAll_lexemes t, takeAll_linkLexemes links]
            rfl
        _ = (behind enclosing ⟨e.first, e.links ++ (op, t) :: links⟩).takeAll ls := by
            rw [List.append_assoc, List.singleton_append]

end

/-- **Every tree is put together again from its lexemes.** -/
theorem takeAll_start (e : Expression) : start.takeAll e.lexemes = some e := by
  have h := takeAll_lexemes e.first [] none (linkLexemes e.links ++ [])
  rw [takeAll_linkLexemes, List.append_nil] at h
  exact h

/-! ### No lexeme is lost -/

/-- The lexemes that have been read of the lists in which a group is open. -/
def enclosingLexemes : List Begun → List Lexeme
  | [] => []
  | b :: enclosing => enclosingLexemes enclosing ++ b.lexemes ++ [.opening]

/-- The lexemes that have been read. -/
def lexemes : Progress → List Lexeme
  | .awaiting enclosing b => enclosingLexemes enclosing ++ b.lexemes
  | .behind enclosing e => enclosingLexemes enclosing ++ e.lexemes

lemma linkLexemes_append (links rest : List (Operator × Term)) :
    linkLexemes (links ++ rest) = linkLexemes links ++ linkLexemes rest := by
  induction links with
  | nil => rfl
  | cons link links ih =>
      obtain ⟨op, t⟩ := link
      simp [linkLexemes, ih]

/-- A term that comes adds its lexemes to those of the list. -/
lemma lexemes_add (b : Begun) (t : Term) : (b.add t).lexemes = b.lexemes ++ t.lexemes := by
  cases b with
  | none => simp [Begun.add, Begun.lexemes, Expression.lexemes, linkLexemes]
  | some b =>
      obtain ⟨e, op⟩ := b
      simp [Begun.add, Begun.lexemes, Expression.lexemes, linkLexemes_append, linkLexemes]

/-- **A step adds its lexeme** to those that have been read. -/
lemma lexemes_step {p q : Progress} {l : Lexeme} (h : p.step l = some q) : q.lexemes = p.lexemes ++ [l] := by
  unfold step at h
  split at h
  · cases h
    simp [lexemes, enclosingLexemes, Begun.lexemes]
  · cases h
    simp [lexemes, lexemes_add, Term.lexemes]
  · cases h
    simp [lexemes, Begun.lexemes]
  · cases h
    rw [lexemes, lexemes_add]
    simp [lexemes, enclosingLexemes, Term.lexemes, Expression.lexemes]
  · cases h

/-- What has been read and what is left are the lexemes of the tree. -/
lemma lexemes_of_takeAll {p : Progress} {ls : List Lexeme} {e : Expression} (h : p.takeAll ls = some e) :
    p.lexemes ++ ls = e.lexemes := by
  induction ls generalizing p with
  | nil =>
      rw [takeAll] at h
      unfold finish at h
      split at h
      · cases h
        simp [lexemes, enclosingLexemes]
      · cases h
  | cons l ls ih =>
      obtain ⟨q, hq, h⟩ := Option.bind_eq_some_iff.mp h
      rw [← ih h, lexemes_step hq, List.append_assoc, List.singleton_append]

end Progress

/-! ### The decoder -/

/-- The tree that a text writes. -/
def decode (s : String) : Option Expression := (lexemes? s.toList).bind Progress.start.takeAll

/-- **A text that is read is the text of its tree.** -/
theorem text_of_decode {s : String} {e : Expression} (h : decode s = some e) : e.text = s := by
  obtain ⟨ls, hls, h⟩ := Option.bind_eq_some_iff.mp h
  have hlex : ls = e.lexemes := Progress.lexemes_of_takeAll h
  rw [Expression.text, ← hlex, charsOf_of_lexemes? hls, String.ofList_toList]

/-- **The text of a clean tree is read back as the tree.** -/
theorem decode_text {e : Expression} (h : ∀ c, .comparison c ∈ e.lexemes → c.Clean) :
    decode e.text = some e := by
  rw [decode, Expression.text, String.toList_ofList, e.awaits_lexemes.lexemes?_charsOf h]
  exact Progress.takeAll_start e

/-! ### The grammar -/

mutual

/-- `term ::= attribute sign value | "(" expression ")"` -/
inductive IsTerm : List Char → Prop
  | comparison {attr value : List Char} (sign : Sign) : attr ≠ [] → IsPlain attr → IsJoined value →
      Balanced value → IsTerm (attr ++ sign.chars ++ value)
  | group {cs : List Char} : IsExpression cs → IsTerm ('(' :: cs ++ [')'])

/-- `expression ::= term ((";" | ",") term)*` -/
inductive IsExpression : List Char → Prop
  | term {cs : List Char} : IsTerm cs → IsExpression cs
  | joint {cs ds : List Char} (op : Operator) : IsExpression cs → IsTerm ds →
      IsExpression (cs ++ op.sign :: ds)

end

mutual

/-- A clean term is written in the grammar. -/
lemma Term.isTerm : ∀ t : Term, (∀ c, .comparison c ∈ t.lexemes → c.Clean) → IsTerm (charsOf t.lexemes)
  | .comparison c, hclean => by
      have hc := hclean c (by simp [Term.lexemes])
      simpa [Term.lexemes, Lexeme.chars, Comparison.chars] using
        IsTerm.comparison c.sign hc.attr_ne_nil hc.attr_plain hc.value_joined hc.value_balanced
  | .group first links, hclean => by
      have hfirst := first.isTerm fun c hc => hclean c (by simp [Term.lexemes, hc])
      have hinner := isExpression_append_links links (.term hfirst)
        fun c hc => hclean c (by simp [Term.lexemes, hc])
      simpa [Term.lexemes, Lexeme.chars] using IsTerm.group hinner

/-- Clean terms behind their operators lengthen an expression. -/
lemma isExpression_append_links : ∀ (links : List (Operator × Term)) {cs : List Char}, IsExpression cs →
    (∀ c, .comparison c ∈ linkLexemes links → c.Clean) → IsExpression (cs ++ charsOf (linkLexemes links))
  | [], cs, hcs, _ => by simpa [linkLexemes] using hcs
  | (op, t) :: links, cs, hcs, hclean => by
      have ht := t.isTerm fun c hc => hclean c (by simp [linkLexemes, hc])
      have hrest := isExpression_append_links links (.joint op hcs ht)
        fun c hc => hclean c (by simp [linkLexemes, hc])
      simpa [linkLexemes, Lexeme.chars] using hrest

end

/-- A clean tree is written in the grammar. -/
lemma Expression.isExpression_text (e : Expression) (h : ∀ c, .comparison c ∈ e.lexemes → c.Clean) :
    IsExpression e.text.toList := by
  have hfirst := e.first.isTerm fun c hc => h c (by simp [Expression.lexemes, hc])
  have hall := isExpression_append_links e.links (.term hfirst)
    fun c hc => h c (by simp [Expression.lexemes, hc])
  simpa [Expression.text, Expression.lexemes] using hall

/-! ### What the compiler writes -/

section Compiler

variable {properties : List Property} {c : Clause} {cs : List Clause}

/-- A restriction on a plain attribute asks for a plain comparison. -/
lemma Comparison.plain_of_ofRestriction {r : Restriction} {t : Comparison} (h : ofRestriction properties r = .ok t)
    (hplain : IsPlain r.attr.toList) : t.Plain := by
  obtain ⟨-, -, hattr, hvalue⟩ := of_ofRestriction h
  exact
    { attr_ne_nil := attr_ne_nil h
      attr_plain := hattr ▸ hplain
      value_joined := hvalue ▸ isJoined_valueText properties r }

/-- Clauses with plain attributes have a tree of plain comparisons. -/
lemma plain_of_ofClauses {e : Expression} (he : Expression.ofClauses properties c cs = .ok e)
    (hplain : ∀ r ∈ restrictionsOf (c :: cs), IsPlain r.attr.toList) :
    ∀ l, .comparison l ∈ e.lexemes → l.Plain := by
  intro l hl
  obtain ⟨r, hr, h⟩ := of_mem_lexemes_ofClauses he hl
  exact Comparison.plain_of_ofRestriction h (hplain r hr)

/-- What holds of the values of the restrictions holds of the values in the tree. -/
lemma value_of_ofClauses {e : Expression} (he : Expression.ofClauses properties c cs = .ok e)
    {P : List Char → Prop} (hP : ∀ r ∈ restrictionsOf (c :: cs), P (valueText properties r).toList) :
    ∀ l, .comparison l ∈ e.lexemes → P l.value.toList := by
  intro l hl
  obtain ⟨r, hr, h⟩ := of_mem_lexemes_ofClauses he hl
  obtain ⟨-, -, -, hvalue⟩ := Comparison.of_ofRestriction h
  exact hvalue ▸ hP r hr

/-- Clauses with plain attributes and balanced values have a clean tree. -/
lemma clean_of_ofClauses {e : Expression} (he : Expression.ofClauses properties c cs = .ok e)
    (hplain : ∀ r ∈ restrictionsOf (c :: cs), IsPlain r.attr.toList)
    (hbalanced : ∀ r ∈ restrictionsOf (c :: cs), Balanced (valueText properties r).toList) :
    ∀ l, .comparison l ∈ e.lexemes → l.Clean := fun l hl =>
  { toPlain := plain_of_ofClauses he hplain l hl
    value_balanced := value_of_ofClauses he hbalanced l hl }

/-- What the compiler writes is the text of a tree of the clauses. -/
lemma exists_ofClauses_of_expression {s : String} (h : expression properties (c :: cs) = .ok s) :
    ∃ e, Expression.ofClauses properties c cs = .ok e ∧ e.text = s := by
  rw [expression_eq_map_text] at h
  exact map_eq_ok.mp h

/-- What the compiler writes of plain attributes and balanced values is read back as the tree of the clauses. -/
lemma decode_of_expression {s : String} (h : expression properties (c :: cs) = .ok s)
    (hplain : ∀ r ∈ restrictionsOf (c :: cs), IsPlain r.attr.toList)
    (hbalanced : ∀ r ∈ restrictionsOf (c :: cs), Balanced (valueText properties r).toList) :
    ∃ e, Expression.ofClauses properties c cs = .ok e ∧ e.text = s ∧ decode s = some e := by
  obtain ⟨e, he, rfl⟩ := exists_ofClauses_of_expression h
  exact ⟨e, he, rfl, decode_text (clean_of_ofClauses he hplain hbalanced)⟩

/-- **The search text can be decoded.** What the compiler writes of clauses with plain attributes and balanced values
belongs to the grammar, and the decoder returns the tree of the clauses. -/
theorem isExpression_and_decode_of_expression {s : String} (h : expression properties (c :: cs) = .ok s)
    (hplain : ∀ r ∈ restrictionsOf (c :: cs), IsPlain r.attr.toList)
    (hbalanced : ∀ r ∈ restrictionsOf (c :: cs), Balanced (valueText properties r).toList) :
    IsExpression s.toList ∧ ∃ e, Expression.ofClauses properties c cs = .ok e ∧ decode s = some e := by
  obtain ⟨e, he, rfl⟩ := exists_ofClauses_of_expression h
  have hclean := clean_of_ofClauses he hplain hbalanced
  exact ⟨e.isExpression_text hclean, e, he, decode_text hclean⟩

/-- A group with a null and a value of parentheses, and behind it an empty value. -/
def nullInGroup : Clause × List Clause :=
  (.group .or [.restriction .or ⟨"a", .eq, some (.text "f(x)")⟩, .restriction .and ⟨"b", .null, none⟩],
    [.restriction .or ⟨"c", .like, some (.text "")⟩])

theorem isExpression_and_decode_nullInGroup :
    expression [] (nullInGroup.1 :: nullInGroup.2) = .ok "(a==f(x);b==\x00),c=="
      ∧ IsExpression "(a==f(x);b==\x00),c==".toList
      ∧ ∃ e, Expression.ofClauses [] nullInGroup.1 nullInGroup.2 = .ok e
          ∧ decode "(a==f(x);b==\x00),c==" = some e :=
  ⟨by decide, isExpression_and_decode_of_expression (by decide) (by decide) (by decide)⟩

end Compiler

end MonitorQuery.Request.Fiql
