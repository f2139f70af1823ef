import Mathlib.Tactic
import MonitorQuery.Proofs.Computation
import MonitorQuery.Proofs.Text.Component
import MonitorQuery.Request.Fiql

/-!
Search expressions as trees.

The compiler writes a text at once. Here the tree that stands behind the text comes first, and the text is read off it.

* `Expression`: a first term and further terms, each behind an operator; a term is a comparison or a group of at
  least one term. The operator of a first clause has no place in such a tree, and neither has an empty group.
* `Expression.ofClauses`: the tree of a list of clauses, with the same nesting and order, and at every leaf the
  attribute, the sign of the comparator and the text of the value.
* `Expression.lexemes`, `Expression.text`: the tree from left to right, piece by piece, and the text of the pieces.
* `expression_eq_map_text`: **the compiler writes the text of the tree**, and refuses what has no tree with the
  same rejection.
* `of_mem_lexemes_ofClauses`: every leaf of the tree stems from a restriction of the clauses.
* `mem_valueText`: the alphabet of the values, which has none of the signs of the structure but parentheses.
-/

namespace MonitorQuery.Query

mutual

/-- The restrictions of a clause from left to right, at any depth. -/
def Clause.restrictions : Clause → List Restriction
  | .restriction _ r => [r]
  | .group _ cs => restrictionsOf cs

/-- The restrictions of a list of clauses from left to right, at any depth. -/
def restrictionsOf : List Clause → List Restriction
  | [] => []
  | c :: cs => c.restrictions ++ restrictionsOf cs

end

end MonitorQuery.Query

namespace MonitorQuery.Request.Fiql

open MonitorQuery.Query

/-! ### Signs and comparisons -/

/-- What stands between an attribute and a value. -/
inductive Sign
  | equal | unequal | greater | less | atLeast | atMost
  deriving DecidableEq, Repr

namespace Sign

/-- The characters of a sign. -/
def chars : Sign → List Char
  | equal => ['=', '=']
  | unequal => ['!', '=']
  | greater => ['=', 'g', 't', '=']
  | less => ['=', 'l', 't', '=']
  | atLeast => ['=', 'g', 'e', '=']
  | atMost => ['=', 'l', 'e', '=']

/-- The sign of a comparator, for those that have one. -/
def of? : Comparator → Option Sign
  | .eq | .null | .like => some equal
  | .ne | .notNull => some unequal
  | .gt => some greater
  | .lt => some less
  | .ge => some atLeast
  | .le => some atMost
  | .ilike => none

end Sign

/-- The compiler's sign of a comparator is the text of this one. -/
lemma signOf_eq (c : Comparator) :
    signOf c = match Sign.of? c with
      | none => .error .ilike
      | some sign => .ok (String.ofList sign.chars) := by
  cases c <;> rfl

/-- A leaf of a search expression. -/
structure Comparison where
  attr : String
  sign : Sign
  value : String
  deriving DecidableEq, Repr

namespace Comparison

/-- The characters of a comparison. -/
def chars (c : Comparison) : List Char := c.attr.toList ++ c.sign.chars ++ c.value.toList

/-- The comparison that a restriction asks for. -/
def ofRestriction (properties : List Property) (r : Restriction) : Except Rejection Comparison := do
  checkAttr r
  match Sign.of? r.comparator with
  | none => .error .ilike
  | some sign => .ok ⟨r.attr, sign, valueText properties r⟩

variable {properties : List Property} {r : Restriction} {c : Comparison}

/-- What a restriction has to do with its comparison. -/
lemma of_ofRestriction (h : ofRestriction properties r = .ok c) :
    Text.isBlankText r.attr = false ∧ Sign.of? r.comparator = some c.sign
      ∧ c.attr = r.attr ∧ c.value = valueText properties r := by
  rw [ofRestriction, checkAttr] at h
  cases hb : Text.isBlankText r.attr with
  | true =>
      rw [if_pos hb] at h
      exact absurd h (by simp [bind, Except.bind])
  | false =>
      rw [if_neg (by simp [hb])] at h
      cases hs : Sign.of? r.comparator with
      | none => exact absurd h (by simp [hs, bind, Except.bind])
      | some sign =>
          simp only [hs, bind, Except.bind, Except.ok.injEq] at h
          subst h
          exact ⟨rfl, rfl, rfl, rfl⟩

/-- An attribute that is not blank has a first character. -/
lemma attr_ne_nil (h : ofRestriction properties r = .ok c) : c.attr.toList ≠ [] := by
  obtain ⟨hb, -, ha, -⟩ := of_ofRestriction h
  intro hn
  rw [← ha, Text.isBlankText, hn] at hb
  exact Bool.noConfusion hb

end Comparison

/-- The compiler writes the characters of the comparison. -/
lemma restrictionTerm_eq (properties : List Property) (r : Restriction) :
    restrictionTerm properties r
      = (Comparison.ofRestriction properties r).map fun c => String.ofList c.chars := by
  rw [restrictionTerm, Comparison.ofRestriction, signOf_eq]
  cases checkAttr r with
  | error e => rfl
  | ok _ =>
      cases Sign.of? r.comparator with
      | none => rfl
      | some sign =>
          simp [bind, Except.bind, Except.map, Comparison.chars, String.ofList_append,
            String.append_assoc]

/-! ### Trees -/

/-- A term of a search expression. -/
inductive Term
  | comparison (c : Comparison)
  | group (first : Term) (links : List (Operator × Term))

/-- A first term, and further ones behind their operators. -/
structure Expression where
  first : Term
  links : List (Operator × Term)

/-- What a search expression is made of, from left to right. -/
inductive Lexeme
  | opening
  | closing
  | joint (operator : Operator)
  | comparison (c : Comparison)
  deriving DecidableEq, Repr

/-- The characters of a lexeme. -/
def Lexeme.chars : Lexeme → List Char
  | opening => ['(']
  | closing => [')']
  | joint op => [op.sign]
  | comparison c => c.chars

/-- The characters of lexemes one after the other. -/
def charsOf (ls : List Lexeme) : List Char := ls.flatMap Lexeme.chars

@[simp] lemma charsOf_nil : charsOf [] = [] := rfl

@[simp] lemma charsOf_cons (l : Lexeme) (ls : List Lexeme) : charsOf (l :: ls) = l.chars ++ charsOf ls := rfl

@[simp] lemma charsOf_append (ls ks : List Lexeme) : charsOf (ls ++ ks) = charsOf ls ++ charsOf ks := by
  simp [charsOf]

mutual

/-- The lexemes of a term. -/
def Term.lexemes : Term → List Lexeme
  | .comparison c => [.comparison c]
  | .group first links => .opening :: (first.lexemes ++ linkLexemes links ++ [.closing])

/-- The lexemes of terms, each behind its operator. -/
def linkLexemes : List (Operator × Term) → List Lexeme
  | [] => []
  | (op, t) :: links => .joint op :: (t.lexemes ++ linkLexemes links)

end

/-- The lexemes of a search expression. -/
def Expression.lexemes (e : Expression) : List Lexeme := e.first.lexemes ++ linkLexemes e.links

/-- The text of a search expression. -/
def Expression.text (e : Expression) : String := String.ofList (charsOf e.lexemes)

/-! ### The tree of a list of clauses -/

mutual

/-- The term of a clause. -/
def Term.ofClause (properties : List Property) : Clause → Except Rejection Term
  | .restriction _ r => do
    let c ← Comparison.ofRestriction properties r
    .ok (.comparison c)
  | .group _ [] => .error .emptyGroup
  | .group _ (c :: cs) => do
    let first ← Term.ofClause properties c
    let links ← linksOf properties cs
    .ok (.group first links)

/-- The terms of the clauses behind a first one, with the operators that join them. -/
def linksOf (properties : List Property) : List Clause → Except Rejection (List (Operator × Term))
  | [] => .ok []
  | c :: cs => do
    let t ← Term.ofClause properties c
    let links ← linksOf properties cs
    .ok ((c.operator, t) :: links)

end

/-- The tree of a first clause and those behind it. -/
def Expression.ofClauses (properties : List Property) (c : Clause) (cs : List Clause) :
    Except Rejection Expression := do
  let first ← Term.ofClause properties c
  let links ← linksOf properties cs
  .ok ⟨first, links⟩

section Inversion

variable {properties : List Property} {c : Clause} {cs : List Clause}

/-- What the term of a group is made of. -/
lemma Term.of_ofClause_group {op : Operator} {t : Term} (h : Term.ofClause properties (.group op (c :: cs)) = .ok t) :
    ∃ first links, Term.ofClause properties c = .ok first ∧ linksOf properties cs = .ok links
      ∧ t = .group first links := by
  obtain ⟨first, hfirst, h⟩ := bind_eq_ok.mp h
  obtain ⟨links, hlinks, h⟩ := bind_eq_ok.mp h
  cases h
  exact ⟨first, links, hfirst, hlinks, rfl⟩

/-- What the terms of clauses behind a first one are. -/
lemma of_linksOf_cons {links : List (Operator × Term)} (h : linksOf properties (c :: cs) = .ok links) :
    ∃ t rest, Term.ofClause properties c = .ok t ∧ linksOf properties cs = .ok rest
      ∧ links = (c.operator, t) :: rest := by
  obtain ⟨t, ht, h⟩ := bind_eq_ok.mp h
  obtain ⟨rest, hrest, h⟩ := bind_eq_ok.mp h
  cases h
  exact ⟨t, rest, ht, hrest, rfl⟩

/-- What the terms are, if the first of the clauses is no group. -/
lemma of_linksOf_cons_restriction {op : Operator} {r : Restriction} {links : List (Operator × Term)}
    (h : linksOf properties (.restriction op r :: cs) = .ok links) :
    ∃ l rest, Comparison.ofRestriction properties r = .ok l ∧ linksOf properties cs = .ok rest
      ∧ links = (op, .comparison l) :: rest := by
  obtain ⟨t, rest, ht, hrest, rfl⟩ := of_linksOf_cons h
  obtain ⟨l, hl, h⟩ := bind_eq_ok.mp ht
  cases h
  exact ⟨l, rest, hl, hrest, rfl⟩

/-- The tree of a list of clauses has the parts of the term of a group. -/
lemma Expression.ofClause_group (op : Operator) {e : Expression}
    (h : Expression.ofClauses properties c cs = .ok e) :
    Term.ofClause properties (.group op (c :: cs)) = .ok (.group e.first e.links) := by
  obtain ⟨first, hfirst, h⟩ := bind_eq_ok.mp h
  obtain ⟨links, hlinks, h⟩ := bind_eq_ok.mp h
  cases h
  exact bind_eq_ok.mpr ⟨first, hfirst, bind_eq_ok.mpr ⟨links, hlinks, rfl⟩⟩

end Inversion

section Compiler

variable (properties : List Property)

mutual

/-- The compiler writes the text of a term. -/
lemma term_eq : ∀ c : Clause,
    term properties c = (Term.ofClause properties c).map fun t => String.ofList (charsOf t.lexemes)
  | .restriction _ r => by
      rw [term, Term.ofClause, restrictionTerm_eq]
      cases Comparison.ofRestriction properties r with
      | error e => rfl
      | ok c => simp [bind, Except.bind, Except.map, Term.lexemes, Lexeme.chars]
  | .group _ [] => rfl
  | .group _ (c :: cs) => by
      rw [term, Term.ofClause, term_eq c, followers_eq cs]
      cases Term.ofClause properties c with
      | error e => rfl
      | ok first =>
          cases linksOf properties cs with
          | error e => rfl
          | ok links =>
              simp [bind, Except.bind, Except.map, Term.lexemes, Lexeme.chars, String.ofList_append,
                ← String.append_assoc]

/-- The compiler writes the texts of the terms behind a first one. -/
lemma followers_eq : ∀ cs : List Clause,
    followers properties cs
      = (linksOf properties cs).map fun links => String.ofList (charsOf (linkLexemes links))
  | [] => rfl
  | c :: cs => by
      rw [followers, linksOf, term_eq c, followers_eq cs]
      cases Term.ofClause properties c with
      | error e => rfl
      | ok t =>
          cases linksOf properties cs with
          | error e => rfl
          | ok links =>
              simp [bind, Except.bind, Except.map, linkLexemes, Lexeme.chars, String.ofList_append,
                ← String.append_assoc]

end

/-- **The compiler writes the text of the tree**, and refuses clauses without a tree for the same reason. -/
theorem expression_eq_map_text (c : Clause) (cs : List Clause) :
    expression properties (c :: cs) = (Expression.ofClauses properties c cs).map Expression.text := by
  rw [expression, Expression.ofClauses, term_eq, followers_eq]
  cases Term.ofClause properties c with
  | error e => rfl
  | ok first =>
      cases linksOf properties cs with
      | error e => rfl
      | ok links =>
          simp [bind, Except.bind, Except.map, Expression.text, Expression.lexemes, String.ofList_append]

end Compiler

/-! ### Leaves -/

section Leaves

variable {properties : List Property}

mutual

/-- Every leaf of a term stems from a restriction of the clause. -/
lemma of_mem_lexemes_ofClause : ∀ {c : Clause} {t : Term} {l : Comparison},
    Term.ofClause properties c = .ok t → Lexeme.comparison l ∈ t.lexemes →
      ∃ r ∈ c.restrictions, Comparison.ofRestriction properties r = .ok l
  | .restriction _ r, t, l, ht, hl => by
      obtain ⟨m, hm, h⟩ := bind_eq_ok.mp ht
      cases h
      simp only [Term.lexemes, List.mem_singleton, Lexeme.comparison.injEq] at hl
      subst hl
      exact ⟨r, by simp [Clause.restrictions], hm⟩
  | .group _ [], t, l, ht, _ => by cases ht
  | .group _ (c :: cs), t, l, ht, hl => by
      obtain ⟨first, links, hfirst, hlinks, rfl⟩ := Term.of_ofClause_group ht
      simp only [Term.lexemes, List.mem_cons, List.mem_append, reduceCtorEq, List.not_mem_nil, or_false,
        false_or] at hl
      rcases hl with hl | hl
      · obtain ⟨r, hr, h⟩ := of_mem_lexemes_ofClause hfirst hl
        exact ⟨r, by simp [Clause.restrictions, restrictionsOf, hr], h⟩
      · obtain ⟨r, hr, h⟩ := of_mem_linkLexemes_linksOf hlinks hl
        exact ⟨r, by simp [Clause.restrictions, restrictionsOf, hr], h⟩

/-- Every leaf behind a first term stems from a restriction of the clauses. -/
lemma of_mem_linkLexemes_linksOf : ∀ {cs : List Clause} {links : List (Operator × Term)} {l : Comparison},
    linksOf properties cs = .ok links → Lexeme.comparison l ∈ linkLexemes links →
      ∃ r ∈ restrictionsOf cs, Comparison.ofRestriction properties r = .ok l
  | [], links, l, h, hl => by
      cases h
      simp [linkLexemes] at hl
  | c :: cs, links, l, h, hl => by
      obtain ⟨t, rest, ht, hrest, rfl⟩ := of_linksOf_cons h
      simp only [linkLexemes, List.mem_cons, List.mem_append, reduceCtorEq, false_or] at hl
      rcases hl with hl | hl
      · obtain ⟨r, hr, h⟩ := of_mem_lexemes_ofClause ht hl
        exact ⟨r, by simp [restrictionsOf, hr], h⟩
      · obtain ⟨r, hr, h⟩ := of_mem_linkLexemes_linksOf hrest hl
        exact ⟨r, by simp [restrictionsOf, hr], h⟩

end

/-- Every leaf of the tree stems from a restriction of the clauses. -/
lemma of_mem_lexemes_ofClauses {c : Clause} {cs : List Clause} {e : Expression} {l : Comparison}
    (he : Expression.ofClauses properties c cs = .ok e) (hl : Lexeme.comparison l ∈ e.lexemes) :
    ∃ r ∈ restrictionsOf (c :: cs), Comparison.ofRestriction properties r = .ok l := by
  -- between the parentheses of a group there are the lexemes of the tree
  have hgroup : Lexeme.comparison l ∈ (Term.group e.first e.links).lexemes := by
    simpa [Term.lexemes, Expression.lexemes] using hl
  obtain ⟨r, hr, h⟩ := of_mem_lexemes_ofClause (Expression.ofClause_group .or he) hgroup
  exact ⟨r, hr, h⟩

end Leaves

/-! ### The alphabet of the values -/

/-- A value is encoded, or the placeholder of a null. -/
lemma valueText_eq (properties : List Property) (r : Restriction) :
    valueText properties r = nullValue ∨ ∃ s, valueText properties r = Text.Percent.encode s := by
  have htyped : typedNull properties r.attr = nullValue
      ∨ ∃ s, typedNull properties r.attr = Text.Percent.encode s := by
    rw [typedNull]
    split
    · exact Or.inr ⟨nullDate, rfl⟩
    · exact Or.inl rfl
  rw [valueText]
  split
  · split
    · exact Or.inl rfl
    · exact htyped
  · split
    · exact htyped
    · exact Or.inr ⟨_, rfl⟩

/-- **The alphabet of the values**: kept characters, the percent sign and the placeholder of a null. -/
lemma mem_valueText {properties : List Property} {r : Restriction} {d : Char}
    (h : d ∈ (valueText properties r).toList) :
    Text.Percent.isKept d = true ∨ d = '%' ∨ d = '\x00' := by
  rcases valueText_eq properties r with hn | ⟨s, hs⟩
  · rw [hn, nullValue] at h
    exact Or.inr (Or.inr (by simpa using h))
  · rw [hs, Text.Percent.toList_encode] at h
    rcases Text.Percent.mem_encodeChars h with hk | hp
    · exact Or.inl hk
    · exact Or.inr (Or.inl hp)

end MonitorQuery.Request.Fiql
