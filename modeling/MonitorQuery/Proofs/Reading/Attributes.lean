import Mathlib.Tactic
import MonitorQuery.Proofs.Query.Nodes
import MonitorQuery.Proofs.Reading.Arguments
import MonitorQuery.Proofs.Reading.Grammar

/-!
The attributes and groups that tokens write.

An argument is trimmed before the parentheses are taken off, so `( )` leaves a token of blanks. Such a token has lost a `)`,
which comes right behind it. An attribute is followed by the word for a comparator, and so it is never one of those tokens.

* `BlanksClosed`: a `)` stands behind every blank token. `Token.blanksClosed_ofArguments`: this holds of all tokens of
  arguments.
* `Shows`: what tokens have to say of a clause that they write. `WritesList.shows`: they do so of every clause, at any depth.
* `attr_not_blank_of_clausesOf`, `group_ne_nil_of_clausesOf`: **no attribute that is read is blank, and no group empty.**
-/

namespace MonitorQuery.Text

/-- A text with a character that is not blank is not blank. -/
lemma isBlankText_ofList_eq_false {cs : List Char} {c : Char} (hc : c ∈ cs) (hblank : isBlank c = false) :
    isBlankText (String.ofList cs) = false := by
  rw [isBlankText, String.toList_ofList, List.all_eq_false]
  exact ⟨c, hc, by simp [hblank]⟩

end MonitorQuery.Text

namespace MonitorQuery.Query

/-! ### Blank tokens -/

/-- Every blank token stands right before a `)`. -/
inductive BlanksClosed : List String → Prop
  | nil : BlanksClosed []
  | cons {token : String} {tokens : List String} :
      (Text.isBlankText token = true → tokens.head? = some Token.closing) → BlanksClosed tokens →
      BlanksClosed (token :: tokens)

lemma BlanksClosed.append {ts us : List String} (hts : BlanksClosed ts) (hus : BlanksClosed us) :
    BlanksClosed (ts ++ us) := by
  induction hts with
  | nil => exact hus
  | @cons token ts hclosed _ ih =>
      have hhead : Text.isBlankText token = true → (ts ++ us).head? = some Token.closing := by
        intro hblank
        rw [List.head?_append, hclosed hblank]
        rfl
      exact .cons hhead ih

/-- A blank token among others has a `)` right behind it. -/
lemma BlanksClosed.head?_behind {before behind : List String} {token : String}
    (h : BlanksClosed (before ++ token :: behind)) (hblank : Text.isBlankText token = true) :
    behind.head? = some Token.closing := by
  induction before with
  | nil =>
      cases h with
      | cons hclosed _ => exact hclosed hblank
  | cons t before ih =>
      cases h with
      | cons _ h => exact ih h

lemma blanksClosed_replicate {token : String} (h : Text.isBlankText token = false) (n : ℕ) :
    BlanksClosed (List.replicate n token) := by
  induction n with
  | zero => exact .nil
  | succ n ih => exact .cons (fun hblank => absurd hblank (by simp [h])) ih

namespace Token

/-- If the rest of an argument does not end in a blank, a blank word in it has lost a `)`. -/
lemma blanksClosed_ofRest {cs : List Char} (h : ∀ c ∈ cs.getLast?, Text.isBlank c = false) :
    BlanksClosed (ofRest cs) := by
  have hclosing : ∀ n, BlanksClosed (List.replicate n closing) := blanksClosed_replicate (by decide)
  rw [ofRest]
  cases hword : cs.take (cs.length - closers cs) with
  | nil => exact hclosing _
  | cons d word =>
      refine .cons (fun hblank => ?_) (hclosing _)
      cases hn : closers cs with
      | succ n => rfl
      | zero =>
          -- nothing has been taken off, so the word ends as the rest does
          rw [hn, Nat.sub_zero, List.take_length] at hword
          have hne : cs ≠ [] := by simp [hword]
          have hlast : Text.isBlank (cs.getLast hne) = false := h _ (List.getLast?_eq_some_getLast hne)
          have hmem : cs.getLast hne ∈ d :: word := hword ▸ List.getLast_mem hne
          rw [Text.isBlankText_ofList_eq_false hmem hlast] at hblank
          cases hblank

/-- The tokens of an argument. -/
lemma blanksClosed_ofArgument (arg : String) : BlanksClosed (ofArgument arg) := by
  have hopening : Text.isBlankText opening = false := by decide
  have hrest : ∀ c ∈ (inner arg).getLast?, Text.isBlank c = false := by
    intro c hc
    refine (Text.isTrimmed_trimChars arg.toList).last c ?_
    rw [← replicate_append_inner, List.getLast?_append, Option.mem_def.mp hc]
    rfl
  rw [ofArgument_eq]
  exact (blanksClosed_replicate hopening _).append (blanksClosed_ofRest hrest)

/-- **A `)` stands behind every blank token** of a list of arguments. -/
lemma blanksClosed_ofArguments (args : List String) : BlanksClosed (ofArguments args) := by
  induction args with
  | nil => exact .nil
  | cons arg args ih =>
      rw [ofArguments, List.flatMap_cons]
      exact (blanksClosed_ofArgument arg).append ih

end Token

/-! ### What tokens say of the clauses they write -/

/-- What tokens say of a clause: where the attribute of a restriction stands, with the word for its comparator behind it, and
that there is something in a group. -/
def Shows (tokens : List String) : Clause → Prop
  | .restriction _ r => ∃ before word behind, tokens = before ++ r.attr :: word :: behind
      ∧ Comparator.find word = some r.comparator
  | .group _ cs => cs ≠ []

/-- Further tokens around them do no harm. -/
lemma Shows.extend {tokens : List String} {c : Clause} (h : Shows tokens c) (front rear : List String) :
    Shows (front ++ tokens ++ rear) c := by
  cases c with
  | group op cs => exact h
  | restriction op r =>
      obtain ⟨before, word, behind, rfl, hword⟩ := h
      exact ⟨front ++ before, word, behind ++ rear, by simp, hword⟩

/-- A list that is written has a first clause. -/
lemma WritesList.clauses_ne_nil {ts : List String} {cs : List Clause} (h : WritesList ts cs) : cs ≠ [] := by
  cases h <;> simp

mutual

/-- The tokens of a term say so of every clause in it. -/
lemma WritesTerm.shows : ∀ {op : Operator} {ts : List String} {c d : Clause}, WritesTerm op ts c → d ∈ c.nodes →
    Shows ts d
  | _, _, _, d, @WritesTerm.nullCheck op attr word c hattr hfind hnull, hd => by
      rw [Clause.nodes, List.mem_singleton] at hd
      subst hd
      exact ⟨[], word, [], rfl, hfind⟩
  | _, _, _, d, @WritesTerm.comparison op attr word c raw hattr hfind hnull, hd => by
      rw [Clause.nodes, List.mem_singleton] at hd
      subst hd
      exact ⟨[], word, [raw], rfl, hfind⟩
  | _, _, _, d, @WritesTerm.group op ts cs h, hd => by
      rw [Clause.nodes, List.mem_cons] at hd
      obtain rfl | hd := hd
      · exact h.clauses_ne_nil
      · exact (h.shows hd).extend [Token.opening] [Token.closing]

/-- **The tokens of a list say so of every clause in it**, at any depth. -/
lemma WritesList.shows : ∀ {ts : List String} {cs : List Clause} {d : Clause}, WritesList ts cs → d ∈ nodesOf cs →
    Shows ts d
  | _, _, d, @WritesList.first ts c h, hd => by
      rw [nodesOf, nodesOf, List.append_nil] at hd
      exact h.shows hd
  | _, _, d, @WritesList.further ts us cs c token op hlist hop hterm, hd => by
      rw [nodesOf_append, List.mem_append] at hd
      obtain hd | hd := hd
      · exact (hlist.shows hd).extend [] (token :: us)
      · rw [nodesOf, nodesOf, List.append_nil] at hd
        have hshows := (hterm.shows hd).extend (ts ++ [token]) []
        rwa [List.append_nil, List.append_assoc, List.singleton_append] at hshows

end

/-- No comparator is written by a `)`. -/
lemma find_comparator_closing : Comparator.find Token.closing = none := by decide

section Arguments

variable {args : List String} {cs : List Clause}

/-- Clauses that are read from arguments are none, or written by their tokens. -/
lemma eq_nil_or_writesList (h : clausesOf args = .ok cs) : cs = [] ∨ WritesList (Token.ofArguments args) cs := by
  by_cases hargs : Token.ofArguments args = []
  · rw [clausesOf, hargs] at h
    exact Or.inl (Except.ok.inj h).symm
  · exact Or.inr ((clausesOfTokens_eq_ok_iff hargs cs).mp h)

/-- **No attribute that is read is blank.** A blank token would have a `)` behind it, which is no comparator. -/
theorem attr_not_blank_of_clausesOf (h : clausesOf args = .ok cs) {op : Operator} {r : Restriction}
    (hr : .restriction op r ∈ nodesOf cs) : Text.isBlankText r.attr = false := by
  obtain rfl | hwrites := eq_nil_or_writesList h
  · cases hr
  · obtain ⟨before, word, behind, htokens, hword⟩ := hwrites.shows hr
    have hclosed : BlanksClosed (before ++ r.attr :: word :: behind) := htokens ▸ Token.blanksClosed_ofArguments args
    by_contra hblank
    have hclosing := hclosed.head?_behind (by simpa using hblank)
    rw [List.head?_cons, Option.some.injEq] at hclosing
    rw [hclosing, find_comparator_closing] at hword
    cases hword

/-- **No group that is read is empty.** -/
theorem group_ne_nil_of_clausesOf (h : clausesOf args = .ok cs) (op : Operator) : Clause.group op [] ∉ nodesOf cs := by
  intro hgroup
  obtain rfl | hwrites := eq_nil_or_writesList h
  · cases hgroup
  · exact hwrites.shows hgroup rfl

end Arguments

end MonitorQuery.Query
