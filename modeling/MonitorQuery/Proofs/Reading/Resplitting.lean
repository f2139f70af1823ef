import MonitorQuery.Proofs.Reading.Arguments

/-!
Tokens taken as arguments.

Where nothing more can be taken off the tokens of arguments they are, taken as arguments, tokens of themselves. An argument is
trimmed before its parentheses are taken off, and not again. So blanks between them and its word stay with the word, and go,
with the parentheses they may hide, when the word is an argument.

* `IsSettled`: a token from which nothing more can be taken. It is the token of itself (`ofArgument_of_isSettled`).
* `isStripped_of_mem_ofArguments`: **no parenthesis is left to take off a word as it stands.**
* `HasGap`: a blank between the word of an argument and its parentheses. `forall_isSettled_iff`: the tokens are settled but for
  such blanks.
* `isTrimmed_of_ofArguments_eq_self`: what is a list of tokens of itself has no blanks around its tokens: it would lose them.
* `isComplete_iff`: **the splitting is complete where no argument has a gap.** `not_isComplete`: it is not so of `( a`.
-/

namespace MonitorQuery.Query.Token

open MonitorQuery.Text

/-! ### Settled tokens -/

/-- A text, not empty, off which no `(` and no `)` is taken. -/
structure IsStripped (token : String) : Prop where
  ne_nil : token.toList ≠ []
  head : token.toList.head? ≠ some '('
  closers : closers token.toList = 0

/-- A parenthesis, or a text without blanks around it off which no parenthesis is taken. -/
def IsSettled (token : String) : Prop := token = opening ∨ token = closing ∨ IsTrimmed token.toList ∧ IsStripped token

/-- A settled token is the token of itself. -/
lemma ofArgument_of_isSettled {token : String} (h : IsSettled token) : ofArgument token = [token] := by
  rcases h with rfl | rfl | ⟨htrimmed, hstripped⟩
  · decide
  · decide
  · have htrim : trimChars token.toList = List.replicate 0 '(' ++ token.toList := trimChars_eq_self_iff.mpr htrimmed
    obtain ⟨hopenings, hinner⟩ := openings_inner_of_trimChars htrim hstripped.head
    rw [ofArgument_eq, hopenings, hinner, ofRest_eq, hstripped.closers, word_of_closers_eq_zero hstripped.closers,
      ofWord_of_ne_nil hstripped.ne_nil, String.ofList_toList]
    rfl

/-- The word of an argument begins as the characters behind the `(` do. -/
lemma mem_head?_inner_of_word {arg : String} {c : Char} (h : c ∈ (word (inner arg)).head?) : c ∈ (inner arg).head? := by
  rw [← word_append_replicate (inner arg), List.head?_append, Option.mem_def.mp h]
  rfl

/-- The word of an argument is among its tokens. -/
lemma ofList_word_mem_ofArgument {arg : String} (h : word (inner arg) ≠ []) :
    String.ofList (word (inner arg)) ∈ ofArgument arg := by
  rw [ofArgument_eq, ofRest_eq, ofWord_of_ne_nil h]
  exact List.mem_append_right _ (List.mem_append_left _ (List.mem_singleton_self _))

/-- All others are parentheses. -/
lemma eq_of_mem_ofArgument {arg token : String} (h : token ∈ ofArgument arg) :
    token = opening ∨ token = closing ∨ token = String.ofList (word (inner arg)) ∧ word (inner arg) ≠ [] := by
  rw [ofArgument_eq, ofRest_eq, List.mem_append, List.mem_append] at h
  rcases h with h | h | h
  · exact Or.inl (List.eq_of_mem_replicate h)
  · by_cases hnil : word (inner arg) = []
    · rw [hnil, ofWord_nil] at h
      cases h
    · rw [ofWord_of_ne_nil hnil, List.mem_singleton] at h
      exact Or.inr (Or.inr ⟨h, hnil⟩)
  · exact Or.inr (Or.inl (List.eq_of_mem_replicate h))

/-- **No parenthesis is left to take off a word.** -/
lemma isStripped_of_word {arg : String} (h : word (inner arg) ≠ []) : IsStripped (String.ofList (word (inner arg))) := by
  constructor
  · rwa [String.toList_ofList]
  · intro hc
    rw [String.toList_ofList] at hc
    exact head?_inner_ne arg (mem_head?_inner_of_word hc)
  · rw [String.toList_ofList]
    exact closers_word (inner arg)

/-- Every token is a parenthesis, or a text off which no parenthesis is taken as it stands. -/
lemma isStripped_of_mem_ofArguments {args : List String} {token : String} (h : token ∈ ofArguments args) :
    token = opening ∨ token = closing ∨ IsStripped token := by
  obtain ⟨arg, -, hmem⟩ := List.mem_flatMap.mp h
  rcases eq_of_mem_ofArgument hmem with hopening | hclosing | ⟨rfl, hne⟩
  · exact Or.inl hopening
  · exact Or.inr (Or.inl hclosing)
  · exact Or.inr (Or.inr (isStripped_of_word hne))

lemma isTrimmed_of_isSettled {token : String} (h : IsSettled token) : IsTrimmed token.toList := by
  rcases h with rfl | rfl | ⟨htrimmed, -⟩
  · decide
  · decide
  · exact htrimmed

/-- Tokens are settled if there are no blanks around them. -/
lemma isSettled_of_isTrimmed {args : List String} {token : String} (h : token ∈ ofArguments args)
    (htrimmed : IsTrimmed token.toList) : IsSettled token := by
  rcases isStripped_of_mem_ofArguments h with hopening | hclosing | hstripped
  · exact Or.inl hopening
  · exact Or.inr (Or.inl hclosing)
  · exact Or.inr (Or.inr ⟨htrimmed, hstripped⟩)

/-! ### Gaps -/

/-- A blank stands right behind the `(` at the front of an argument, or right before the `)` that are taken off its end. -/
def HasGap (arg : String) : Prop :=
  (∃ c ∈ (inner arg).head?, isBlank c = true) ∨ ∃ c ∈ (word (inner arg)).getLast?, isBlank c = true

/-- An argument has no gap if its word is trimmed. -/
lemma not_hasGap_iff {arg : String} : ¬ HasGap arg ↔ IsTrimmed (word (inner arg)) := by
  have hhead : (∀ c ∈ (inner arg).head?, isBlank c = false) ↔ ∀ c ∈ (word (inner arg)).head?, isBlank c = false := by
    constructor
    · intro h c hc
      exact h c (mem_head?_inner_of_word hc)
    · intro h c hc
      rw [← word_append_replicate (inner arg), List.head?_append, Option.mem_def, Option.or_eq_some_iff] at hc
      rcases hc with hc | ⟨-, hc⟩
      · exact h c hc
      · rw [List.eq_of_mem_replicate (List.mem_of_mem_head? hc)]
        decide
  constructor
  · intro h
    simp only [HasGap, not_or, not_exists, not_and, Bool.not_eq_true] at h
    exact ⟨hhead.mp h.1, h.2⟩
  · intro h
    simp only [HasGap, not_or, not_exists, not_and, Bool.not_eq_true]
    exact ⟨hhead.mpr h.head, h.last⟩

/-- The tokens of arguments are settled but for gaps. -/
lemma forall_isSettled_iff {args : List String} :
    (∀ t ∈ ofArguments args, IsSettled t) ↔ ∀ arg ∈ args, ¬ HasGap arg := by
  constructor
  · intro h arg harg
    rw [not_hasGap_iff]
    by_cases hnil : word (inner arg) = []
    · rw [hnil]
      exact isTrimmed_of_forall (by simp)
    · have hmem := ofList_word_mem_ofArgument hnil
      have htrimmed := isTrimmed_of_isSettled (h _ (List.mem_flatMap.mpr ⟨arg, harg, hmem⟩))
      rwa [String.toList_ofList] at htrimmed
  · intro h t ht
    obtain ⟨arg, harg, hmem⟩ := List.mem_flatMap.mp ht
    rcases eq_of_mem_ofArgument hmem with hopening | hclosing | ⟨rfl, hne⟩
    · exact Or.inl hopening
    · exact Or.inr (Or.inl hclosing)
    · refine Or.inr (Or.inr ⟨?_, isStripped_of_word hne⟩)
      rw [String.toList_ofList]
      exact not_hasGap_iff.mp (h arg harg)

/-! ### Splitting again -/

/-- The characters of the tokens of arguments. -/
lemma flatMap_toList_ofArguments (args : List String) :
    (ofArguments args).flatMap String.toList = args.flatMap fun arg => trimChars arg.toList := by
  rw [ofArguments, List.flatMap_assoc]
  exact List.flatMap_congr fun arg _ => flatMap_toList_ofArgument arg

/-- Texts have fewer characters when they are trimmed, unless all are trimmed already. -/
lemma isTrimmed_of_length_flatMap_le {ts : List String}
    (h : (ts.flatMap String.toList).length ≤ (ts.flatMap fun t => trimChars t.toList).length) :
    ∀ t ∈ ts, IsTrimmed t.toList := by
  have hle : ∀ ts : List String,
      (ts.flatMap fun t => trimChars t.toList).length ≤ (ts.flatMap String.toList).length := by
    intro ts
    induction ts with
    | nil => exact le_rfl
    | cons t ts ih =>
        rw [List.flatMap_cons, List.flatMap_cons, List.length_append, List.length_append]
        exact Nat.add_le_add (length_trimChars_le t.toList) ih
  induction ts with
  | nil => simp
  | cons t ts ih =>
      rw [List.flatMap_cons, List.flatMap_cons, List.length_append, List.length_append] at h
      have hfirst := length_trimChars_le t.toList
      have hothers := hle ts
      intro u hu
      rcases List.mem_cons.mp hu with rfl | hu
      · exact isTrimmed_of_length_le (by omega)
      · exact ih (by omega) u hu

/-- **What is a list of tokens of itself has no blanks around its tokens.** -/
lemma isTrimmed_of_ofArguments_eq_self {ts : List String} (h : ofArguments ts = ts) : ∀ t ∈ ts, IsTrimmed t.toList := by
  refine isTrimmed_of_length_flatMap_le (le_of_eq ?_)
  rw [← flatMap_toList_ofArguments, h]

/-- Settled tokens are a list of tokens of itself. -/
lemma ofArguments_eq_self_of_isSettled {ts : List String} (h : ∀ t ∈ ts, IsSettled t) : ofArguments ts = ts := by
  rw [ofArguments, List.flatMap_congr fun t ht => ofArgument_of_isSettled (h t ht), List.flatMap_singleton']

/-- **Splitting is complete**: the tokens are tokens of themselves, and from none of them can anything more be taken. -/
structure IsComplete (args : List String) : Prop where
  again : ofArguments (ofArguments args) = ofArguments args
  settled : ∀ t ∈ ofArguments args, IsSettled t

/-- **When splitting is complete**: if in no argument a blank stands between the word and the parentheses that are taken off.
Neither half of it holds without the other. In any case only blanks are in the way: no parenthesis is left to take off a word as
it stands. -/
theorem isComplete_iff (args : List String) :
    (IsComplete args ↔ ∀ arg ∈ args, ¬ HasGap arg)
      ∧ (ofArguments (ofArguments args) = ofArguments args ↔ ∀ t ∈ ofArguments args, IsSettled t)
      ∧ ∀ t ∈ ofArguments args, t = opening ∨ t = closing ∨ IsStripped t := by
  have hagain : ofArguments (ofArguments args) = ofArguments args ↔ ∀ t ∈ ofArguments args, IsSettled t := by
    constructor
    · intro h t ht
      exact isSettled_of_isTrimmed ht (isTrimmed_of_ofArguments_eq_self h t ht)
    · exact ofArguments_eq_self_of_isSettled
  refine ⟨?_, hagain, fun t => isStripped_of_mem_ofArguments⟩
  rw [← forall_isSettled_iff]
  exact ⟨IsComplete.settled, fun h => ⟨hagain.mpr h, h⟩⟩

/-- **Splitting is not always complete**: the blank behind a `(` stays with the word. -/
theorem not_isComplete : ¬ ∀ args, IsComplete args := by
  intro h
  have hagain := (h ["( a"]).again
  exact absurd hagain (by decide)

end MonitorQuery.Query.Token
