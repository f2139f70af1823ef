import MonitorQuery.Proofs.Reading.Arguments
import MonitorQuery.Query.Reading

/-!
Parentheses glued to a word.

The parentheses around a restriction may be arguments of their own or be glued to the words next to them, and blanks may
stand around every argument. It makes no difference.

* `IsWord`: a word that shows where it begins and ends among parentheses, since it has as many `)` as `(`.
* `Joins`: an argument is made of tokens. Every token joins itself (`joins_singleton`).
* `ofArgument_of_joins`: **the tokens of such an argument are those that it is made of.**
* `clausesOf_of_joins`: whatever way tokens are joined to arguments, the same is read from the arguments.
-/

namespace MonitorQuery.Query.Token

open MonitorQuery.Text

/-- A word to which parentheses can be glued: not empty, without blanks around it and without a `(` at its front, and with as
many `(` as `)` in it. -/
structure IsWord (token : String) : Prop where
  ne_nil : token.toList ≠ []
  trimmed : IsTrimmed token.toList
  head : token.toList.head? ≠ some '('
  even : token.toList.count ')' = token.toList.count '('

instance : DecidablePred IsWord := fun token =>
  decidable_of_iff (token.toList ≠ [] ∧ IsTrimmed token.toList ∧ token.toList.head? ≠ some '('
      ∧ token.toList.count ')' = token.toList.count '(')
    ⟨fun ⟨h₁, h₂, h₃, h₄⟩ => ⟨h₁, h₂, h₃, h₄⟩, fun h => ⟨h.ne_nil, h.trimmed, h.head, h.even⟩⟩

/-- A parenthesis, or a word to which parentheses can be glued. -/
def IsPiece (token : String) : Prop := token = opening ∨ token = closing ∨ IsWord token

instance : DecidablePred IsPiece := fun _ => inferInstanceAs (Decidable (_ ∨ _ ∨ _))

/-- The argument is made of the tokens: of `(`, one further token or none, and `)`, with blanks around them all. -/
structure Joins (ts : List String) (arg : String) : Prop where
  shape : ∃ (n : ℕ) (token : Option String) (m : ℕ),
    ts = List.replicate n opening ++ token.toList ++ List.replicate m closing
  text : ∃ before behind, (before ++ behind).all isBlank = true ∧ arg.toList = before ++ ts.flatMap String.toList ++ behind

/-- Every token joins itself. -/
lemma joins_singleton (token : String) : Joins [token] token :=
  ⟨⟨0, some token, 0, by simp⟩, ⟨[], [], by simp, by simp⟩⟩

section Parts

variable {n m : ℕ} {cs : List Char}

/-- Parentheses around a trimmed text leave it trimmed. -/
lemma isTrimmed_glued (hcs : IsTrimmed cs) : IsTrimmed (List.replicate n '(' ++ (cs ++ List.replicate m ')')) :=
  (isTrimmed_replicate rfl n).append (hcs.append (isTrimmed_replicate rfl m))

/-- The rest of an argument begins as its word does, or with a `)`. -/
lemma head?_glued_ne (hhead : cs.head? ≠ some '(') : (cs ++ List.replicate m ')').head? ≠ some '(' := by
  rw [List.head?_append, Ne, Option.or_eq_some_iff]
  rintro (h | ⟨-, h⟩)
  · exact hhead h
  · exact absurd (List.eq_of_mem_replicate (List.mem_of_mem_head? h)) (by decide)

/-- The `)` that are glued to a word are taken off again, and no others. -/
lemma ofRest_glued (heven : cs.count ')' = cs.count '(') :
    ofRest (cs ++ List.replicate m ')') = ofWord cs ++ List.replicate m closing := by
  have hclosers := closers_append_of_count_eq heven m
  have hword := word_append_replicate (cs ++ List.replicate m ')')
  rw [hclosers] at hword
  rw [ofRest_eq, hclosers, List.append_cancel_right hword]

/-- **The parts of an argument are found again**: parentheses, a word or none, and blanks around them. -/
lemma ofArgument_of_parts {arg : String} {before behind : List Char} (hblank : (before ++ behind).all isBlank = true)
    (htrimmed : IsTrimmed cs) (hhead : cs.head? ≠ some '(') (heven : cs.count ')' = cs.count '(')
    (harg : arg.toList = before ++ (List.replicate n '(' ++ (cs ++ List.replicate m ')')) ++ behind) :
    ofArgument arg = List.replicate n opening ++ (ofWord cs ++ List.replicate m closing) := by
  have htrim : trimChars arg.toList = List.replicate n '(' ++ (cs ++ List.replicate m ')') := by
    rw [List.all_append, Bool.and_eq_true, List.all_eq_true, List.all_eq_true] at hblank
    rw [harg]
    exact (isTrimmed_glued htrimmed).trimChars_append hblank.1 hblank.2
  obtain ⟨hopenings, hinner⟩ := openings_inner_of_trimChars htrim (head?_glued_ne hhead)
  rw [ofArgument_eq, hopenings, hinner, ofRest_glued heven]

end Parts

/-- A parenthesis in the place of the word counts among its like. -/
lemma exists_parts {ts : List String} {arg : String} (hts : ∀ t ∈ ts, IsPiece t) (h : Joins ts arg) :
    ∃ n cs m, ts = List.replicate n opening ++ (ofWord cs ++ List.replicate m closing)
      ∧ IsTrimmed cs ∧ cs.head? ≠ some '(' ∧ cs.count ')' = cs.count '(' := by
  have hnil : IsTrimmed [] := isTrimmed_of_forall (by simp)
  obtain ⟨n, token, m, rfl⟩ := h.shape
  cases token with
  | none => exact ⟨n, [], m, by simp, hnil, by simp, rfl⟩
  | some token =>
      rcases hts token (by simp) with rfl | rfl | hword
      · exact ⟨n + 1, [], m, by simp [List.replicate_succ'], hnil, by simp, rfl⟩
      · exact ⟨n, [], m + 1, by simp [List.replicate_succ], hnil, by simp, rfl⟩
      · refine ⟨n, token.toList, m, ?_, hword.trimmed, hword.head, hword.even⟩
        rw [ofWord_of_ne_nil hword.ne_nil, String.ofList_toList, Option.toList_some, List.append_assoc]

/-- **The tokens of an argument are those that it is made of.** -/
lemma ofArgument_of_joins {ts : List String} {arg : String} (hts : ∀ t ∈ ts, IsPiece t) (h : Joins ts arg) :
    ofArgument arg = ts := by
  obtain ⟨before, behind, hblank, htext⟩ := h.text
  obtain ⟨n, cs, m, rfl, htrimmed, hhead, heven⟩ := exists_parts hts h
  rw [List.flatMap_append, List.flatMap_append, flatMap_toList_replicate toList_opening, flatMap_toList_ofWord,
    flatMap_toList_replicate toList_closing] at htext
  exact ofArgument_of_parts hblank htrimmed hhead heven htext

/-- The tokens of arguments, by induction on the arguments. -/
lemma ofArguments_of_joins {groups : List (List String)} {args : List String}
    (hts : ∀ t ∈ groups.flatten, IsPiece t) (h : List.Forall₂ Joins groups args) :
    ofArguments args = groups.flatten := by
  induction h with
  | nil => rfl
  | @cons ts arg groups args hjoins _ ih =>
      rw [List.flatten_cons] at hts
      have hfirst := ofArgument_of_joins (fun t ht => hts t (List.mem_append_left _ ht)) hjoins
      have hothers := ih fun t ht => hts t (List.mem_append_right _ ht)
      rw [ofArguments, List.flatMap_cons, hfirst, List.flatten_cons]
      exact congrArg (ts ++ ·) hothers

/-- Separate tokens are the tokens of themselves. -/
lemma ofArguments_eq_self {ts : List String} (hts : ∀ t ∈ ts, IsPiece t) : ofArguments ts = ts := by
  have hflatten : (ts.map fun t => [t]).flatten = ts := by rw [← List.flatMap_def, List.flatMap_singleton']
  have hjoins : List.Forall₂ Joins (ts.map fun t => [t]) ts := by
    rw [List.forall₂_map_left_iff, List.forall₂_same]
    exact fun t _ => joins_singleton t
  have htokens := ofArguments_of_joins (by rwa [hflatten]) hjoins
  rwa [hflatten] at htokens

/-- **Glued parentheses make no difference.** However tokens are joined to arguments, the arguments have these tokens, and what is
read from them is the same: the clauses, or the fault and its position. -/
theorem clausesOf_of_joins {ts : List String} (hts : ∀ t ∈ ts, IsPiece t) {groups : List (List String)}
    (hgroups : groups.flatten = ts) {args : List String} (h : List.Forall₂ Joins groups args) :
    ofArguments args = ts ∧ clausesOf args = clausesOf ts := by
  subst hgroups
  have htokens := ofArguments_of_joins hts h
  refine ⟨htokens, ?_⟩
  rw [clausesOf, clausesOf, htokens, ofArguments_eq_self hts]

/-- Parentheses on both sides of words, one of which has its own, and blanks around arguments, one of which is nothing else. -/
theorem clausesOf_of_joins_nested :
    clausesOf ["\t((a", "eq", "f(x)(y)) ", " ", "or", "b", "null)"]
      = clausesOf ["(", "(", "a", "eq", "f(x)(y)", ")", "or", "b", "null", ")"] := by
  have hjoins : List.Forall₂ Joins
      [["(", "(", "a"], ["eq"], ["f(x)(y)", ")"], [], ["or"], ["b"], ["null", ")"]]
      ["\t((a", "eq", "f(x)(y)) ", " ", "or", "b", "null)"] :=
    .cons ⟨⟨2, some "a", 0, rfl⟩, ⟨['\t'], [], by decide, by decide⟩⟩ <|
    .cons (joins_singleton _) <|
    .cons ⟨⟨0, some "f(x)(y)", 1, rfl⟩, ⟨[], [' '], by decide, by decide⟩⟩ <|
    .cons ⟨⟨0, none, 0, rfl⟩, ⟨[' '], [], by decide, by decide⟩⟩ <|
    .cons (joins_singleton _) <|
    .cons (joins_singleton _) <|
    .cons ⟨⟨0, some "null", 1, rfl⟩, ⟨[], [], by decide, by decide⟩⟩ .nil
  exact (clausesOf_of_joins (by decide) rfl hjoins).2

end MonitorQuery.Query.Token
