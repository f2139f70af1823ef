import MonitorQuery.Proofs.Fiql.Tree
import MonitorQuery.Proofs.Text.Rest

/-!
Cutting a search expression into lexemes.

An attribute reaches as far as no reserved character stands; a value ends at the first `;` or `,`, at a `)` that
answers no `(` of the value, or with the text.

* `lexemes?`: the cutting, a lexeme at a time (`Lexeme.take?`).
* `charsOf_of_lexemes?`: what is cut is what the lexemes spell, so nothing is lost or made up.
* `Awaits`, `Continues`: the orders in which lexemes stand in a tree (`Expression.awaits_lexemes`). Behind a comparison
  comes a joint, a closing parenthesis or nothing, which is what ends a value (`Continues.stops`).
* `Awaits.lexemes?_charsOf`: **the cutting finds the lexemes again**, if the attributes are plain and the values
  balanced (`Comparison.Clean`). `valueLength_append` carries the balance through a value.
-/

namespace MonitorQuery.Request.Fiql

open MonitorQuery.Query

/-! ### Plain attributes and balanced values -/

/-- The characters of signs, joints and groups. -/
def reserved : List Char := ['=', '!', ';', ',', '(', ')']

/-- A text without reserved characters. -/
def IsPlain (cs : List Char) : Prop := ∀ c ∈ cs, c ∉ reserved

instance : DecidablePred IsPlain := fun cs => List.decidableBAll (· ∉ reserved) cs

/-- No beginning of the text has more `)` than `(`, and the text as a whole has as many. -/
def Balanced (cs : List Char) : Prop :=
  (∀ k ≤ cs.length, (cs.take k).count ')' ≤ (cs.take k).count '(') ∧ cs.count '(' = cs.count ')'

instance : DecidablePred Balanced := fun _ => inferInstanceAs (Decidable (_ ∧ _))

/-- A text without the signs that join terms. -/
def IsJoined (cs : List Char) : Prop := ∀ c ∈ cs, c ≠ ';' ∧ c ≠ ','

/-- The attribute is plain and not empty, and no joint stands in the value. -/
structure Comparison.Plain (c : Comparison) : Prop where
  attr_ne_nil : c.attr.toList ≠ []
  attr_plain : IsPlain c.attr.toList
  value_joined : IsJoined c.value.toList

/-- The value is balanced besides. -/
structure Comparison.Clean (c : Comparison) : Prop extends c.Plain where
  value_balanced : Balanced c.value.toList

/-- No value that the compiler writes has a joint in it. -/
lemma isJoined_valueText (properties : List Property) (r : Restriction) :
    IsJoined (valueText properties r).toList := by
  intro c hc
  have h := mem_valueText hc
  constructor
  · rintro rfl
    revert h
    decide
  · rintro rfl
    revert h
    decide

/-! ### Cutting a text into lexemes -/

/-- Takes a sign off the front of a text. -/
def Sign.take? : List Char → Option (Sign × List Char)
  | '=' :: '=' :: cs => some (equal, cs)
  | '!' :: '=' :: cs => some (unequal, cs)
  | '=' :: 'g' :: 't' :: '=' :: cs => some (greater, cs)
  | '=' :: 'l' :: 't' :: '=' :: cs => some (less, cs)
  | '=' :: 'g' :: 'e' :: '=' :: cs => some (atLeast, cs)
  | '=' :: 'l' :: 'e' :: '=' :: cs => some (atMost, cs)
  | _ => none

lemma Sign.take?_chars (s : Sign) (cs : List Char) : take? (s.chars ++ cs) = some (s, cs) := by
  cases s <;> rfl

lemma Sign.eq_of_take? {cs rest : List Char} {s : Sign} (h : take? cs = some (s, rest)) :
    cs = s.chars ++ rest := by
  unfold take? at h
  split at h <;> cases h <;> rfl

/-- How far the value at the front of a text reaches, when so many of its parentheses are open. -/
def valueLength : ℕ → List Char → ℕ
  | _, [] => 0
  | depth, c :: cs =>
    if c = ';' ∨ c = ',' then 0
    else if c = '(' then valueLength (depth + 1) cs + 1
    else if c = ')' then if depth = 0 then 0 else valueLength (depth - 1) cs + 1
    else valueLength depth cs + 1

/-- The character is not reserved. -/
def isPlainChar (c : Char) : Bool := !reserved.contains c

/-- Takes a comparison off the front of a text. -/
def Comparison.take? (cs : List Char) : Option (Comparison × List Char) :=
  if cs.takeWhile isPlainChar = [] then none
  else
    match Sign.take? (cs.dropWhile isPlainChar) with
    | none => none
    | some (sign, rest) =>
      let n := valueLength 0 rest
      some (⟨String.ofList (cs.takeWhile isPlainChar), sign, String.ofList (rest.take n)⟩, rest.drop n)

lemma Comparison.eq_of_take? {cs rest : List Char} {c : Comparison} (h : take? cs = some (c, rest)) :
    cs = c.chars ++ rest := by
  unfold take? at h
  split at h
  · cases h
  · split at h
    · cases h
    · next sign rest' hs =>
        cases h
        calc cs = cs.takeWhile isPlainChar ++ cs.dropWhile isPlainChar :=
              (List.takeWhile_append_dropWhile).symm
          _ = cs.takeWhile isPlainChar ++ (sign.chars ++ rest') := by rw [← Sign.eq_of_take? hs]
          _ = _ := by simp [chars]

/-- Takes a lexeme off the front of a text. -/
def Lexeme.take? : List Char → Option (Lexeme × List Char)
  | '(' :: cs => some (opening, cs)
  | ')' :: cs => some (closing, cs)
  | ';' :: cs => some (joint .and, cs)
  | ',' :: cs => some (joint .or, cs)
  | cs => (Comparison.take? cs).map fun (c, rest) => (comparison c, rest)

lemma Lexeme.eq_of_take? {cs rest : List Char} {l : Lexeme} (h : take? cs = some (l, rest)) :
    cs = l.chars ++ rest := by
  unfold take? at h
  split at h
  · cases h; rfl
  · cases h; rfl
  · cases h; rfl
  · cases h; rfl
  · obtain ⟨⟨c, rest'⟩, hc, h⟩ := Option.map_eq_some_iff.mp h
    cases h
    exact Comparison.eq_of_take? hc

lemma Sign.chars_ne_nil (s : Sign) : s.chars ≠ [] := by cases s <;> simp [chars]

lemma Lexeme.chars_ne_nil (l : Lexeme) : l.chars ≠ [] := by
  cases l with
  | comparison c => simp [chars, Comparison.chars, Sign.chars_ne_nil]
  | _ => simp [chars]

/-- What is left of a text behind a lexeme is shorter. -/
lemma Lexeme.length_of_take? {cs rest : List Char} {l : Lexeme} (h : take? cs = some (l, rest)) :
    rest.length < cs.length := by
  have hl := List.length_pos_iff.mpr l.chars_ne_nil
  rw [eq_of_take? h, List.length_append]
  omega

/-- The lexemes of a text. -/
def lexemes? (cs : List Char) : Option (List Lexeme) :=
  if cs = [] then some []
  else
    match _h : Lexeme.take? cs with
    | none => none
    | some (l, rest) => (lexemes? rest).map (l :: ·)
termination_by cs.length
decreasing_by exact Lexeme.length_of_take? _h

lemma lexemes?_nil : lexemes? [] = some [] := by rw [lexemes?]; rfl

lemma lexemes?_of_take? {cs rest : List Char} {l : Lexeme} (h : Lexeme.take? cs = some (l, rest)) :
    lexemes? cs = (lexemes? rest).map (l :: ·) := by
  have hne : cs ≠ [] := by
    rintro rfl
    exact absurd (Lexeme.length_of_take? h) (Nat.not_lt_zero _)
  rw [lexemes?, if_neg hne]
  split
  · next h' => exact absurd (h'.symm.trans h) (by simp)
  · next l' rest' h' =>
      cases h'.symm.trans h
      rfl

/-- A text that is cut is what its lexemes spell. -/
lemma charsOf_of_lexemes? {cs : List Char} {ls : List Lexeme} (h : lexemes? cs = some ls) :
    charsOf ls = cs := by
  induction hn : cs.length using Nat.strong_induction_on generalizing cs ls with
  | _ n ih =>
      subst hn
      rw [lexemes?] at h
      split at h
      · next hcs =>
          cases h
          exact hcs.symm
      · split at h
        · cases h
        · next l rest hl =>
            obtain ⟨ks, hks, rfl⟩ := Option.map_eq_some_iff.mp h
            rw [charsOf_cons, ih _ (Lexeme.length_of_take? hl) hks rfl, ← Lexeme.eq_of_take? hl]

/-! ### Cutting the text of lexemes -/

/-- The text is at its end or goes on with a joint or a closing parenthesis. -/
def Stops (cs : List Char) : Prop := ∀ c ∈ cs.head?, c = ';' ∨ c = ',' ∨ c = ')'

/-- A value that closes what is open ends where it ends. -/
lemma valueLength_append {v rest : List Char} (hv : IsJoined v) (hrest : Stops rest) :
    ∀ depth : ℕ, (∀ k ≤ v.length, (v.take k).count ')' ≤ depth + (v.take k).count '(') →
      v.count ')' = depth + v.count '(' → valueLength depth (v ++ rest) = v.length := by
  induction v with
  | nil =>
      intro depth _ htotal
      have hd : depth = 0 := by simpa using htotal.symm
      subst hd
      cases rest with
      | nil => rfl
      | cons c rest =>
          rcases hrest c rfl with rfl | rfl | rfl <;> simp [valueLength]
  | cons c v ih =>
      intro depth hprefix htotal
      have hc := hv c (by simp)
      have hv' : IsJoined v := fun d hd => hv d (by simp [hd])
      -- the beginnings of the rest are those of the whole without its first character
      have hnext : ∀ k ≤ v.length,
          (c :: v.take k).count ')' ≤ depth + (c :: v.take k).count '(' := fun k hk => by
        simpa using hprefix (k + 1) (by simpa using hk)
      rw [List.cons_append, valueLength, if_neg (by tauto), List.length_cons]
      by_cases ho : c = '('
      · subst ho
        rw [List.count_cons_of_ne (by decide), List.count_cons_self] at htotal
        rw [if_pos rfl, ih hv' (depth + 1)]
        · intro k hk
          have hk' := hnext k hk
          rw [List.count_cons_of_ne (by decide), List.count_cons_self] at hk'
          omega
        · omega
      · rw [if_neg ho]
        by_cases hcl : c = ')'
        · subst hcl
          rw [List.count_cons_self, List.count_cons_of_ne (by decide)] at htotal
          -- the first `)` closes something that has been open before the text
          have hdepth : 1 ≤ depth := by
            have h0 := hnext 0 (Nat.zero_le _)
            rwa [List.take_zero, List.count_singleton_self, List.count_cons_of_ne (by decide), List.count_nil,
              Nat.add_zero] at h0
          rw [if_pos rfl, if_neg (by omega), ih hv' (depth - 1)]
          · intro k hk
            have hk' := hnext k hk
            rw [List.count_cons_self, List.count_cons_of_ne (by decide)] at hk'
            omega
          · omega
        · rw [if_neg hcl, ih hv' depth]
          · intro k hk
            have := hnext k hk
            rwa [List.count_cons_of_ne hcl, List.count_cons_of_ne ho] at this
          · rwa [List.count_cons_of_ne hcl, List.count_cons_of_ne ho] at htotal

lemma isPlainChar_of_isPlain {cs : List Char} (h : IsPlain cs) : ∀ c ∈ cs, isPlainChar c = true := by
  intro c hc
  simpa [isPlainChar] using h c hc

/-- No sign begins with a plain character. -/
lemma Sign.not_isPlainChar_head (s : Sign) (rest : List Char) :
    ∀ c ∈ (s.chars ++ rest).head?, isPlainChar c = false := by
  cases s <;> simp [chars, isPlainChar, reserved]

lemma Comparison.take?_chars {c : Comparison} (hc : c.Clean) {rest : List Char} (hrest : Stops rest) :
    take? (c.chars ++ rest) = some (c, rest) := by
  have hlen : valueLength 0 (c.value.toList ++ rest) = c.value.toList.length :=
    valueLength_append hc.value_joined hrest 0 (by simpa using hc.value_balanced.1)
      (by simpa using hc.value_balanced.2.symm)
  have hattr := isPlainChar_of_isPlain hc.attr_plain
  have hsign := c.sign.not_isPlainChar_head (c.value.toList ++ rest)
  rw [chars, List.append_assoc, List.append_assoc, take?, Text.takeWhile_append_of_head hattr hsign,
    Text.dropWhile_append_of_head hattr hsign, if_neg hc.attr_ne_nil, Sign.take?_chars]
  simp [hlen]

/-- A comparison begins with a character that is not reserved. -/
lemma Comparison.Plain.chars_eq_cons {c : Comparison} (hc : c.Plain) :
    ∃ d ds, c.chars = d :: ds ∧ d ∉ reserved := by
  cases ha : c.attr.toList with
  | nil => exact absurd ha hc.attr_ne_nil
  | cons d ds =>
      exact ⟨d, ds ++ c.sign.chars ++ c.value.toList, by simp [chars, ha], hc.attr_plain d (by simp [ha])⟩

lemma Lexeme.take?_comparison {c : Comparison} (hc : c.Clean) {rest : List Char} (hrest : Stops rest) :
    take? (c.chars ++ rest) = some (comparison c, rest) := by
  obtain ⟨d, ds, hd, hres⟩ := hc.toPlain.chars_eq_cons
  have htake := Comparison.take?_chars hc hrest
  rw [hd, List.cons_append] at htake ⊢
  simp only [reserved, List.mem_cons, not_or] at hres
  rw [take?, htake]
  · rfl
  all_goals
    intro cs h
    cases h
    simp at hres

mutual

/-- Lexemes that go on with a term. -/
inductive Awaits : List Lexeme → Prop
  | opening {ls : List Lexeme} : Awaits ls → Awaits (.opening :: ls)
  | comparison (c : Comparison) {ls : List Lexeme} : Continues ls → Awaits (.comparison c :: ls)

/-- Lexemes that stand behind a term. -/
inductive Continues : List Lexeme → Prop
  | nil : Continues []
  | closing {ls : List Lexeme} : Continues ls → Continues (.closing :: ls)
  | joint (op : Operator) {ls : List Lexeme} : Awaits ls → Continues (.joint op :: ls)

end

lemma Continues.stops {ls : List Lexeme} (h : Continues ls) : Stops (charsOf ls) := by
  cases h with
  | nil => simp [Stops]
  | closing _ => simp [Stops, Lexeme.chars]
  | joint op _ => cases op <;> simp [Stops, Lexeme.chars, Operator.sign]

mutual

/-- The lexemes of a term stand where a term may stand. -/
lemma Term.awaits_lexemes : ∀ (t : Term) {ls : List Lexeme}, Continues ls → Awaits (t.lexemes ++ ls)
  | .comparison c, ls, h => .comparison c h
  | .group first links, ls, h => by
      have hinner := first.awaits_lexemes (continues_linkLexemes links (.closing h))
      simpa [Term.lexemes] using Awaits.opening hinner

/-- The lexemes of terms behind their operators stand where a term has been. -/
lemma continues_linkLexemes : ∀ (links : List (Operator × Term)) {ls : List Lexeme},
    Continues ls → Continues (linkLexemes links ++ ls)
  | [], ls, h => h
  | (op, t) :: links, ls, h => by
      have hinner := t.awaits_lexemes (continues_linkLexemes links h)
      simpa [linkLexemes] using Continues.joint op hinner

end

/-- The lexemes of a tree stand where a term may stand. -/
lemma Expression.awaits_lexemes (e : Expression) : Awaits e.lexemes := by
  have hlinks := continues_linkLexemes e.links .nil
  rw [List.append_nil] at hlinks
  exact e.first.awaits_lexemes hlinks

/-- Taking off one lexeme after the other. -/
lemma lexemes?_charsOf_cons {l : Lexeme} {ls : List Lexeme}
    (hl : Lexeme.take? (l.chars ++ charsOf ls) = some (l, charsOf ls)) (hls : lexemes? (charsOf ls) = some ls) :
    lexemes? (charsOf (l :: ls)) = some (l :: ls) := by
  rw [charsOf_cons, lexemes?_of_take? hl, hls]
  rfl

mutual

/-- **The lexemes of a text are found** where a term is to come. -/
lemma Awaits.lexemes?_charsOf : ∀ {ls : List Lexeme}, Awaits ls →
    (∀ c, .comparison c ∈ ls → c.Clean) → lexemes? (charsOf ls) = some ls
  | _, .opening h, hclean =>
      lexemes?_charsOf_cons rfl (h.lexemes?_charsOf fun c hc => hclean c (by simp [hc]))
  | _, .comparison c h, hclean =>
      lexemes?_charsOf_cons (Lexeme.take?_comparison (hclean c (by simp)) h.stops)
        (h.lexemes?_charsOf fun c hc => hclean c (by simp [hc]))

/-- The lexemes of a text are found behind a term. -/
lemma Continues.lexemes?_charsOf : ∀ {ls : List Lexeme}, Continues ls →
    (∀ c, .comparison c ∈ ls → c.Clean) → lexemes? (charsOf ls) = some ls
  | _, .nil, _ => lexemes?_nil
  | _, .closing h, hclean =>
      lexemes?_charsOf_cons rfl (h.lexemes?_charsOf fun c hc => hclean c (by simp [hc]))
  | _, .joint op h, hclean =>
      lexemes?_charsOf_cons (by cases op <;> rfl) (h.lexemes?_charsOf fun c hc => hclean c (by simp [hc]))

end

end MonitorQuery.Request.Fiql
