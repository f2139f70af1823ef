import Mathlib.Tactic
import MonitorQuery.Proofs.Text.Trimming
import MonitorQuery.Query.Token

/-!
The parts of an argument.

An argument without the blanks around it is a run of `(`, a word and a run of `)`. Every `(` of the run is a token of its own.
Of the `)` as many are as there are too many behind the `(`, and the others stay with the word.

* `openings`, `inner`, `word`: the `(` at the front, what stands behind them, and what is left of it without the `)` that go.
* `exists_front`: a text ends in a run of `)`, and `closers_append_replicate` says how many of them go. `takeOff_eq_word`: they
  may as well go one by one.
* `word_append_replicate`: nothing but `)` goes, and `closers_word`: **from what is left no other `)` would go.**
* `flatMap_toList_ofArgument`: **no character is lost** but the blanks around the argument.
-/

namespace MonitorQuery.Query.Token

/-- How many `(` stand at the front of an argument. -/
def openings (arg : String) : ℕ := ((Text.trimChars arg.toList).takeWhile (· == '(')).length

/-- The characters of an argument behind the `(` at its front. -/
def inner (arg : String) : List Char := (Text.trimChars arg.toList).dropWhile (· == '(')

/-- What is left of a text without the `)` that are taken off its end. -/
def word (cs : List Char) : List Char := cs.take (cs.length - closers cs)

/-- The token of a word, if there is one. -/
def ofWord (cs : List Char) : List String := if cs.isEmpty then [] else [String.ofList cs]

lemma ofRest_eq (cs : List Char) : ofRest cs = ofWord (word cs) ++ List.replicate (closers cs) closing := rfl

lemma ofArgument_eq (arg : String) :
    ofArgument arg = List.replicate (openings arg) opening ++ ofRest (inner arg) := rfl

@[simp] lemma ofWord_nil : ofWord [] = [] := rfl

lemma ofWord_of_ne_nil {cs : List Char} (h : cs ≠ []) : ofWord cs = [String.ofList cs] := by
  rw [ofWord, if_neg (by simpa using h)]

/-! ### The `(` at the front -/

/-- The parts of a trimmed argument are found again. -/
lemma openings_inner_of_trimChars {arg : String} {n : ℕ} {cs : List Char}
    (h : Text.trimChars arg.toList = List.replicate n '(' ++ cs) (hcs : cs.head? ≠ some '(') :
    openings arg = n ∧ inner arg = cs := by
  have hfront : ∀ c ∈ List.replicate n '(', (c == '(') = true := by simp
  have hrest : ∀ c ∈ cs.head?, (c == '(') = false := by
    rintro c hc
    rw [beq_eq_false_iff_ne]
    rintro rfl
    exact hcs hc
  constructor
  · rw [openings, h, Text.takeWhile_append_of_head hfront hrest, List.length_replicate]
  · rw [inner, h, Text.dropWhile_append_of_head hfront hrest]

/-- A trimmed argument is its `(` and what stands behind them. -/
lemma replicate_append_inner (arg : String) :
    List.replicate (openings arg) '(' ++ inner arg = Text.trimChars arg.toList := by
  have hfront : List.replicate (openings arg) '(' = (Text.trimChars arg.toList).takeWhile (· == '(') := by
    refine (List.eq_replicate_of_mem fun c hc => ?_).symm
    simpa using List.mem_takeWhile_imp hc
  rw [hfront, inner, List.takeWhile_append_dropWhile]

lemma head?_inner_ne (arg : String) : (inner arg).head? ≠ some '(' := by
  intro h
  have hhead := List.head?_dropWhile_not (· == '(') (Text.trimChars arg.toList)
  rw [← inner, h] at hhead
  cases hhead

/-! ### The `)` at the end -/

/-- Every text ends in a run of `)`, which may be empty. -/
lemma exists_front (cs : List Char) :
    ∃ front run, cs = front ++ List.replicate run ')' ∧ ∀ c ∈ front.getLast?, c ≠ ')' := by
  induction cs using List.reverseRecOn with
  | nil => exact ⟨[], 0, rfl, by simp⟩
  | append_singleton cs c ih =>
      by_cases hc : c = ')'
      · obtain ⟨front, run, rfl, hfront⟩ := ih
        refine ⟨front, run + 1, ?_, hfront⟩
        rw [hc, List.append_assoc, List.replicate_succ']
      · exact ⟨cs ++ [c], 0, by simp, by simpa using hc⟩

section

variable {front : List Char} {run : ℕ}

lemma count_opening_append_replicate : (front ++ List.replicate run ')').count '(' = front.count '(' := by
  rw [List.count_append, List.count_eq_zero.mpr fun h => absurd (List.eq_of_mem_replicate h) (by decide), Nat.add_zero]

lemma count_closing_append_replicate : (front ++ List.replicate run ')').count ')' = front.count ')' + run := by
  rw [List.count_append, List.count_replicate_self]

/-- As many `)` go as there are too many, but no more than stand in the run. -/
lemma closers_append_replicate (hfront : ∀ c ∈ front.getLast?, c ≠ ')') :
    closers (front ++ List.replicate run ')') = min (front.count ')' + run - front.count '(') run := by
  have hrun : ∀ c ∈ List.replicate run ')', (c == ')') = true := by simp
  have hend : ∀ c ∈ front.reverse.head?, (c == ')') = false := by simpa using hfront
  rw [closers, count_opening_append_replicate, count_closing_append_replicate, List.reverse_append, List.reverse_replicate,
    Text.takeWhile_append_of_head hrun hend, List.length_replicate]

/-- The others of the run stay. -/
lemma word_append_replicate_eq (hfront : ∀ c ∈ front.getLast?, c ≠ ')') :
    word (front ++ List.replicate run ')')
      = front ++ List.replicate (run - min (front.count ')' + run - front.count '(') run) ')' := by
  have hlength : (front ++ List.replicate run ')').length
      - min (front.count ')' + run - front.count '(') run
        = front.length + (run - min (front.count ')' + run - front.count '(') run) := by
    rw [List.length_append, List.length_replicate]
    omega
  rw [word, closers_append_replicate hfront, hlength, List.take_length_add_append, List.take_replicate,
    Nat.min_eq_left (Nat.sub_le _ _)]

/-- Takes `)` off the end of a text one by one, so many at most. -/
def takeOff : ℕ → List Char → List Char
  | 0, cs => cs
  | n + 1, cs => if cs.getLast? = some ')' then takeOff n cs.dropLast else cs

lemma takeOff_append_replicate (hfront : ∀ c ∈ front.getLast?, c ≠ ')') (n : ℕ) :
    takeOff n (front ++ List.replicate run ')') = front ++ List.replicate (run - min n run) ')' := by
  induction n generalizing run with
  | zero => rw [takeOff, Nat.zero_min, Nat.sub_zero]
  | succ n ih =>
      rw [takeOff]
      cases run with
      | zero =>
          have hend : front.getLast? ≠ some ')' := fun h => hfront _ h rfl
          rw [List.replicate_zero, List.append_nil, if_neg hend, Nat.zero_sub, List.replicate_zero, List.append_nil]
      | succ run =>
          rw [List.replicate_succ', ← List.append_assoc, List.getLast?_concat, if_pos rfl, List.dropLast_concat, ih,
            Nat.add_min_add_right, Nat.add_sub_add_right]

end

/-- **Taking `)` off one by one**, as many as there are too many or until there is none, leaves the word. -/
lemma takeOff_eq_word (cs : List Char) : takeOff (cs.count ')' - cs.count '(') cs = word cs := by
  obtain ⟨front, run, rfl, hfront⟩ := exists_front cs
  rw [takeOff_append_replicate hfront, word_append_replicate_eq hfront, count_opening_append_replicate,
    count_closing_append_replicate]

/-- A text that has as many `)` as `(` keeps them all, and `)` behind it go. -/
lemma closers_append_of_count_eq {cs : List Char} (h : cs.count ')' = cs.count '(') (n : ℕ) :
    closers (cs ++ List.replicate n ')') = n := by
  obtain ⟨front, run, rfl, hfront⟩ := exists_front cs
  rw [count_opening_append_replicate, count_closing_append_replicate] at h
  rw [List.append_assoc, List.replicate_append_replicate, closers_append_replicate hfront]
  omega

/-- What goes is a run of `)`. -/
lemma word_append_replicate (cs : List Char) : word cs ++ List.replicate (closers cs) ')' = cs := by
  obtain ⟨front, run, rfl, hfront⟩ := exists_front cs
  rw [word_append_replicate_eq hfront, closers_append_replicate hfront, List.append_assoc,
    List.replicate_append_replicate]
  congr 2
  omega

/-- **From what is left no other `)` would go.** -/
lemma closers_word (cs : List Char) : closers (word cs) = 0 := by
  obtain ⟨front, run, rfl, hfront⟩ := exists_front cs
  rw [word_append_replicate_eq hfront, closers_append_replicate hfront]
  omega

lemma word_of_closers_eq_zero {cs : List Char} (h : closers cs = 0) : word cs = cs := by
  have hword := word_append_replicate cs
  rwa [h, List.replicate_zero, List.append_nil] at hword

/-! ### The whole argument -/

/-- The characters of an argument's word. -/
lemma flatMap_toList_ofWord (cs : List Char) : (ofWord cs).flatMap String.toList = cs := by
  cases cs with
  | nil => rfl
  | cons c cs => rw [ofWord_of_ne_nil (List.cons_ne_nil c cs), List.flatMap_singleton, String.toList_ofList]

lemma toList_opening : opening.toList = ['('] := rfl

lemma toList_closing : closing.toList = [')'] := rfl

lemma flatMap_toList_replicate {token : String} {c : Char} (h : token.toList = [c]) (n : ℕ) :
    (List.replicate n token).flatMap String.toList = List.replicate n c := by
  rw [List.flatMap_replicate, h, List.flatten_replicate_singleton]

/-- **No character is lost** but the blanks around an argument. -/
lemma flatMap_toList_ofArgument (arg : String) :
    (ofArgument arg).flatMap String.toList = Text.trimChars arg.toList := by
  rw [ofArgument_eq, ofRest_eq, List.flatMap_append, List.flatMap_append, flatMap_toList_replicate toList_opening,
    flatMap_toList_ofWord, flatMap_toList_replicate toList_closing, word_append_replicate, replicate_append_inner]

end MonitorQuery.Query.Token
