import MonitorQuery.Proofs.Reading.Arguments

/-!
Which parentheses are taken off the end of an argument.

A `)` at the end of an argument closes a group of the filter, unless it closes a `(` of the argument itself. Which `(` it
closes is found by reading from the left: of those that are open, the nearest. What is taken off is found by counting. The two
agree but where a `)` without a `(` stands further in front: it counts among those that are too many, and a `)` with a `(` goes
in its place.

* `openPlaces`, `Closes`: the `(` that are open at the end of a text, and which of them a `)` closes.
* `count_opening_le_and_eq_iff`: the parentheses of a text counted by those that are open, by induction on the text.
* `unclosed_iff`: the `)` of the last run that close nothing are the last of it.
* `closers_eq_iff`: **when counting finds those**, and `sub_length_openPlaces_le_closers`: it never finds fewer.
* `splitsUnclosed_iff`: the same said of the tokens of an argument; `not_splitsUnclosed`: it is not so of `x)(y)`.
-/

namespace MonitorQuery.Query.Token

/-! ### Open parentheses -/

/-- The places of the open `(` behind a further character, which stands at a place. A `)` closes the nearest. -/
def openStep (places : List ℕ) (c : Char) (place : ℕ) : List ℕ :=
  if c = '(' then place :: places else if c = ')' then places.tail else places

/-- The places of the `(` that are open at the end of a text, the nearest first. -/
def openPlaces (cs : List Char) : List ℕ :=
  cs.zipIdx.foldl (fun places (c, place) => openStep places c place) []

/-- The `)` at place `j` of a text closes the `(` at place `i`. -/
def Closes (cs : List Char) (i j : ℕ) : Prop := cs[j]? = some ')' ∧ (openPlaces (cs.take j)).head? = some i

/-- The place stands in the run of `)` at the end of a text. -/
def InLastRun (cs : List Char) (j : ℕ) : Prop := j < cs.length ∧ ∀ c ∈ cs.drop j, c = ')'

lemma openPlaces_append_singleton (cs : List Char) (c : Char) :
    openPlaces (cs ++ [c]) = openStep (openPlaces cs) c cs.length := by
  simp [openPlaces, List.zipIdx_append]

/-- A run of `)` closes the nearest of the open `(`, as many as it has. -/
lemma openPlaces_append_replicate (cs : List Char) (n : ℕ) :
    openPlaces (cs ++ List.replicate n ')') = (openPlaces cs).drop n := by
  induction n with
  | zero => rw [List.replicate_zero, List.append_nil, List.drop_zero]
  | succ n ih =>
      rw [List.replicate_succ', ← List.append_assoc, openPlaces_append_singleton, ih, openStep, if_neg (by decide),
        if_pos rfl, List.tail_drop]

/-- There is a `(` at every open place. -/
lemma getElem?_of_mem_openPlaces {cs : List Char} : ∀ i ∈ openPlaces cs, cs[i]? = some '(' := by
  induction cs using List.reverseRecOn with
  | nil => exact fun i hi => absurd hi (by simp [openPlaces])
  | append_singleton cs c ih =>
      have hstill : ∀ i ∈ openPlaces cs, (cs ++ [c])[i]? = some '(' := by
        intro i hi
        rw [List.getElem?_append_left (List.getElem?_eq_some_iff.mp (ih i hi)).1, ih i hi]
      intro i hi
      rw [openPlaces_append_singleton, openStep] at hi
      split_ifs at hi with hopening hclosing
      · rcases List.mem_cons.mp hi with rfl | hi
        · rw [List.getElem?_concat_length, hopening]
        · exact hstill i hi
      · exact hstill i (List.mem_of_mem_tail hi)
      · exact hstill i hi

/-- A `)` closes a `(` that stands before it. -/
lemma Closes.opening {cs : List Char} {i j : ℕ} (h : Closes cs i j) : cs[i]? = some '(' := by
  have hi := getElem?_of_mem_openPlaces i (List.mem_of_mem_head? h.2)
  have hlt := (List.getElem?_eq_some_iff.mp hi).1
  rw [List.length_take] at hlt
  rwa [List.getElem?_take_of_lt (by omega)] at hi

/-- A `)` closes a `(` if one is open. -/
lemma exists_closes_iff {cs : List Char} {j : ℕ} (h : cs[j]? = some ')') :
    (∃ i, Closes cs i j) ↔ openPlaces (cs.take j) ≠ [] := by
  rw [← List.isSome_head?, Option.isSome_iff_exists]
  exact exists_congr fun i => and_iff_right h

/-- What a `)` closes does not depend on what stands behind it. -/
lemma closes_append_iff {cs ds : List Char} {i j : ℕ} (h : j < cs.length) : Closes (cs ++ ds) i j ↔ Closes cs i j := by
  rw [Closes, Closes, List.getElem?_append_left h, List.take_append_of_le_length h.le]

/-! ### Counting parentheses -/

/-- Every `)` of the text closes a `(`. -/
def AllClosed (cs : List Char) : Prop := ∀ j, cs[j]? = some ')' → ∃ i, Closes cs i j

lemma allClosed_append_singleton {cs : List Char} {c : Char} :
    AllClosed (cs ++ [c]) ↔ AllClosed cs ∧ (c = ')' → openPlaces cs ≠ []) := by
  have hlast : (cs ++ [c])[cs.length]? = some c := List.getElem?_concat_length
  constructor
  · intro h
    refine ⟨fun j hj => ?_, ?_⟩
    · have hlt := (List.getElem?_eq_some_iff.mp hj).1
      obtain ⟨i, hi⟩ := h j (by rw [List.getElem?_append_left hlt, hj])
      exact ⟨i, (closes_append_iff hlt).mp hi⟩
    · rintro rfl
      have hopen := (exists_closes_iff hlast).mp (h _ hlast)
      rwa [List.take_left] at hopen
  · rintro ⟨hcs, hc⟩ j hj
    have hle := (List.getElem?_eq_some_iff.mp hj).1
    rw [List.length_append, List.length_singleton] at hle
    rcases Nat.lt_succ_iff_lt_or_eq.mp hle with hlt | rfl
    · rw [List.getElem?_append_left hlt] at hj
      obtain ⟨i, hi⟩ := hcs j hj
      exact ⟨i, (closes_append_iff hlt).mpr hi⟩
    · rw [hlast, Option.some.injEq] at hj
      rw [exists_closes_iff (hj ▸ hlast), List.take_left]
      exact hc hj

/-- Every `(` is open at the end or has been closed; and if every `)` closes one, there are no other `)`. -/
lemma count_opening_le_and_eq_iff (cs : List Char) :
    cs.count '(' ≤ cs.count ')' + (openPlaces cs).length
      ∧ (cs.count '(' = cs.count ')' + (openPlaces cs).length ↔ AllClosed cs) := by
  induction cs using List.reverseRecOn with
  | nil => exact ⟨le_rfl, by simp [AllClosed, openPlaces]⟩
  | append_singleton cs c ih =>
      obtain ⟨hle, heq⟩ := ih
      rw [allClosed_append_singleton, ← heq, openPlaces_append_singleton, List.count_append, List.count_append]
      by_cases hopening : c = '('
      · subst hopening
        have hcount : ['('].count '(' = 1 ∧ ['('].count ')' = 0 := ⟨rfl, rfl⟩
        have hplaces : (openStep (openPlaces cs) '(' cs.length).length = (openPlaces cs).length + 1 := rfl
        have hother : '(' = ')' → openPlaces cs ≠ [] := fun h => absurd h (by decide)
        rw [hcount.1, hcount.2, hplaces, and_iff_left hother]
        omega
      · by_cases hclosing : c = ')'
        · subst hclosing
          have hcount : [')'].count '(' = 0 ∧ [')'].count ')' = 1 := ⟨rfl, rfl⟩
          have hplaces : (openStep (openPlaces cs) ')' cs.length).length = (openPlaces cs).length - 1 := List.length_tail
          rw [hcount.1, hcount.2, hplaces, forall_prop_of_true rfl, Ne, ← List.length_eq_zero_iff]
          omega
        · have hcount : [c].count '(' = 0 ∧ [c].count ')' = 0 :=
            ⟨List.count_eq_zero.mpr (by simpa using Ne.symm hopening), List.count_eq_zero.mpr (by simpa using Ne.symm hclosing)⟩
          have hplaces : openStep (openPlaces cs) c cs.length = openPlaces cs := by
            rw [openStep, if_neg hopening, if_neg hclosing]
          rw [hcount.1, hcount.2, hplaces, and_iff_left fun h => absurd h hclosing]
          exact ⟨hle, Iff.rfl⟩

/-! ### The run of `)` at the end -/

section

variable {front : List Char} {run j : ℕ}

lemma inLastRun_iff (hfront : ∀ c ∈ front.getLast?, c ≠ ')') :
    InLastRun (front ++ List.replicate run ')') j ↔ front.length ≤ j ∧ j < front.length + run := by
  rw [InLastRun, List.length_append, List.length_replicate]
  constructor
  · rintro ⟨hlt, hall⟩
    refine ⟨?_, hlt⟩
    by_contra hj
    have hdrop : front.drop j ≠ [] := by simpa using hj
    have hlast : (front.drop j).getLast hdrop ∈ front.getLast? := by
      rw [List.getLast_drop, Option.mem_def, List.getLast?_eq_some_getLast]
    refine hfront _ hlast (hall _ ?_)
    rw [List.drop_append_of_le_length (by omega)]
    exact List.mem_append_left _ (List.getLast_mem hdrop)
  · rintro ⟨hle, hlt⟩
    refine ⟨hlt, fun c hc => ?_⟩
    rw [List.drop_append, List.drop_eq_nil_of_le hle, List.nil_append, List.drop_replicate] at hc
    exact List.eq_of_mem_replicate hc

/-- The first `)` of the run close what is open before it. -/
lemma exists_closes_run_iff (hle : front.length ≤ j) (hlt : j < front.length + run) :
    (∃ i, Closes (front ++ List.replicate run ')') i j) ↔ j < front.length + (openPlaces front).length := by
  have hj : (front ++ List.replicate run ')')[j]? = some ')' := by
    rw [List.getElem?_append_right hle, List.getElem?_replicate, if_pos (by omega)]
  have htake : (front ++ List.replicate run ')').take j = front ++ List.replicate (j - front.length) ')' := by
    rw [List.take_append, List.take_of_length_le hle, List.take_replicate, Nat.min_eq_left (by omega)]
  rw [exists_closes_iff hj, htake, openPlaces_append_replicate, Ne, List.drop_eq_nil_iff]
  omega

/-- **The `)` of the last run that close nothing are the last of it**, behind as many as are open before it. -/
lemma unclosed_iff (hfront : ∀ c ∈ front.getLast?, c ≠ ')') (hlt : j < front.length + run) :
    (InLastRun (front ++ List.replicate run ')') j ∧ ∀ i, ¬ Closes (front ++ List.replicate run ')') i j)
      ↔ front.length + run - (run - (openPlaces front).length) ≤ j := by
  rw [inLastRun_iff hfront, ← not_exists]
  by_cases hle : front.length ≤ j
  · rw [exists_closes_run_iff hle hlt]
    omega
  · omega

/-- Every `)` before the run closes a `(`. -/
lemma allClosed_front_iff (hfront : ∀ c ∈ front.getLast?, c ≠ ')') :
    (∀ j, (front ++ List.replicate run ')')[j]? = some ')' → ¬ InLastRun (front ++ List.replicate run ')') j →
        ∃ i, Closes (front ++ List.replicate run ')') i j)
      ↔ AllClosed front := by
  constructor
  · intro h j hj
    have hlt := (List.getElem?_eq_some_iff.mp hj).1
    have hrun : ¬ InLastRun (front ++ List.replicate run ')') j := by
      rw [inLastRun_iff hfront]
      omega
    obtain ⟨i, hi⟩ := h j (by rw [List.getElem?_append_left hlt, hj]) hrun
    exact ⟨i, (closes_append_iff hlt).mp hi⟩
  · intro h j hj hrun
    have hlength := (List.getElem?_eq_some_iff.mp hj).1
    rw [List.length_append, List.length_replicate] at hlength
    rw [inLastRun_iff hfront] at hrun
    have hlt : j < front.length := by omega
    rw [List.getElem?_append_left hlt] at hj
    obtain ⟨i, hi⟩ := h j hj
    exact ⟨i, (closes_append_iff hlt).mpr hi⟩

/-- No `)` of the run closes a `(`. -/
lemma noneClosed_run_iff (hfront : ∀ c ∈ front.getLast?, c ≠ ')') :
    (∀ i j, InLastRun (front ++ List.replicate run ')') j → ¬ Closes (front ++ List.replicate run ')') i j)
      ↔ run = 0 ∨ openPlaces front = [] := by
  constructor
  · intro h
    by_contra hnot
    rw [not_or, ← List.length_eq_zero_iff] at hnot
    have hrun : front.length < front.length + run := by omega
    have hclosed : ∃ i, Closes (front ++ List.replicate run ')') i front.length := by
      rw [exists_closes_run_iff le_rfl hrun]
      omega
    obtain ⟨i, hi⟩ := hclosed
    exact h i front.length ((inLastRun_iff hfront).mpr ⟨le_rfl, hrun⟩) hi
  · intro h i j hj hi
    obtain ⟨hle, hlt⟩ := (inLastRun_iff hfront).mp hj
    have hopen := (exists_closes_run_iff hle hlt).mp ⟨i, hi⟩
    rcases h with rfl | hnil
    · omega
    · rw [hnil, List.length_nil] at hopen
      omega

/-! ### What is taken off -/

/-- No `(` is taken off the end. -/
lemma getElem?_word_of_opening {cs : List Char} {i : ℕ} (h : cs[i]? = some '(') : (word cs)[i]? = some '(' := by
  rw [← word_append_replicate cs, List.getElem?_append] at h
  split_ifs at h with hlt
  · exact h
  · exact absurd (List.eq_of_mem_replicate (List.mem_of_getElem? h)) (by decide)

/-- **What is taken off is never less** than the `)` of the last run that close nothing. -/
lemma sub_length_openPlaces_le_closers (hfront : ∀ c ∈ front.getLast?, c ≠ ')') :
    run - (openPlaces front).length ≤ closers (front ++ List.replicate run ')') := by
  obtain ⟨hle, -⟩ := count_opening_le_and_eq_iff front
  rw [closers_append_replicate hfront]
  omega

/-- **When it is just those**: if there are not too many `)` at all, if all that stand before the run close something, or if none
in the run does. -/
lemma closers_eq_iff (hfront : ∀ c ∈ front.getLast?, c ≠ ')') :
    closers (front ++ List.replicate run ')') = run - (openPlaces front).length ↔
      front.count ')' + run ≤ front.count '(' ∨ AllClosed front ∨ run = 0 ∨ openPlaces front = [] := by
  obtain ⟨hle, heq⟩ := count_opening_le_and_eq_iff front
  rw [closers_append_replicate hfront, ← heq, ← List.length_eq_zero_iff]
  omega

end

/-- The tokens of an argument if so many `)` are taken off its end. -/
def cut (arg : String) (n : ℕ) : List String :=
  List.replicate (openings arg) opening ++ ofWord ((inner arg).take ((inner arg).length - n)) ++ List.replicate n closing

lemma ofArgument_eq_cut (arg : String) : ofArgument arg = cut arg (closers (inner arg)) := by
  rw [cut, List.append_assoc]
  rfl

/-- What is taken off the end of an argument are the `)` of its last run that close no `(` of it. All others stay. -/
def SplitsUnclosed (arg : String) : Prop :=
  ∃ n ≤ (inner arg).length, ofArgument arg = cut arg n ∧ ∀ j < (inner arg).length,
    (inner arg).length - n ≤ j ↔ InLastRun (inner arg) j ∧ ∀ i, ¬ Closes (inner arg) i j

lemma length_cut {arg : String} {n : ℕ} (h : n ≤ (inner arg).length) :
    (cut arg n).length = openings arg + (if n < (inner arg).length then 1 else 0) + n := by
  have hword : (ofWord ((inner arg).take ((inner arg).length - n))).length = if n < (inner arg).length then 1 else 0 := by
    split_ifs with hlt
    · have hne : (inner arg).take ((inner arg).length - n) ≠ [] := by
        rw [← List.length_pos_iff, List.length_take]
        omega
      rw [ofWord_of_ne_nil hne]
      rfl
    · rw [Nat.sub_eq_zero_of_le (by omega), List.take_zero]
      rfl
  rw [cut, List.length_append, List.length_append, List.length_replicate, List.length_replicate, hword]

/-- The tokens tell how many `)` have been taken off, unless that is all there is: then a last `)` could be the word as well. -/
lemma eq_of_cut_eq {arg : String} {n m : ℕ} (hle : n ≤ m) (hm : m ≤ (inner arg).length) (h : cut arg n = cut arg m) :
    n = m ∨ m = (inner arg).length := by
  have hlength := congrArg List.length h
  rw [length_cut (hle.trans hm), length_cut hm] at hlength
  split_ifs at hlength <;> omega

/-- What is taken off is what closes nothing if it is as much. -/
lemma splitsUnclosed_iff_closers_eq {arg : String} {front : List Char} {run : ℕ}
    (hinner : inner arg = front ++ List.replicate run ')') (hfront : ∀ c ∈ front.getLast?, c ≠ ')') :
    SplitsUnclosed arg ↔ closers (inner arg) = run - (openPlaces front).length := by
  have hlength : (inner arg).length = front.length + run := by
    rw [hinner, List.length_append, List.length_replicate]
  have hunclosed : ∀ j < (inner arg).length, (InLastRun (inner arg) j ∧ ∀ i, ¬ Closes (inner arg) i j)
      ↔ (inner arg).length - (run - (openPlaces front).length) ≤ j := by
    intro j hj
    rw [hlength] at hj ⊢
    rw [hinner]
    exact unclosed_iff hfront hj
  constructor
  · rintro ⟨n, hn, htokens, hplaces⟩
    have hplaces' : ∀ j < (inner arg).length,
        (inner arg).length - n ≤ j ↔ (inner arg).length - (run - (openPlaces front).length) ≤ j :=
      fun j hj => (hplaces j hj).trans (hunclosed j hj)
    obtain rfl : n = run - (openPlaces front).length := by
      have hfirst := hplaces' ((inner arg).length - n)
      have hfirst' := hplaces' ((inner arg).length - (run - (openPlaces front).length))
      omega
    have hle : closers (inner arg) ≤ run := by
      rw [hinner, closers_append_replicate hfront]
      exact min_le_right _ _
    have hge : run - (openPlaces front).length ≤ closers (inner arg) := by
      rw [hinner]
      exact sub_length_openPlaces_le_closers hfront
    rw [ofArgument_eq_cut] at htokens
    rcases eq_of_cut_eq hge (by omega) htokens.symm with heq | hall
    · exact heq.symm
    · -- all there is is taken off, so nothing is open before the run
      obtain rfl : front = [] := by
        rw [← List.length_eq_zero_iff]
        omega
      rw [hall, hlength]
      exact Nat.zero_add run
  · intro h
    refine ⟨closers (inner arg), ?_, ofArgument_eq_cut arg, fun j hj => ?_⟩
    · omega
    · rw [hunclosed j hj, h]

/-- **When the `)` taken off an argument are those that close no `(` of it**: if behind its front it has no more `)` than `(`,
if every `)` before the last run closes a `(`, or if none in the last run does. In any case those that close none are taken off,
and no `(` is, also if the `)` that closes it goes. -/
theorem splitsUnclosed_iff (arg : String) :
    (SplitsUnclosed arg ↔
      (inner arg).count ')' ≤ (inner arg).count '('
        ∨ (∀ j, (inner arg)[j]? = some ')' → ¬ InLastRun (inner arg) j → ∃ i, Closes (inner arg) i j)
        ∨ ∀ i j, InLastRun (inner arg) j → ¬ Closes (inner arg) i j)
      ∧ (∀ j, InLastRun (inner arg) j → (∀ i, ¬ Closes (inner arg) i j) →
          (inner arg).length - closers (inner arg) ≤ j)
      ∧ ∀ i j, Closes (inner arg) i j → (word (inner arg))[i]? = some '(' := by
  obtain ⟨front, run, hinner, hfront⟩ := exists_front (inner arg)
  refine ⟨?_, ?_, fun i j h => getElem?_word_of_opening h.opening⟩
  · rw [splitsUnclosed_iff_closers_eq hinner hfront, hinner, closers_eq_iff hfront, allClosed_front_iff hfront,
      noneClosed_run_iff hfront, count_opening_append_replicate, count_closing_append_replicate]
  · intro j hj hnone
    have hle : run - (openPlaces front).length ≤ closers (front ++ List.replicate run ')') :=
      sub_length_openPlaces_le_closers hfront
    rw [hinner] at hj hnone ⊢
    have hlt := hj.1
    rw [List.length_append, List.length_replicate] at hlt ⊢
    have hlast := (unclosed_iff hfront hlt).mp ⟨hj, hnone⟩
    omega

/-- **A `)` that closes a `(` of the same argument can go**: that of the `y` goes for the one behind the `x`. -/
theorem not_splitsUnclosed : ¬ ∀ arg, SplitsUnclosed arg := by
  intro h
  obtain ⟨n, hn, htokens, hplaces⟩ := h "x)(y)"
  have hinner : inner "x)(y)" = ['x', ')', '(', 'y', ')'] := by decide
  have hcloses : Closes (inner "x)(y)") 2 4 := by
    rw [hinner]
    exact ⟨rfl, rfl⟩
  have hlength : (inner "x)(y)").length = 5 := by rw [hinner]; rfl
  have hkept : ¬ (inner "x)(y)").length - n ≤ 4 := fun hle =>
    ((hplaces 4 (by omega)).mp hle).2 2 hcloses
  obtain rfl : n = 0 := by omega
  exact absurd htokens (by decide)

end MonitorQuery.Query.Token
