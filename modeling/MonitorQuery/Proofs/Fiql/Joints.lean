import MonitorQuery.Proofs.Fiql.Alternatives

/-!
The joints of a search.

The terms of a search are joined by `;` and `,`. No value has either, since values are encoded; but attributes are sent as they are.
So a search can have more joints than its clauses have operators, and fall apart into more terms than there are clauses.

* `joints`, `pieces`: the joints in a text, and what stands between them. `length_pieces` counts the one by the other.
* `joints_linkLexemes`: the joints in the terms behind a first one, by induction on the clauses.
* `forall₂_pieces`: where no attribute has a joint, the pieces of a search are its terms.
* `joints_search_of_compile`: **the joints of a search are its operators and those in its attributes.**
* `not_joints_search_eq`: one clause can pass for two.
-/

namespace MonitorQuery.Request.Fiql

open MonitorQuery.Query

/-! ### Joints and pieces -/

/-- The character joins terms. -/
def isJoint (c : Char) : Bool := c = ';' || c = ','

/-- The joints in a text. -/
def joints (cs : List Char) : List Char := cs.filter isJoint

/-- What stands between the joints of a text. -/
def pieces (cs : List Char) : List (List Char) := cs.splitOnP isJoint

lemma isJoint_sign (op : Operator) : isJoint op.sign = true := by
  cases op <;> decide

lemma isJoint_of_isJoined {cs : List Char} (h : IsJoined cs) : ∀ c ∈ cs, isJoint c = false := by
  intro c hc
  simpa [isJoint] using h c hc

lemma joints_append (cs ds : List Char) : joints (cs ++ ds) = joints cs ++ joints ds := List.filter_append cs ds

lemma joints_sign_cons (op : Operator) (cs : List Char) : joints (op.sign :: cs) = op.sign :: joints cs :=
  List.filter_cons_of_pos (isJoint_sign op)

lemma joints_eq_nil_iff {cs : List Char} : joints cs = [] ↔ IsJoined cs := by
  simp [joints, IsJoined, isJoint, List.filter_eq_nil_iff]

/-- A text has one more piece than it has joints. -/
lemma length_pieces (cs : List Char) : (pieces cs).length = (joints cs).length + 1 := by
  induction cs with
  | nil => rfl
  | cons c cs ih =>
      rw [pieces, joints, List.filter_cons, List.splitOnP_cons_eq_if_modifyHead]
      split
      · rw [List.length_cons, List.length_cons]
        exact congrArg (· + 1) ih
      · rw [List.length_modifyHead]
        exact ih

/-- A text without joints is one piece. -/
lemma pieces_of_isJoined {cs : List Char} (h : IsJoined cs) : pieces cs = [cs] :=
  List.splitOnP_eq_singleton (isJoint_of_isJoined h)

/-- Before a joint it is the first piece. -/
lemma pieces_append_cons {cs : List Char} (h : IsJoined cs) (op : Operator) (ds : List Char) :
    pieces (cs ++ op.sign :: ds) = cs :: pieces ds := by
  rw [pieces, List.splitOnP_append_cons _ _ (isJoint_sign op), List.splitOnP_eq_singleton (isJoint_of_isJoined h)]
  rfl

/-! ### Clauses behind one another -/

section Clauses

variable {properties : List Property}

/-- A comparison has the joints of its attribute. -/
lemma Comparison.joints_chars {r : Restriction} {c : Comparison} (h : ofRestriction properties r = .ok c) :
    joints c.chars = joints r.attr.toList := by
  obtain ⟨-, -, hattr, hvalue⟩ := of_ofRestriction h
  have hsign : joints c.sign.chars = [] := by cases c.sign <;> decide
  have hjoined : joints c.value.toList = [] := hvalue ▸ joints_eq_nil_iff.mpr (isJoined_valueText properties r)
  rw [chars, joints_append, joints_append, hsign, hjoined, hattr, List.append_nil, List.append_nil]

lemma charsOf_linkLexemes_cons_comparison (op : Operator) (c : Comparison) (links : List (Operator × Term)) :
    charsOf (linkLexemes ((op, .comparison c) :: links)) = op.sign :: (c.chars ++ charsOf (linkLexemes links)) := by
  simp [linkLexemes, Term.lexemes, Lexeme.chars]

variable {rest : List (Operator × Restriction)} {links : List (Operator × Term)}

/-- **The joints in the terms behind a first one** are the operators, and behind each the joints of its attribute. -/
lemma joints_linkLexemes (h : linksOf properties (rest.map fun (op, r) => .restriction op r) = .ok links) :
    joints (charsOf (linkLexemes links)) = rest.flatMap fun (op, r) => op.sign :: joints r.attr.toList := by
  induction rest generalizing links with
  | nil =>
      cases h
      rfl
  | cons link rest ih =>
      obtain ⟨op, r⟩ := link
      obtain ⟨c, links, hc, hlinks, rfl⟩ := of_linksOf_cons_restriction h
      rw [charsOf_linkLexemes_cons_comparison, joints_sign_cons, joints_append, Comparison.joints_chars hc, ih hlinks]
      rfl

/-- **Where no attribute has a joint, the pieces are the terms**, in order. -/
lemma forall₂_pieces {first : Restriction} {c : Comparison} (hfirst : Comparison.ofRestriction properties first = .ok c)
    (h : linksOf properties (rest.map fun (op, r) => .restriction op r) = .ok links)
    (hattr : ∀ r ∈ first :: rest.map (·.2), IsJoined r.attr.toList) :
    List.Forall₂ (fun r piece => restrictionTerm properties r = .ok (String.ofList piece)) (first :: rest.map (·.2))
      (pieces (c.chars ++ charsOf (linkLexemes links))) := by
  induction rest generalizing first c links with
  | nil =>
      cases h
      have hjoined : IsJoined c.chars := by
        rw [← joints_eq_nil_iff, Comparison.joints_chars hfirst, joints_eq_nil_iff]
        exact hattr first List.mem_cons_self
      rw [linkLexemes, charsOf_nil, List.append_nil, pieces_of_isJoined hjoined]
      refine .cons ?_ .nil
      rw [restrictionTerm_eq, hfirst]
      rfl
  | cons link rest ih =>
      obtain ⟨op, r⟩ := link
      obtain ⟨d, links, hd, hlinks, rfl⟩ := of_linksOf_cons_restriction h
      obtain ⟨hhead, htail⟩ := List.forall_mem_cons.mp hattr
      have hjoined : IsJoined c.chars := by
        rw [← joints_eq_nil_iff, Comparison.joints_chars hfirst, joints_eq_nil_iff]
        exact hhead
      rw [charsOf_linkLexemes_cons_comparison, pieces_append_cons hjoined]
      refine .cons ?_ (ih hd hlinks htail)
      rw [restrictionTerm_eq, hfirst]
      rfl

end Clauses

/-! ### The joints of a search -/

/-- The joints of a first attribute, and of those behind it, each behind the sign of its operator. -/
def jointsOf (first : Restriction) (rest : List (Operator × Restriction)) : List Char :=
  joints first.attr.toList ++ rest.flatMap fun (op, r) => op.sign :: joints r.attr.toList

section Count

variable {first : Restriction} {rest : List (Operator × Restriction)}

lemma length_jointsOf (first : Restriction) (rest : List (Operator × Restriction)) :
    (jointsOf first rest).length
      = rest.length + ((first :: rest.map (·.2)).map fun r => (joints r.attr.toList).length).sum := by
  induction rest generalizing first with
  | nil => simp [jointsOf]
  | cons link rest ih =>
      obtain ⟨op, r⟩ := link
      have hrest := ih r
      simp only [jointsOf, List.flatMap_cons, List.length_append, List.length_cons, List.map_cons, List.sum_cons] at hrest ⊢
      omega

/-- There are as many joints as operators if no attribute has one. -/
lemma length_jointsOf_eq_iff :
    (jointsOf first rest).length = rest.length ↔ ∀ r ∈ first :: rest.map (·.2), IsJoined r.attr.toList := by
  rw [length_jointsOf, Nat.add_eq_left, List.sum_eq_zero_iff]
  simp only [List.forall_mem_map, List.length_eq_zero_iff, joints_eq_nil_iff]

/-- They are then the operators. -/
lemma jointsOf_eq_iff :
    jointsOf first rest = rest.map (fun (op, _) => op.sign) ↔ ∀ r ∈ first :: rest.map (·.2), IsJoined r.attr.toList := by
  constructor
  · intro heq
    rw [← length_jointsOf_eq_iff, heq, List.length_map]
  · intro hattr
    obtain ⟨hfirst, hrest⟩ := List.forall_mem_cons.mp hattr
    rw [jointsOf, joints_eq_nil_iff.mpr hfirst, List.nil_append, List.map_eq_flatMap]
    refine List.flatMap_congr fun (op, r) hlink => ?_
    have hr : IsJoined r.attr.toList := hrest r (List.mem_map_of_mem (f := (·.2)) hlink)
    simp [joints_eq_nil_iff.mpr hr]

end Count

/-- **The joints of a search are its operators and those in its attributes.** Take an accepted filter with restrictions alone, and
at least one. Then there is one search text, and its joints are those in the first attribute and then, clause by clause, the sign of
the operator and the joints in the attribute behind it. They are the operators of the clauses behind the first just if no attribute
has a joint, and just then there are as many pieces between joints as there are clauses. The pieces are then the terms of the
clauses, in order. -/
theorem joints_search_of_compile {properties : List Property} {f : Filter} {q : Params} {op : Operator} {first : Restriction}
    {rest : List (Operator × Restriction)} (h : compile properties f = .ok q)
    (hclauses : f.clauses = .restriction op first :: rest.map fun (op, r) => .restriction op r) :
    ∃ search, q.getAll searchKey = [search]
      ∧ joints search.toList
          = joints first.attr.toList ++ rest.flatMap (fun (op, r) => op.sign :: joints r.attr.toList)
      ∧ (joints search.toList = rest.map (fun (op, _) => op.sign)
          ↔ ∀ r ∈ first :: rest.map (·.2), IsJoined r.attr.toList)
      ∧ ((pieces search.toList).length = f.clauses.length ↔ ∀ r ∈ first :: rest.map (·.2), IsJoined r.attr.toList)
      ∧ ((∀ r ∈ first :: rest.map (·.2), IsJoined r.attr.toList) →
          List.Forall₂ (fun r piece => restrictionTerm properties r = .ok (String.ofList piece)) (first :: rest.map (·.2))
            (pieces search.toList)) := by
  obtain ⟨search, hsearch, hgetAll⟩ := getAll_searchKey_of_compile h
  rw [hclauses] at hsearch
  obtain ⟨c, links, hc, hlinks, htext⟩ := exists_links_of_expression hsearch
  rw [Expression.lexemes, Term.lexemes, charsOf_append, charsOf_cons, charsOf_nil, List.append_nil, Lexeme.chars] at htext
  have hnonempty : search.isEmpty = false := by
    by_contra hempty
    obtain rfl : search = "" := String.isEmpty_iff.mp (by simpa using hempty)
    exact Lexeme.chars_ne_nil (.comparison c) (List.append_eq_nil_iff.mp htext.symm).1
  have hjoints : joints search.toList = jointsOf first rest := by
    rw [htext, joints_append, Comparison.joints_chars hc, joints_linkLexemes hlinks, jointsOf]
  have hlength : f.clauses.length = rest.length + 1 := by
    rw [hclauses, List.length_cons, List.length_map]
  rw [hnonempty, if_neg Bool.false_ne_true] at hgetAll
  refine ⟨search, hgetAll, hjoints, ?_, ?_, ?_⟩
  · rw [hjoints, jointsOf_eq_iff]
  · rw [length_pieces, hlength, hjoints, Nat.add_right_cancel_iff, length_jointsOf_eq_iff]
  · intro hattr
    rw [htext]
    exact forall₂_pieces hc hlinks hattr

/-- A value with both joints in it, and an attribute with one. -/
theorem joints_search_of_compile_attr :
    ∃ q search, compile [] { clauses := [.restriction .or ⟨"a", .eq, some (.text "1;2,3")⟩,
          .restriction .and ⟨"b,c", .gt, some (.text "4")⟩] } = .ok q
      ∧ q.getAll searchKey = [search]
      ∧ joints search.toList = [';', ',']
      ∧ (pieces search.toList).length ≠ 2 := by
  let f : Filter :=
    { clauses := [.restriction .or ⟨"a", .eq, some (.text "1;2,3")⟩, .restriction .and ⟨"b,c", .gt, some (.text "4")⟩] }
  obtain ⟨q, h⟩ : ∃ q, compile [] f = .ok q := ⟨_, rfl⟩
  let first : Restriction := ⟨"a", .eq, some (.text "1;2,3")⟩
  let rest : List (Operator × Restriction) := [(.and, ⟨"b,c", .gt, some (.text "4")⟩)]
  have hclauses : f.clauses = .restriction .or first :: rest.map fun (op, r) => .restriction op r := rfl
  obtain ⟨search, hsearch, hjoints, -, hpieces, -⟩ := joints_search_of_compile h hclauses
  refine ⟨q, search, h, hsearch, hjoints.trans (by decide), fun hlength => ?_⟩
  have hattr : IsJoined "b,c".toList := hpieces.mp hlength ⟨"b,c", .gt, some (.text "4")⟩ (by simp [rest])
  exact absurd (joints_eq_nil_iff.mpr hattr) (by decide)

/-- **Not every joint of a search is an operator**: a clause whose attribute holds a term and a joint passes for two. -/
theorem not_joints_search_eq :
    ¬ ∀ (f : Filter) (q : Params) (search : String) (op : Operator) (first : Restriction)
        (rest : List (Operator × Restriction)), compile [] f = .ok q →
      f.clauses = .restriction op first :: rest.map (fun (op, r) => .restriction op r) →
      q.getAll searchKey = [search] → joints search.toList = rest.map fun (op, _) => op.sign := by
  intro h
  have hnone := h { clauses := [.restriction .or ⟨"a==1;b", .eq, some (.text "2")⟩] }
    ⟨[("limit", ⟨"1000", []⟩), ("_s", ⟨"a==1;b==2", []⟩)]⟩ "a==1;b==2" .or
    ⟨"a==1;b", .eq, some (.text "2")⟩ [] rfl rfl rfl
  exact absurd hnone (by decide)

end MonitorQuery.Request.Fiql
