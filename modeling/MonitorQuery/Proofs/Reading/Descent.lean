import MonitorQuery.Proofs.Computation
import MonitorQuery.Query.Reading

/-!
Reading by descent.

The grammar of the tokens can be followed as it is written: a list asks for its terms, a term that opens a group for a
list. What is open is then kept by the calls and not by a stack, and a token that is left when the outermost list has
ended is a failure of its own.

* `Descent.list`, `Descent.term`: the descent, from a place among the tokens to a later one.
* `Descent.clausesOf`: the whole of the tokens, with the failure for a token that is left.
* `Descent.ends_of_list`: a list ends with the tokens, or with a `)` if it stands in a group.
* `Descent.takeAll_list`, `Descent.takeAll_term`: **the reading passes through the same places**, with one open list for
  each call.
* `Descent.clausesOf_eq`: the descent gives what the reading gives, and leaves no token.
-/

namespace MonitorQuery.Query.Descent

/-- Why a descent fails: a fault that a reading has as well, or a token that is left. -/
inductive Failure
  | reading (e : TokenError)
  | unexpected (found : String) (position : ℕ)
  deriving DecidableEq, Repr

/-- What is read from a place, and the place behind it. -/
abbrev Found (α : Type) (pos : ℕ) : Type := Except TokenError (α × { next : ℕ // pos < next })

section

variable (tokens : List String)

/-- Reads the rest of a restriction, behind its attribute. -/
def restriction (op : Operator) (attr : String) (pos : ℕ) : Found Clause pos :=
  match tokens[pos]? with
  | none => .error ⟨.comparatorMissing attr, pos + 1⟩
  | some word =>
    match Comparator.find word with
    | none => .error ⟨.comparatorUnknown word, pos + 2⟩
    | some c =>
      if c.isNullCheck then .ok (.restriction op ⟨attr, c, none⟩, ⟨pos + 1, Nat.lt_add_one pos⟩)
      else
        match tokens[pos + 1]? with
        | none => .error ⟨.valueMissing attr, pos + 2⟩
        | some raw =>
          .ok (.restriction op ⟨attr, c, some (Value.ofToken attr raw)⟩, ⟨pos + 2, Nat.lt_add_of_pos_right two_pos⟩)

variable (operator? : String → Option Operator)

mutual

/-- Reads a list whose first term is joined by `op`. -/
def list (depth : ℕ) (op : Operator) (pos : ℕ) : Found (List Clause) pos := do
  let (c, ⟨next, hnext⟩) ← term depth op pos
  match htoken : tokens[next]? with
  | none => .ok ([c], ⟨next, hnext⟩)
  | some token =>
    if token = Token.closing then
      if 0 < depth then .ok ([c], ⟨next, hnext⟩) else .error ⟨.closingUnbalanced, next + 1⟩
    else
      match operator? token with
      | none => .error ⟨.operatorExpected token, next + 1⟩
      | some op' => do
        let (cs, ⟨last, hlast⟩) ← list depth op' (next + 1)
        .ok (c :: cs, ⟨last, by omega⟩)
termination_by (tokens.length - pos, 1)
decreasing_by
  · exact Prod.Lex.right _ Nat.zero_lt_one
  · have hlength := (List.getElem?_eq_some_iff.mp htoken).1
    exact Prod.Lex.left _ _ (by omega)

/-- Reads a term that is joined by `op`. -/
def term (depth : ℕ) (op : Operator) (pos : ℕ) : Found Clause pos :=
  match htoken : tokens[pos]? with
  | none => .error ⟨.restrictionExpected, pos + 1⟩
  | some token =>
    if token = Token.opening then do
      let (cs, ⟨next, hnext⟩) ← list (depth + 1) .or (pos + 1)
      match tokens[next]? with
      | none => .error ⟨.closingMissing, next + 1⟩
      | some token =>
        if token = Token.closing then .ok (.group op cs, ⟨next + 1, by omega⟩)
        else .error ⟨.closingMissing, next + 2⟩
    else if token = Token.closing || (operator? token).isSome then
      .error ⟨.attributeExpected token, pos + 2⟩
    else do
      let (c, ⟨next, hnext⟩) ← restriction tokens op token (pos + 1)
      .ok (c, ⟨next, by omega⟩)
termination_by (tokens.length - pos, 0)
decreasing_by
  have hlength := (List.getElem?_eq_some_iff.mp htoken).1
  exact Prod.Lex.left _ _ (by omega)

end

/-- The clauses that tokens write; no tokens write none. -/
def clausesOf : Except Failure (List Clause) :=
  if tokens.isEmpty then .ok []
  else
    match list tokens Operator.find 0 .or 0 with
    | .error e => .error (.reading e)
    | .ok (cs, ⟨next, _⟩) =>
      match tokens[next]? with
      | none => .ok cs
      | some token => .error (.unexpected token (next + 1))

end

/-! ### The reading at a place -/

section

variable {tokens : List String} {pos : ℕ} {r : Reading} {token : String}

@[simp] lemma located_ok {α : Type} (a : α) : Reading.located pos (.ok a) = .ok a := rfl

@[simp] lemma located_error {α : Type} (fault : TokenFault) :
    Reading.located pos (.error fault : Except TokenFault α) = .error ⟨fault, fault.positionAfter pos⟩ := rfl

lemma takeAll_of_none (h : tokens[pos]? = none) :
    r.takeAll pos (tokens.drop pos) = Reading.located pos r.finish := by
  rw [List.drop_eq_nil_of_le (List.getElem?_eq_none_iff.mp h), Reading.takeAll]

lemma takeAll_of_some (h : tokens[pos]? = some token) :
    r.takeAll pos (tokens.drop pos)
      = Reading.located pos (r.step token) >>= fun r => r.takeAll (pos + 1) (tokens.drop (pos + 1)) := by
  obtain ⟨hpos, rfl⟩ := List.getElem?_eq_some_iff.mp h
  rw [List.drop_eq_getElem_cons hpos, Reading.takeAll]

end

/-! ### The reading follows the descent -/

section

variable {tokens : List String}

/-- The reading passes through a restriction. -/
lemma takeAll_restriction (enclosing : List OpenList) (clauses : List Clause) (op : Operator) (attr : String)
    (pos : ℕ) :
    (Reading.mk enclosing clauses (.comparator op attr)).takeAll pos (tokens.drop pos)
      = restriction tokens op attr pos >>= fun found =>
          (Reading.mk enclosing (clauses ++ [found.1]) .link).takeAll found.2.1 (tokens.drop found.2.1) := by
  rw [restriction]
  cases hword : tokens[pos]? with
  | none =>
      rw [takeAll_of_none hword]
      rfl
  | some word =>
      rw [takeAll_of_some hword]
      cases hc : Comparator.find word with
      | none => simp [Reading.step, hc, TokenFault.positionAfter, TokenFault.isTaken]
      | some c =>
          cases hnull : c.isNullCheck with
          | true => simp [Reading.step, hc, hnull, Reading.add]
          | false =>
              simp only [Reading.step, hc, hnull, Bool.false_eq_true, if_false, located_ok, ok_bind]
              cases hraw : tokens[pos + 1]? with
              | none =>
                  rw [takeAll_of_none hraw]
                  rfl
              | some raw =>
                  rw [takeAll_of_some hraw]
                  rfl

/-- A list ends with the tokens, or with a `)` if it stands in a group. -/
lemma ends_of_list {operator? : String → Option Operator} {depth : ℕ} {op : Operator} {pos : ℕ} {cs : List Clause}
    {next : { next : ℕ // pos < next }} (h : list tokens operator? depth op pos = .ok (cs, next)) :
    tokens[next.1]? = none ∨ 0 < depth ∧ tokens[next.1]? = some Token.closing := by
  rw [list] at h
  obtain ⟨⟨c, middle, hmiddle⟩, -, h⟩ := bind_eq_ok.mp h
  simp only at h
  split at h
  · next hnone =>
      cases h
      exact Or.inl hnone
  · next token htoken =>
      have hlength := (List.getElem?_eq_some_iff.mp htoken).1
      split_ifs at h with hclosing hdepth
      · cases h
        exact Or.inr ⟨hdepth, hclosing ▸ htoken⟩
      · split at h
        · cases h
        · obtain ⟨⟨rest, last, hlast⟩, hrest, h⟩ := bind_eq_ok.mp h
          cases h
          have hends := ends_of_list hrest
          exact hends
termination_by tokens.length - pos

mutual

/-- **The reading passes through a list** where the descent does. -/
lemma takeAll_list (enclosing : List OpenList) (clauses : List Clause) (op : Operator) (pos : ℕ) :
    (Reading.mk enclosing clauses (.term op)).takeAll pos (tokens.drop pos)
      = list tokens Operator.find enclosing.length op pos >>= fun found =>
          (Reading.mk enclosing (clauses ++ found.1) .link).takeAll found.2.1 (tokens.drop found.2.1) := by
  rw [takeAll_term, list]
  cases hterm : term tokens Operator.find enclosing.length op pos with
  | error e => rfl
  | ok found =>
      obtain ⟨c, next, hnext⟩ := found
      simp only [ok_bind]
      split
      · rfl
      · next token htoken =>
          have hlength := (List.getElem?_eq_some_iff.mp htoken).1
          split_ifs with hclosing hdepth
          · rfl
          · obtain rfl : enclosing = [] := List.eq_nil_of_length_eq_zero (by omega)
            simp [takeAll_of_some htoken, Reading.step, hclosing, TokenFault.positionAfter, TokenFault.isTaken]
          · rw [takeAll_of_some htoken]
            cases hop : Operator.find token with
            | none => simp [Reading.step, hclosing, hop, TokenFault.positionAfter, TokenFault.isTaken]
            | some op' =>
                have hrest := takeAll_list enclosing (clauses ++ [c]) op' (next + 1)
                simp only [Reading.step, hclosing, hop, if_false, located_ok, ok_bind, hrest]
                cases list tokens Operator.find enclosing.length op' (next + 1) with
                | error e => rfl
                | ok rest => simp
termination_by (tokens.length - pos, 1)

/-- **The reading passes through a term** where the descent does. -/
lemma takeAll_term (enclosing : List OpenList) (clauses : List Clause) (op : Operator) (pos : ℕ) :
    (Reading.mk enclosing clauses (.term op)).takeAll pos (tokens.drop pos)
      = term tokens Operator.find enclosing.length op pos >>= fun found =>
          (Reading.mk enclosing (clauses ++ [found.1]) .link).takeAll found.2.1 (tokens.drop found.2.1) := by
  rw [term]
  split
  · next hnone =>
      rw [takeAll_of_none hnone]
      rfl
  · next token htoken =>
      have hlength := (List.getElem?_eq_some_iff.mp htoken).1
      rw [takeAll_of_some htoken]
      split_ifs with hopening hword
      · have hinner := takeAll_list (⟨clauses, op⟩ :: enclosing) [] .or (pos + 1)
        simp only [Reading.step, hopening, if_true, located_ok, ok_bind, hinner, List.length_cons]
        cases hlist : list tokens Operator.find (enclosing.length + 1) .or (pos + 1) with
        | error e => rfl
        | ok found =>
            obtain ⟨cs, last, hlast⟩ := found
            simp only [ok_bind, List.nil_append]
            rcases ends_of_list hlist with hnone | ⟨-, hclosing⟩
            · simp only at hnone
              simp [takeAll_of_none hnone, hnone, Reading.finish, TokenFault.positionAfter, TokenFault.isTaken]
            · simp only at hclosing
              simp [takeAll_of_some hclosing, hclosing, Reading.step]
      · simp [Reading.step, hopening, hword, TokenFault.positionAfter, TokenFault.isTaken]
      · simp only [Reading.step, hopening, hword, if_false, Bool.false_eq_true, located_ok, ok_bind,
          takeAll_restriction]
        cases restriction tokens op token (pos + 1) with
        | error e => rfl
        | ok found => rfl
termination_by (tokens.length - pos, 0)

end

/-- **The descent gives what the reading gives**: the same clauses, or the same fault at the same position. -/
theorem clausesOf_eq (tokens : List String) :
    clausesOf tokens = (clausesOfTokens tokens).mapError Failure.reading := by
  cases tokens with
  | nil => rfl
  | cons token rest =>
      have hread := @takeAll_list (token :: rest) [] [] .or 0
      show clausesOf (token :: rest)
        = ((Reading.mk [] [] (.term .or)).takeAll 0 ((token :: rest).drop 0)).mapError Failure.reading
      rw [hread, clausesOf, if_neg (by simp), List.length_nil]
      cases hlist : list (token :: rest) Operator.find 0 .or 0 with
      | error e => rfl
      | ok found =>
          obtain ⟨cs, next, hnext⟩ := found
          have hnone : (token :: rest)[next]? = none := by
            rcases ends_of_list hlist with hnone | ⟨hdepth, -⟩
            · exact hnone
            · exact absurd hdepth (lt_irrefl 0)
          simp [hnone, takeAll_of_none hnone, Reading.finish, Except.mapError]

/-- **No token is left** where the descent has ended. -/
lemma clausesOf_ne_unexpected (tokens : List String) (found : String) (position : ℕ) :
    clausesOf tokens ≠ .error (.unexpected found position) := by
  rw [clausesOf_eq]
  cases clausesOfTokens tokens <;> simp [Except.mapError]

end

end MonitorQuery.Query.Descent
