import MonitorQuery.Proofs.Reading.Descent

/-!
The grammar of the tokens.

A list is a first term, joined by OR, and further terms, each behind a token for its operator. A term is an attribute with
a comparator, and with a value unless the comparator asks for none, or a list in parentheses. Every token may be a value,
a parenthesis or the word for an operator among them.

* `WritesTerm`, `WritesList`: the tokens that write a term, and a list.
* `WritesList.takeAll`: **what is written is read**, whatever follows it.
* `Reads`: the invariant of the reading. The open lists and the innermost one are written by the tokens so far.
* `Reads.step`, `Reads.takeAll`: **what is read is written**.
* `clausesOf_eq_ok_iff`: the reading gives the clauses that the tokens write and no others.
-/

namespace MonitorQuery.Query

/-! ### Tokens that write clauses -/

/-- The token begins a restriction. -/
structure IsAttribute (token : String) : Prop where
  ne_opening : token ≠ Token.opening
  ne_closing : token ≠ Token.closing
  no_operator : Operator.find token = none

mutual

/-- `term ::= "(" list ")" | attribute null-check | attribute comparator value`, joined by an operator. -/
inductive WritesTerm : Operator → List String → Clause → Prop
  | nullCheck (op : Operator) {attr word : String} {c : Comparator} : IsAttribute attr →
      Comparator.find word = some c → c.isNullCheck = true →
      WritesTerm op [attr, word] (.restriction op ⟨attr, c, none⟩)
  | comparison (op : Operator) {attr word : String} {c : Comparator} (raw : String) : IsAttribute attr →
      Comparator.find word = some c → c.isNullCheck = false →
      WritesTerm op [attr, word, raw] (.restriction op ⟨attr, c, some (Value.ofToken attr raw)⟩)
  | group (op : Operator) {ts : List String} {cs : List Clause} : WritesList ts cs →
      WritesTerm op (Token.opening :: ts ++ [Token.closing]) (.group op cs)

/-- `list ::= term (operator term)*`, its first term joined by OR. -/
inductive WritesList : List String → List Clause → Prop
  | first {ts : List String} {c : Clause} : WritesTerm .or ts c → WritesList ts [c]
  | further {ts us : List String} {cs : List Clause} {c : Clause} {token : String} {op : Operator} :
      WritesList ts cs → Operator.find token = some op → WritesTerm op us c →
      WritesList (ts ++ token :: us) (cs ++ [c])

end

/-- No operator is written by a `)`. -/
lemma find_closing : Operator.find Token.closing = none := by decide

/-! ### What is written is read -/

lemma Reading.takeAll_cons {r r' : Reading} {token : String} (h : r.step token = .ok r') (count : ℕ)
    (tokens : List String) : r.takeAll count (token :: tokens) = r'.takeAll (count + 1) tokens := by
  rw [takeAll, h]
  rfl

/-- A term is awaited at an attribute. -/
lemma IsAttribute.step {attr : String} (h : IsAttribute attr) (enclosing : List OpenList) (clauses : List Clause)
    (op : Operator) :
    (Reading.mk enclosing clauses (.term op)).step attr = .ok ⟨enclosing, clauses, .comparator op attr⟩ := by
  simp [Reading.step, h.ne_opening, h.ne_closing, h.no_operator]

/-- A further term is awaited behind an operator. -/
lemma step_operator {token : String} {op : Operator} (h : Operator.find token = some op) (enclosing : List OpenList)
    (clauses : List Clause) :
    (Reading.mk enclosing clauses .link).step token = .ok ⟨enclosing, clauses, .term op⟩ := by
  have hne : token ≠ Token.closing := by
    rintro rfl
    rw [find_closing] at h
    cases h
  simp [Reading.step, hne, h]

/-- A comparator that asks for no value ends its restriction. -/
lemma step_nullCheck {word : String} {c : Comparator} (hfind : Comparator.find word = some c)
    (hnull : c.isNullCheck = true) (enclosing : List OpenList) (clauses : List Clause) (op : Operator)
    (attr : String) :
    (Reading.mk enclosing clauses (.comparator op attr)).step word
      = .ok ⟨enclosing, clauses ++ [.restriction op ⟨attr, c, none⟩], .link⟩ := by
  simp [Reading.step, hfind, hnull, Reading.add]

/-- Any other comparator awaits a value. -/
lemma step_comparator {word : String} {c : Comparator} (hfind : Comparator.find word = some c)
    (hnull : c.isNullCheck = false) (enclosing : List OpenList) (clauses : List Clause) (op : Operator)
    (attr : String) :
    (Reading.mk enclosing clauses (.comparator op attr)).step word
      = .ok ⟨enclosing, clauses, .value op attr c⟩ := by
  simp [Reading.step, hfind, hnull]

/-- Any token is a value. -/
lemma step_value (enclosing : List OpenList) (clauses : List Clause) (op : Operator) (attr : String) (c : Comparator)
    (raw : String) :
    (Reading.mk enclosing clauses (.value op attr c)).step raw
      = .ok ⟨enclosing, clauses ++ [.restriction op ⟨attr, c, some (Value.ofToken attr raw)⟩], .link⟩ := rfl

/-- A `(` opens a list. -/
lemma step_opening (enclosing : List OpenList) (clauses : List Clause) (op : Operator) :
    (Reading.mk enclosing clauses (.term op)).step Token.opening
      = .ok ⟨⟨clauses, op⟩ :: enclosing, [], .term .or⟩ := by
  simp [Reading.step]

/-- A `)` closes the innermost list. -/
lemma step_closing (outer : OpenList) (enclosing : List OpenList) (clauses : List Clause) :
    (Reading.mk (outer :: enclosing) clauses .link).step Token.closing
      = .ok ⟨enclosing, outer.clauses ++ [.group outer.operator clauses], .link⟩ := by
  simp [Reading.step]

mutual

/-- The tokens of a term are read as the term. -/
lemma WritesTerm.takeAll : ∀ {op : Operator} {ts : List String} {c : Clause}, WritesTerm op ts c →
    ∀ (enclosing : List OpenList) (clauses : List Clause) (count : ℕ) (rest : List String),
      (Reading.mk enclosing clauses (.term op)).takeAll count (ts ++ rest)
        = (Reading.mk enclosing (clauses ++ [c]) .link).takeAll (count + ts.length) rest
  | _, _, _, @WritesTerm.nullCheck op attr word c hattr hfind hnull, enclosing, clauses, count, rest => by
      show Reading.takeAll _ count (attr :: word :: rest) = _
      rw [Reading.takeAll_cons (hattr.step ..), Reading.takeAll_cons (step_nullCheck hfind hnull ..)]
      rfl
  | _, _, _, @WritesTerm.comparison op attr word c raw hattr hfind hnull, enclosing, clauses, count, rest => by
      show Reading.takeAll _ count (attr :: word :: raw :: rest) = _
      rw [Reading.takeAll_cons (hattr.step ..), Reading.takeAll_cons (step_comparator hfind hnull ..),
        Reading.takeAll_cons (step_value ..)]
      rfl
  | _, _, _, @WritesTerm.group op ts cs h, enclosing, clauses, count, rest => by
      have hcount : count + 1 + ts.length + 1 = count + (Token.opening :: ts ++ [Token.closing]).length := by
        rw [List.length_append, List.length_cons, List.length_singleton]
        omega
      rw [List.append_assoc, List.cons_append, List.singleton_append, Reading.takeAll_cons (step_opening ..),
        h.takeAll, Reading.takeAll_cons (step_closing ..), hcount]

/-- **The tokens of a list are read as the list**, whatever follows them. -/
lemma WritesList.takeAll : ∀ {ts : List String} {cs : List Clause}, WritesList ts cs →
    ∀ (enclosing : List OpenList) (count : ℕ) (rest : List String),
      (Reading.mk enclosing [] (.term .or)).takeAll count (ts ++ rest)
        = (Reading.mk enclosing cs .link).takeAll (count + ts.length) rest
  | _, _, .first h, enclosing, count, rest => h.takeAll enclosing [] count rest
  | _, _, @WritesList.further ts us cs c token op hlist hop hterm, enclosing, count, rest => by
      have hcount : count + ts.length + 1 + us.length = count + (ts ++ token :: us).length := by
        rw [List.length_append, List.length_cons]
        omega
      rw [List.append_assoc, List.cons_append, hlist.takeAll, Reading.takeAll_cons (step_operator hop ..),
        hterm.takeAll, hcount]

end

lemma WritesTerm.ne_nil {op : Operator} {ts : List String} {c : Clause} (h : WritesTerm op ts c) : ts ≠ [] := by
  cases h <;> simp

lemma WritesList.ne_nil {ts : List String} {cs : List Clause} (h : WritesList ts cs) : ts ≠ [] := by
  cases h with
  | first h => exact h.ne_nil
  | further _ _ _ => simp

/-- The clauses of a list are read from its tokens. -/
lemma WritesList.clausesOfTokens {ts : List String} {cs : List Clause} (h : WritesList ts cs) :
    clausesOfTokens ts = .ok cs := by
  have hread := h.takeAll [] 0 []
  obtain ⟨token, rest, rfl⟩ := List.exists_cons_of_ne_nil h.ne_nil
  rw [List.append_nil] at hread
  exact hread

/-! ### What is read is written -/

/-- The tokens write the clauses of a list and the operator of a further one. -/
inductive WritesUpTo : List String → List Clause → Operator → Prop
  | start : WritesUpTo [] [] .or
  | operator {ts : List String} {cs : List Clause} {token : String} {op : Operator} : WritesList ts cs →
      Operator.find token = some op → WritesUpTo (ts ++ [token]) cs op

/-- The tokens write lists in which a group is still open. -/
inductive WritesOpen : List String → List OpenList → Prop
  | nil : WritesOpen [] []
  | cons {ts us : List String} {enclosing : List OpenList} (outer : OpenList) : WritesOpen ts enclosing →
      WritesUpTo us outer.clauses outer.operator → WritesOpen (ts ++ us ++ [Token.opening]) (outer :: enclosing)

/-- The tokens write the clauses of the innermost list, up to what is awaited. -/
inductive WritesInner : List String → List Clause → Awaiting → Prop
  | term {ts : List String} {cs : List Clause} {op : Operator} : WritesUpTo ts cs op → WritesInner ts cs (.term op)
  | comparator {ts : List String} {cs : List Clause} {op : Operator} {attr : String} : WritesUpTo ts cs op →
      IsAttribute attr → WritesInner (ts ++ [attr]) cs (.comparator op attr)
  | value {ts : List String} {cs : List Clause} {op : Operator} {attr word : String} {c : Comparator} :
      WritesUpTo ts cs op → IsAttribute attr → Comparator.find word = some c → c.isNullCheck = false →
      WritesInner (ts ++ [attr, word]) cs (.value op attr c)
  | link {ts : List String} {cs : List Clause} : WritesList ts cs → WritesInner ts cs .link

/-- The tokens write what has been read. -/
inductive Reads : List String → Reading → Prop
  | mk {ts us : List String} {enclosing : List OpenList} {clauses : List Clause} {awaiting : Awaiting} :
      WritesOpen ts enclosing → WritesInner us clauses awaiting → Reads (ts ++ us) ⟨enclosing, clauses, awaiting⟩

/-- A term lengthens a list. -/
lemma WritesUpTo.add {ts us : List String} {cs : List Clause} {op : Operator} {c : Clause} (h : WritesUpTo ts cs op)
    (hterm : WritesTerm op us c) : WritesList (ts ++ us) (cs ++ [c]) := by
  cases h with
  | start => exact .first hterm
  | operator hlist hop =>
      rw [List.append_assoc, List.singleton_append]
      exact .further hlist hop hterm

/-- **Every token keeps the invariant.** -/
lemma Reads.step {ts : List String} {r r' : Reading} {token : String} (h : Reads ts r)
    (hstep : r.step token = .ok r') : Reads (ts ++ [token]) r' := by
  obtain @⟨ts, us, enclosing, clauses, awaiting, hopen, hinner⟩ := h
  cases hinner with
  | @term _ _ op hupto =>
      simp only [Reading.step] at hstep
      split_ifs at hstep with hopening hword
      · cases hstep
        subst hopening
        have hreads := Reads.mk (.cons ⟨clauses, op⟩ hopen hupto) (.term .start)
        rwa [List.append_nil] at hreads
      · cases hstep
        simp only [Bool.or_eq_true, decide_eq_true_eq, not_or, Option.not_isSome_iff_eq_none] at hword
        rw [List.append_assoc]
        exact .mk hopen (.comparator hupto ⟨hopening, hword.1, hword.2⟩)
  | comparator hupto hattr =>
      simp only [Reading.step] at hstep
      split at hstep
      · cases hstep
      · next c hfind =>
          rw [List.append_assoc, List.append_assoc, List.singleton_append]
          split_ifs at hstep with hnull
          · cases hstep
            exact .mk hopen (.link (hupto.add (.nullCheck _ hattr hfind hnull)))
          · cases hstep
            exact .mk hopen (.value hupto hattr hfind (by simpa using hnull))
  | value hupto hattr hfind hnull =>
      cases hstep
      rw [List.append_assoc, List.append_assoc]
      exact .mk hopen (.link (hupto.add (.comparison _ token hattr hfind hnull)))
  | link hlist =>
      simp only [Reading.step] at hstep
      split_ifs at hstep with hclosing
      · subst hclosing
        cases hopen with
        | nil => cases hstep
        | @cons ts vs enclosing outer hopen hupto =>
            cases hstep
            -- the list that has been open around the group goes on with it
            have hgroup := hupto.add (.group outer.operator hlist)
            have htokens : ts ++ vs ++ [Token.opening] ++ us ++ [Token.closing]
                = ts ++ (vs ++ (Token.opening :: us ++ [Token.closing])) := by
              simp
            rw [htokens]
            exact .mk hopen (.link hgroup)
      · split at hstep
        · cases hstep
        · next op hop =>
            cases hstep
            rw [List.append_assoc]
            exact .mk hopen (.term (.operator hlist hop))

/-- **What is read is written**, by the tokens so far and those that are left. -/
lemma Reads.takeAll {ts us : List String} {r : Reading} {count : ℕ} {cs : List Clause} (h : Reads ts r)
    (hread : r.takeAll count us = .ok cs) : WritesList (ts ++ us) cs := by
  induction us generalizing ts r count with
  | nil =>
      obtain ⟨hopen, hinner⟩ := h
      rw [List.append_nil]
      cases hinner with
      | term _ => cases hread
      | comparator _ _ => cases hread
      | value _ _ _ _ => cases hread
      | link hlist =>
          cases hopen with
          | nil =>
              cases hread
              exact hlist
          | cons _ _ => cases hread
  | cons token us ih =>
      obtain ⟨r', hstep, hread⟩ := bind_eq_ok.mp hread
      cases hr : r.step token with
      | error fault =>
          rw [hr] at hstep
          cases hstep
      | ok q =>
          rw [hr] at hstep
          cases hstep
          have hrest := ih (h.step hr) hread
          rwa [List.append_assoc, List.singleton_append] at hrest

/-- **The reading gives the clauses that the tokens write, and no others.** -/
theorem clausesOfTokens_eq_ok_iff {ts : List String} (hts : ts ≠ []) (cs : List Clause) :
    clausesOfTokens ts = .ok cs ↔ WritesList ts cs := by
  constructor
  · intro h
    obtain ⟨token, rest, rfl⟩ := List.exists_cons_of_ne_nil hts
    exact Reads.takeAll (.mk .nil (.term .start)) h
  · exact WritesList.clausesOfTokens

/-- **The arguments are read by the grammar.** If they have tokens at all, the clauses that are read are those that the
tokens write. A descent along the grammar gives the same, with the same faults, and leaves no token; and tokens write
one list of clauses at most. -/
theorem clausesOf_eq_ok_iff {args : List String} (hargs : Token.ofArguments args ≠ []) :
    (∀ cs, clausesOf args = .ok cs ↔ WritesList (Token.ofArguments args) cs)
      ∧ Descent.clausesOf (Token.ofArguments args) = (clausesOf args).mapError Descent.Failure.reading
      ∧ (∀ found position,
          Descent.clausesOf (Token.ofArguments args) ≠ .error (.unexpected found position))
      ∧ ∀ ts cs cs', WritesList ts cs → WritesList ts cs' → cs = cs' := by
  refine ⟨clausesOfTokens_eq_ok_iff hargs, Descent.clausesOf_eq _, Descent.clausesOf_ne_unexpected _, ?_⟩
  intro ts cs cs' h h'
  have hread := h.clausesOfTokens
  rw [h'.clausesOfTokens, Except.ok.injEq] at hread
  exact hread.symm

/-- The word for an operator is a value between parentheses that are glued to their neighbours. -/
theorem clausesOf_eq_ok_iff_group :
    WritesList ["(", "a", "eq", "or", ")"] [.group .or [.restriction .or ⟨"a", .eq, some (.text "or")⟩]] :=
  ((@clausesOf_eq_ok_iff ["(a", "eq", "or)"] (by decide)).1 _).mp rfl

end MonitorQuery.Query
