import MonitorQuery.Proofs.Fiql.Decoder

/-!
The meaning of a filter and of its search text.

In a list of clauses an operator joins its clause to everything before it, so a list is folded from the left. In a search
text AND binds tighter than OR. The two readings of a list are one if and only if no AND stands behind an OR.

* `Join`: how the truth of a list comes from that of its members. `leftward` folds from the left; `tight` lets AND
  bind tighter.
* `truthOf`, `Term.truth`: the truth of a clause and of a term under an assignment to their leaves.
* `leftward_eq_tight`, `exists_views_ne`: the readings of a list without an AND behind an OR are the same, and with one
  they differ somewhere.
* `exists_views_of_mem`: **the truth of a member can be made the truth of its list**, in both readings at once.
* `Term.truth_eq_iff`: **the readings of a tree are one** exactly if no list in it has an AND behind an OR.
* `textTruth_eq_iff`: the compiler keeps the meaning of exactly these clauses.
-/

namespace MonitorQuery.Request.Fiql

open MonitorQuery.Query

/-! ### Joined truth values -/

/-- The truth of a list, from that of its first member and those of the others behind their operators. -/
abbrev Join : Type := Bool → List (Operator × Bool) → Bool

/-- An operator joins its member to everything before it. -/
def leftward : Join
  | b, [] => b
  | b, (.and, x) :: ms => leftward (b && x) ms
  | b, (.or, x) :: ms => leftward (b || x) ms

/-- AND binds tighter than OR: a list is true if one of its runs between two ORs is true throughout. -/
def tight : Join
  | b, [] => b
  | b, (.and, x) :: ms => tight (b && x) ms
  | b, (.or, x) :: ms => b || tight x ms

/-- No AND stands behind an OR. -/
def AndsLead (ops : List Operator) : Prop := ops.Pairwise fun op op' => op = .or → op' = .or

instance : DecidablePred AndsLead := fun ops =>
  inferInstanceAs (Decidable (ops.Pairwise fun op op' => op = .or → op' = .or))

/-- What the two readings have in common: members that have no say, and lists of a single truth value. -/
structure Join.IsNatural (J : Join) : Prop where
  and_true (b : Bool) (ms : List (Operator × Bool)) : J b ((.and, true) :: ms) = J b ms
  true_and (b : Bool) (ms : List (Operator × Bool)) : J true ((.and, b) :: ms) = J b ms
  false_or (b : Bool) (ms : List (Operator × Bool)) : J false ((.or, b) :: ms) = J b ms
  uniform {b : Bool} {ms : List (Operator × Bool)} : (∀ m ∈ ms, m.2 = b) → J b ms = b
  neutral {b : Bool} {ms : List (Operator × Bool)} : (∀ m ∈ ms, m.2 = decide (m.1 = .and)) → J b ms = b

lemma isNatural_leftward : Join.IsNatural leftward where
  and_true b ms := by rw [leftward, Bool.and_true]
  true_and b ms := by rw [leftward, Bool.true_and]
  false_or b ms := by rw [leftward, Bool.false_or]
  uniform {b ms} h := by
    induction ms with
    | nil => rfl
    | cons m ms ih =>
        obtain ⟨op, x⟩ := m
        obtain rfl : x = b := h (op, x) (by simp)
        cases op <;> simpa [leftward] using ih fun m hm => h m (by simp [hm])
  neutral {b ms} h := by
    induction ms with
    | nil => rfl
    | cons m ms ih =>
        obtain ⟨op, x⟩ := m
        obtain rfl : x = decide (op = .and) := h (op, x) (by simp)
        cases op <;> simpa [leftward] using ih fun m hm => h m (by simp [hm])

lemma isNatural_tight : Join.IsNatural tight where
  and_true b ms := by rw [tight, Bool.and_true]
  true_and b ms := by rw [tight, Bool.true_and]
  false_or b ms := by rw [tight, Bool.false_or]
  uniform {b ms} h := by
    induction ms with
    | nil => rfl
    | cons m ms ih =>
        obtain ⟨op, x⟩ := m
        obtain rfl : x = b := h (op, x) (by simp)
        have hrest := ih fun m hm => h m (by simp [hm])
        cases op <;> simp [tight, hrest]
  neutral {b ms} h := by
    induction ms generalizing b with
    | nil => rfl
    | cons m ms ih =>
        obtain ⟨op, x⟩ := m
        obtain rfl : x = decide (op = .and) := h (op, x) (by simp)
        have hrest : ∀ {b : Bool}, tight b ms = b := ih fun m hm => h m (by simp [hm])
        cases op <;> simp [tight, hrest]

/-- Behind an OR there is nothing but ORs, and both readings ask for one true member. -/
lemma leftward_eq_tight_of_or {ms : List (Operator × Bool)} (h : ∀ m ∈ ms, m.1 = .or) (b : Bool) :
    leftward b ms = (b || tight false ms) := by
  induction ms generalizing b with
  | nil => simp [leftward, tight]
  | cons m ms ih =>
      obtain ⟨op, x⟩ := m
      obtain rfl : op = .or := h (op, x) (by simp)
      have hrest := ih fun m hm => h m (by simp [hm])
      have htight : tight x ms = (x || tight false ms) := by
        cases ms with
        | nil => simp [tight]
        | cons m ms =>
            obtain ⟨op, y⟩ := m
            obtain rfl : op = .or := h (op, y) (by simp)
            simp [tight]
      rw [leftward, hrest, tight, Bool.false_or, htight, Bool.or_assoc]

/-- **The readings of a list without an AND behind an OR are the same.** -/
lemma leftward_eq_tight {ms : List (Operator × Bool)} (h : AndsLead (ms.map Prod.fst)) (b : Bool) :
    leftward b ms = tight b ms := by
  induction ms generalizing b with
  | nil => rfl
  | cons m ms ih =>
      obtain ⟨op, x⟩ := m
      obtain ⟨hop, hrest⟩ := List.pairwise_cons.mp h
      cases op with
      | and => exact ih hrest (b && x)
      | or =>
          have hors : ∀ m ∈ ms, m.1 = .or := fun m hm => hop m.1 (List.mem_map_of_mem hm) rfl
          rw [leftward, tight, ← ih hrest x, leftward_eq_tight_of_or hors, leftward_eq_tight_of_or hors,
            Bool.or_assoc]

/-- Read from the left, a list of false members behind a true one is false once an AND has come. -/
lemma leftward_false {ms : List (Operator × Bool)} (hand : .and ∈ ms.map Prod.fst)
    (hfalse : ∀ m ∈ ms, m.2 = false) (b : Bool) : leftward b ms = false := by
  induction ms with
  | nil => exact absurd hand (by simp)
  | cons m ms ih =>
      obtain ⟨op, x⟩ := m
      obtain rfl : x = false := hfalse (op, x) (by simp)
      have hrest : ∀ m ∈ ms, m.2 = false := fun m hm => hfalse m (by simp [hm])
      cases op with
      | and => rw [leftward, Bool.and_false, isNatural_leftward.uniform hrest]
      | or =>
          rw [leftward, Bool.or_false]
          exact ih (by simpa using hand) hrest

/-! ### Trees under an assignment -/

/-- A truth value for every leaf. A leaf is known by its place: its position in the list on each level, from the outermost
inwards. -/
abbrev Assignment : Type := List ℕ → Bool

/-- An assignment, seen from a member of the outermost list. -/
def Assignment.at (σ : Assignment) (n : ℕ) : Assignment := fun place => σ (n :: place)

/-- The assignment with a given view from every member of the outermost list. -/
def Assignment.ofViews (τ : ℕ → Assignment) : Assignment
  | [] => false
  | n :: place => τ n place

/-- The views of a list, given that of its first member and those of the others. -/
def consView (σ : Assignment) (τ : ℕ → Assignment) : ℕ → Assignment
  | 0 => σ
  | n + 1 => τ n

/-- The assignment of one truth value to every leaf. -/
def Assignment.all (b : Bool) : Assignment := fun _ => b

mutual

/-- The truth of a term, with its lists read by `J`. -/
def Term.truth (J : Join) : Term → Assignment → Bool
  | .comparison _, σ => σ []
  | .group first links, σ => J (first.truth J (σ.at 0)) (linkTruths J links fun n => σ.at (n + 1))

/-- The truth values of terms behind their operators, each under a view of its own. -/
def linkTruths (J : Join) : List (Operator × Term) → (ℕ → Assignment) → List (Operator × Bool)
  | [], _ => []
  | (op, t) :: links, τ => (op, t.truth J (τ 0)) :: linkTruths J links fun n => τ (n + 1)

end

/-- The truth of a tree, with its lists read by `J`. -/
def Expression.truth (J : Join) (e : Expression) (σ : Assignment) : Bool :=
  J (e.first.truth J (σ.at 0)) (linkTruths J e.links fun n => σ.at (n + 1))

/-- The truth of a search text: that of its tree, where AND binds tighter than OR. -/
def textTruth (s : String) (σ : Assignment) : Option Bool := (decode s).map fun e => e.truth tight σ

@[simp] lemma linkTruths_consView (J : Join) (op : Operator) (t : Term) (links : List (Operator × Term))
    (σ : Assignment) (τ : ℕ → Assignment) :
    linkTruths J ((op, t) :: links) (consView σ τ) = (op, t.truth J σ) :: linkTruths J links τ := rfl

lemma map_fst_linkTruths (J : Join) (links : List (Operator × Term)) (τ : ℕ → Assignment) :
    (linkTruths J links τ).map Prod.fst = links.map Prod.fst := by
  induction links generalizing τ with
  | nil => rfl
  | cons link links ih => rw [linkTruths, List.map_cons, List.map_cons, ih]

mutual

/-- A term is as true as all of its leaves. -/
lemma Term.truth_all {J : Join} (hJ : J.IsNatural) (b : Bool) : ∀ t : Term, t.truth J (.all b) = b
  | .comparison _ => rfl
  | .group first links => by
      have hfirst := first.truth_all hJ b
      have hlinks := linkTruths_all hJ b links
      rw [Term.truth]
      show J (first.truth J (.all b)) (linkTruths J links fun _ => .all b) = b
      rw [hfirst]
      exact hJ.uniform hlinks

lemma linkTruths_all {J : Join} (hJ : J.IsNatural) (b : Bool) : ∀ links : List (Operator × Term),
    ∀ m ∈ linkTruths J links fun _ => .all b, m.2 = b
  | [] => by simp [linkTruths]
  | (op, t) :: links => by
      have ht := t.truth_all hJ b
      have hlinks := linkTruths_all hJ b links
      rw [linkTruths]
      rintro m (_ | ⟨_, hm⟩)
      · exact ht
      · exact hlinks m hm

end

lemma linkTruths_congr {J K : Join} {links : List (Operator × Term)}
    (h : ∀ link ∈ links, ∀ σ, link.2.truth J σ = link.2.truth K σ) (τ : ℕ → Assignment) :
    linkTruths J links τ = linkTruths K links τ := by
  induction links generalizing τ with
  | nil => rfl
  | cons link links ih =>
      obtain ⟨hlink, hlinks⟩ := List.forall_mem_cons.mp h
      rw [linkTruths, linkTruths, hlink, ih hlinks]

/-! ### Members that decide -/

/-- The views under which no member of a list has a say: a true one behind AND, a false one behind OR. -/
def neutralViews : List (Operator × Term) → ℕ → Assignment
  | [] => fun _ => .all false
  | (op, _) :: links => consView (.all (decide (op = .and))) (neutralViews links)

lemma linkTruths_neutralViews {J : Join} (hJ : J.IsNatural) (links : List (Operator × Term)) :
    ∀ m ∈ linkTruths J links (neutralViews links), m.2 = decide (m.1 = .and) := by
  induction links with
  | nil => simp [linkTruths]
  | cons link links ih =>
      obtain ⟨op, t⟩ := link
      rw [neutralViews, linkTruths_consView, t.truth_all hJ]
      rintro m (_ | ⟨_, hm⟩)
      · rfl
      · exact ih m hm

/-- **Every member of a list can decide it**, with the first member and the other ones set once for all readings. -/
lemma exists_views_of_mem {links : List (Operator × Term)} {op : Operator} {t : Term} (h : (op, t) ∈ links)
    (σ : Assignment) :
    ∃ (p : Bool) (τ : ℕ → Assignment), ∀ J : Join, J.IsNatural → J p (linkTruths J links τ) = t.truth J σ := by
  induction links with
  | nil => exact absurd h List.not_mem_nil
  | cons link links ih =>
      rcases List.mem_cons.mp h with rfl | h
      · refine ⟨decide (op = .and), consView σ (neutralViews links), fun J hJ => ?_⟩
        have hrest := linkTruths_neutralViews hJ links
        rw [linkTruths_consView]
        cases op with
        | and => exact (hJ.true_and _ _).trans (hJ.neutral hrest)
        | or => exact (hJ.false_or _ _).trans (hJ.neutral hrest)
      · obtain ⟨p, τ, hτ⟩ := ih h
        obtain ⟨op', t'⟩ := link
        cases op' with
        | and =>
            refine ⟨p, consView (.all true) τ, fun J hJ => ?_⟩
            rw [linkTruths_consView, t'.truth_all hJ, hJ.and_true, hτ J hJ]
        | or =>
            -- the list begins anew with a member that takes the place of the first
            refine ⟨false, consView (.all p) τ, fun J hJ => ?_⟩
            rw [linkTruths_consView, t'.truth_all hJ, hJ.false_or, hτ J hJ]

/-- **A list with an AND behind an OR has two readings.** -/
lemma exists_views_ne {links : List (Operator × Term)} (h : ¬ AndsLead (links.map Prod.fst)) :
    ∃ (p : Bool) (τ : ℕ → Assignment),
      leftward p (linkTruths leftward links τ) ≠ tight p (linkTruths tight links τ) := by
  induction links with
  | nil => exact absurd List.Pairwise.nil h
  | cons link links ih =>
      obtain ⟨op, t⟩ := link
      by_cases hrest : AndsLead (links.map Prod.fst)
      · obtain ⟨rfl, hand⟩ : op = .or ∧ .and ∈ links.map Prod.fst := by
          by_contra hnot
          refine h (List.pairwise_cons.mpr ⟨fun op' hop' hor => ?_, hrest⟩)
          cases op' with
          | and => exact absurd ⟨hor, hop'⟩ hnot
          | or => rfl
        -- the AND applies to the whole list or to its own run only
        refine ⟨true, fun _ => .all false, ?_⟩
        rw [linkTruths, linkTruths, leftward, tight, Bool.true_or, Bool.true_or, leftward_false]
        · exact Bool.false_ne_true
        · rw [map_fst_linkTruths]
          exact hand
        · exact linkTruths_all isNatural_leftward false links
      · obtain ⟨p, τ, hne⟩ := ih hrest
        cases op with
        | and =>
            refine ⟨p, consView (.all true) τ, ?_⟩
            rw [linkTruths_consView, linkTruths_consView, t.truth_all isNatural_leftward,
              t.truth_all isNatural_tight, isNatural_leftward.and_true, isNatural_tight.and_true]
            exact hne
        | or =>
            refine ⟨false, consView (.all p) τ, ?_⟩
            rw [linkTruths_consView, linkTruths_consView, t.truth_all isNatural_leftward,
              t.truth_all isNatural_tight, isNatural_leftward.false_or, isNatural_tight.false_or]
            exact hne

/-! ### Trees with one reading -/

mutual

/-- The operators of the lists of a term, at any depth. -/
def Term.operators : Term → List (List Operator)
  | .comparison _ => []
  | .group first links => links.map Prod.fst :: (first.operators ++ linkOperators links)

/-- The operators of the lists in terms behind their operators. -/
def linkOperators : List (Operator × Term) → List (List Operator)
  | [] => []
  | (_, t) :: links => t.operators ++ linkOperators links

end

mutual

/-- **The readings of a term are one** exactly if none of its lists has an AND behind an OR. -/
lemma Term.truth_eq_iff : ∀ t : Term,
    (∀ σ, t.truth leftward σ = t.truth tight σ) ↔ ∀ ops ∈ t.operators, AndsLead ops
  | .comparison _ => by simp [Term.truth, Term.operators]
  | .group first links => by
      have hfirst := first.truth_eq_iff
      have hlinks := linkTruths_eq_iff links
      rw [Term.operators, List.forall_mem_cons, List.forall_mem_append, ← hfirst, ← hlinks]
      constructor
      · intro h
        -- every choice of the first truth value and of the views of the others
        have hviews : ∀ (σ : Assignment) (τ : ℕ → Assignment),
            leftward (first.truth leftward σ) (linkTruths leftward links τ)
              = tight (first.truth tight σ) (linkTruths tight links τ) :=
          fun σ τ => h (.ofViews (consView σ τ))
        have hvalues : ∀ (p : Bool) (τ : ℕ → Assignment),
            leftward p (linkTruths leftward links τ) = tight p (linkTruths tight links τ) := by
          intro p τ
          have hp := hviews (.all p) τ
          rwa [first.truth_all isNatural_leftward, first.truth_all isNatural_tight] at hp
        refine ⟨?_, fun σ => ?_, fun link hlink σ => ?_⟩
        · by_contra hops
          obtain ⟨p, τ, hne⟩ := exists_views_ne hops
          exact hne (hvalues p τ)
        · have hσ := hviews σ (neutralViews links)
          rwa [isNatural_leftward.neutral (linkTruths_neutralViews isNatural_leftward links),
            isNatural_tight.neutral (linkTruths_neutralViews isNatural_tight links)] at hσ
        · obtain ⟨p, τ, hτ⟩ := exists_views_of_mem hlink σ
          rw [← hτ leftward isNatural_leftward, ← hτ tight isNatural_tight, hvalues]
      · rintro ⟨hops, hfirst, hlinks⟩ σ
        rw [Term.truth, Term.truth, hfirst, linkTruths_congr hlinks]
        exact leftward_eq_tight (by rwa [map_fst_linkTruths]) _

lemma linkTruths_eq_iff : ∀ links : List (Operator × Term),
    (∀ link ∈ links, ∀ σ, link.2.truth leftward σ = link.2.truth tight σ)
      ↔ ∀ ops ∈ linkOperators links, AndsLead ops
  | [] => by simp [linkOperators]
  | (op, t) :: links => by
      have ht := t.truth_eq_iff
      have hlinks := linkTruths_eq_iff links
      rw [linkOperators, List.forall_mem_cons, List.forall_mem_append, ← ht, ← hlinks]

end

/-! ### Clauses -/

mutual

/-- The truth of a clause: an operator joins its clause to everything before it in the same list, and that of a first
clause joins nothing. -/
def truthOf : Clause → Assignment → Bool
  | .restriction _ _, σ => σ []
  | .group _ [], _ => true
  | .group _ (c :: cs), σ => leftward (truthOf c (σ.at 0)) (truthsOf cs fun n => σ.at (n + 1))

/-- The truth values of clauses behind their operators, each under a view of its own. -/
def truthsOf : List Clause → (ℕ → Assignment) → List (Operator × Bool)
  | [], _ => []
  | c :: cs, τ => (c.operator, truthOf c (τ 0)) :: truthsOf cs fun n => τ (n + 1)

end

/-- The truth of a list of clauses. -/
def filterTruth (cs : List Clause) (σ : Assignment) : Bool := truthOf (.group .or cs) σ

mutual

/-- The operators of the lists in a clause, at any depth, but for those of first clauses. -/
def operatorsOf : Clause → List (List Operator)
  | .restriction _ _ => []
  | .group _ cs => cs.tail.map Clause.operator :: memberOperators cs

/-- The operators of the lists in clauses, at any depth. -/
def memberOperators : List Clause → List (List Operator)
  | [] => []
  | c :: cs => operatorsOf c ++ memberOperators cs

end

/-- The operators of a list of clauses and of the lists in it, but for those of first clauses. -/
def filterOperators (cs : List Clause) : List (List Operator) := operatorsOf (.group .or cs)

section Compiler

variable {P : List Property}

mutual

/-- A clause and its term have the same truth, and the same operators in their lists. -/
lemma of_termOfClause : ∀ {c : Clause} {t : Term}, Term.ofClause P c = .ok t →
    (∀ σ, t.truth leftward σ = truthOf c σ) ∧ t.operators = operatorsOf c
  | .restriction _ r, t, h => by
      obtain ⟨l, -, h⟩ := bind_eq_ok.mp h
      cases h
      exact ⟨fun _ => rfl, rfl⟩
  | .group _ [], t, h => by cases h
  | .group _ (c :: cs), t, h => by
      obtain ⟨first, links, hfirst, hlinks, rfl⟩ := Term.of_ofClause_group h
      obtain ⟨htruth, hops⟩ := of_termOfClause hfirst
      obtain ⟨htruths, hheads, hinner⟩ := of_linksOf hlinks
      constructor
      · intro σ
        rw [Term.truth, truthOf, htruth, htruths]
      · rw [Term.operators, operatorsOf, memberOperators, List.tail_cons, hheads, hops, hinner]

lemma of_linksOf : ∀ {cs : List Clause} {links : List (Operator × Term)}, linksOf P cs = .ok links →
    (∀ τ, linkTruths leftward links τ = truthsOf cs τ) ∧ links.map Prod.fst = cs.map Clause.operator
      ∧ linkOperators links = memberOperators cs
  | [], links, h => by
      cases h
      exact ⟨fun _ => rfl, rfl, rfl⟩
  | c :: cs, links, h => by
      obtain ⟨t, rest, ht, hrest, rfl⟩ := of_linksOf_cons h
      obtain ⟨htruth, hops⟩ := of_termOfClause ht
      obtain ⟨htruths, hheads, hinner⟩ := of_linksOf hrest
      refine ⟨fun τ => ?_, ?_, ?_⟩
      · rw [linkTruths, truthsOf, htruth, htruths]
      · rw [List.map_cons, List.map_cons, hheads]
      · rw [linkOperators, memberOperators, hops, hinner]

end

/-- **When compilation keeps the meaning.** The text that is compiled from clauses with plain attributes and balanced
values is as true as the clauses, under every assignment to the leaves, if and only if no AND stands behind an OR in any
list of clauses, first clauses not counted. -/
theorem textTruth_eq_iff {c : Clause} {cs : List Clause} {s : String} (h : expression P (c :: cs) = .ok s)
    (hplain : ∀ r ∈ restrictionsOf (c :: cs), IsPlain r.attr.toList)
    (hbalanced : ∀ r ∈ restrictionsOf (c :: cs), Balanced (valueText P r).toList) :
    (∀ σ, textTruth s σ = some (filterTruth (c :: cs) σ)) ↔ ∀ ops ∈ filterOperators (c :: cs), AndsLead ops := by
  obtain ⟨e, he, -, hdecode⟩ := decode_of_expression h hplain hbalanced
  obtain ⟨htruth, hops⟩ := of_termOfClause (Expression.ofClause_group .or he)
  rw [filterOperators, ← hops, ← Term.truth_eq_iff]
  refine forall_congr' fun σ => ?_
  rw [textTruth, hdecode, filterTruth, ← htruth, Option.map_some, Option.some.injEq]
  exact eq_comm

/-- A comparison of an attribute with the text `1`. -/
def one (op : Operator) (attr : String) : Clause := .restriction op ⟨attr, .eq, some (.text "1")⟩

/-- A group of ANDs and an OR behind it keep their meaning. -/
theorem textTruth_eq_iff_group :
    expression [] [.group .or [one .or "a", one .and "b"], one .or "c"] = .ok "(a==1;b==1),c==1"
      ∧ ∀ σ, textTruth "(a==1;b==1),c==1" σ
          = some (filterTruth [.group .or [one .or "a", one .and "b"], one .or "c"] σ) :=
  ⟨by decide, (textTruth_eq_iff (P := []) (by decide) (by decide) (by decide)).mpr (by decide)⟩

/-- **An AND behind an OR changes its meaning.** Of three clauses the last shall restrict both before it, and in the
text it restricts the second only. -/
theorem not_textTruth_eq_filterTruth :
    ¬ ∀ (P : List Property) (c : Clause) (cs : List Clause) (s : String), expression P (c :: cs) = .ok s →
      (∀ r ∈ restrictionsOf (c :: cs), IsPlain r.attr.toList) →
      (∀ r ∈ restrictionsOf (c :: cs), Balanced (valueText P r).toList) →
      ∀ σ, textTruth s σ = some (filterTruth (c :: cs) σ) := by
  intro h
  have hs : expression [] [one .or "a", one .or "b", one .and "c"] = .ok "a==1,b==1;c==1" := by decide
  obtain ⟨e, he, -, hdecode⟩ := decode_of_expression hs (by decide) (by decide)
  cases he
  -- the first clause holds and no other does
  have hfirst := h [] _ _ _ hs (by decide) (by decide) fun place => place = [0]
  rw [textTruth, hdecode] at hfirst
  exact absurd hfirst (by decide)

end Compiler

end MonitorQuery.Request.Fiql
