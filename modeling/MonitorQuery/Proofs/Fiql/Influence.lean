import MonitorQuery.Proofs.Fiql.Rejections
import MonitorQuery.Proofs.Request.Agreement
import MonitorQuery.Request.Compile

/-!
What a search shows of a filter and of the properties.

The terms of a filter are written one after the other. What is known of the properties is looked at where a null is written, and
the operator of a clause where its term is not the first. Here two runs of the compiler are compared: on filters that are the same
but for operators, and with any two lists of properties. Where their texts are different at all, they are different first at an
operator or at the beginning of a null. So if two terms begin the same text, the text goes on alike behind them.

* `Clause.Corresponds`, `Correspond`, `CorrespondBehind`: clauses that are the same but for operators. Those of clauses behind a
  first one are related, and those of first clauses are not looked at.
* `TypeNullsAlike`: properties that agree on the nulls that are asked for. `valueText_congr` and `valueText_append` are one value.
* `term_congr`, `followers_congr`: clauses that agree in the operators behind a first one and in the nulls have the same terms, or
  fail alike.
* `of_term_append`, `of_followers_append`: **terms that begin the same text agree in both**, by induction over the clauses.
* `compile_eq_of_sameButFirst`: **of the operators, those of first clauses alone do not show.**
* `compile_eq_iff_typeNullsAlike`: **properties show in nothing but nulls.**
-/

namespace MonitorQuery.Query

/-! ### Clauses that are the same but for operators -/

section Correspondence

mutual

/-- Clauses that are the same but for operators. Their own operators are not looked at. -/
inductive Clause.Corresponds (R : Operator → Operator → Prop) : Clause → Clause → Prop
  | restriction (op op' : Operator) (r : Restriction) :
      Clause.Corresponds R (.restriction op r) (.restriction op' r)
  | group (op op' : Operator) {cs ds : List Clause} (h : Correspond R cs ds) :
      Clause.Corresponds R (.group op cs) (.group op' ds)

/-- Lists of clauses that are the same but for operators. Those of the first clauses are not looked at. -/
inductive Correspond (R : Operator → Operator → Prop) : List Clause → List Clause → Prop
  | nil : Correspond R [] []
  | cons {c d : Clause} {cs ds : List Clause} (h : c.Corresponds R d) (hrest : CorrespondBehind R cs ds) :
      Correspond R (c :: cs) (d :: ds)

/-- Clauses behind a first one that are the same but for operators. Their own operators are related. -/
inductive CorrespondBehind (R : Operator → Operator → Prop) : List Clause → List Clause → Prop
  | nil : CorrespondBehind R [] []
  | cons {c d : Clause} {cs ds : List Clause} (hop : R c.operator d.operator) (h : c.Corresponds R d)
      (hrest : CorrespondBehind R cs ds) : CorrespondBehind R (c :: cs) (d :: ds)

end

/-- The lists are the same except for the operators of first clauses, at any depth. -/
def SameButFirst : List Clause → List Clause → Prop := Correspond (· = ·)

/-- The lists are the same except for operators, at any depth. -/
def SameButOperators : List Clause → List Clause → Prop := Correspond fun _ _ => True

variable {R : Operator → Operator → Prop}

mutual

lemma Clause.Corresponds.refl (hR : ∀ op, R op op) : ∀ c : Clause, c.Corresponds R c
  | .restriction op r => .restriction op op r
  | .group op cs => .group op op (Correspond.refl hR cs)

lemma Correspond.refl (hR : ∀ op, R op op) : ∀ cs : List Clause, Correspond R cs cs
  | [] => .nil
  | c :: cs => .cons (Clause.Corresponds.refl hR c) (CorrespondBehind.refl hR cs)

lemma CorrespondBehind.refl (hR : ∀ op, R op op) : ∀ cs : List Clause, CorrespondBehind R cs cs
  | [] => .nil
  | c :: cs => .cons (hR _) (Clause.Corresponds.refl hR c) (CorrespondBehind.refl hR cs)

end

end Correspondence

/-- Filters that are the same but for operators. -/
structure Filter.Corresponds (R : Operator → Operator → Prop) (f g : Filter) : Prop where
  limit : f.limit = g.limit
  clauses : Correspond R f.clauses g.clauses
  sortKeys : f.sortKeys = g.sortKeys

/-- The filters are the same except for the operators of first clauses, at any depth. -/
def Filter.SameButFirst (f g : Filter) : Prop := f.Corresponds (· = ·) g

/-- The filters are the same except for operators, at any depth. -/
def Filter.SameButOperators (f g : Filter) : Prop := f.Corresponds (fun _ _ => True) g

end MonitorQuery.Query

namespace MonitorQuery.Request.Fiql

open MonitorQuery.Query

variable {P Q : List Property}

/-! ### Where properties show -/

/-- The first property with the name of the attribute is a timestamp. -/
def IsTimestamp (properties : List Property) (attr : String) : Prop :=
  (Property.find? properties attr).map (·.type) = some .timestamp

/-- The restriction compares with nothing, or with the word `null`. -/
def AsksForTypedNull (r : Restriction) : Prop :=
  r.comparator.isNullCheck = false ∧ (r.value = none ∨ r.value = some (.text "null"))

/-- The properties type the nulls alike that the restrictions ask for. -/
def TypeNullsAlike (P Q : List Property) (rs : List Restriction) : Prop :=
  ∀ r ∈ rs, AsksForTypedNull r → (IsTimestamp P r.attr ↔ IsTimestamp Q r.attr)

instance (properties : List Property) : DecidablePred (IsTimestamp properties) := fun _ =>
  inferInstanceAs (Decidable (_ = _))

instance : DecidablePred AsksForTypedNull := fun _ => inferInstanceAs (Decidable (_ ∧ _))

instance (P Q : List Property) : DecidablePred (TypeNullsAlike P Q) := fun rs =>
  inferInstanceAs (Decidable (∀ r ∈ rs, AsksForTypedNull r → (IsTimestamp P r.attr ↔ IsTimestamp Q r.attr)))

/-- Where no typed null is asked for, the properties are not looked at. -/
lemma valueText_of_not_asksForTypedNull {r : Restriction} (h : ¬ AsksForTypedNull r) : valueText P r = valueText Q r := by
  rw [valueText, valueText]
  cases hcheck : r.comparator.isNullCheck with
  | true => rfl
  | false =>
      have hnull : ¬ (r.value = none ∨ r.value = some (.text "null")) := fun hnull => h ⟨hcheck, hnull⟩
      cases hvalue : r.value with
      | none => exact absurd (.inl hvalue) hnull
      | some v =>
          have hword : v.isNullWord = false := by
            by_contra hword
            rw [Bool.not_eq_false, Value.isNullWord_iff] at hword
            exact hnull (.inr (hword ▸ hvalue))
          simp [hword]

/-- The two placeholders do not begin alike. -/
lemma nullValue_append_ne (xs ys : List Char) : nullValue.toList ++ xs ≠ (Text.Percent.encode nullDate).toList ++ ys := by
  have hnull : nullValue.toList.head? = some '\x00' := by decide
  have hdate : (Text.Percent.encode nullDate).toList.head? = some '1' := by decide
  intro h
  have hhead := congrArg List.head? h
  rw [List.head?_append, List.head?_append, hnull, hdate, Option.some_or, Option.some_or] at hhead
  exact absurd hhead (by decide)

lemma typedNull_of_isTimestamp {attr : String} (h : IsTimestamp P attr) :
    typedNull P attr = Text.Percent.encode nullDate := if_pos h

lemma typedNull_of_not_isTimestamp {attr : String} (h : ¬ IsTimestamp P attr) : typedNull P attr = nullValue := if_neg h

/-- **Two nulls of an attribute that begin the same text** are both for a timestamp, or neither is. -/
lemma typedNull_append {attr : String} {xs ys : List Char}
    (h : (typedNull P attr).toList ++ xs = (typedNull Q attr).toList ++ ys) :
    (IsTimestamp P attr ↔ IsTimestamp Q attr) ∧ xs = ys := by
  by_cases hP : IsTimestamp P attr <;> by_cases hQ : IsTimestamp Q attr
  · rw [typedNull_of_isTimestamp hP, typedNull_of_isTimestamp hQ] at h
    exact ⟨iff_of_true hP hQ, List.append_cancel_left h⟩
  · rw [typedNull_of_isTimestamp hP, typedNull_of_not_isTimestamp hQ] at h
    exact absurd h.symm (nullValue_append_ne _ _)
  · rw [typedNull_of_not_isTimestamp hP, typedNull_of_isTimestamp hQ] at h
    exact absurd h (nullValue_append_ne _ _)
  · rw [typedNull_of_not_isTimestamp hP, typedNull_of_not_isTimestamp hQ] at h
    exact ⟨iff_of_false hP hQ, List.append_cancel_left h⟩

lemma typedNull_congr {attr : String} (h : IsTimestamp P attr ↔ IsTimestamp Q attr) : typedNull P attr = typedNull Q attr :=
  if_congr h rfl rfl

lemma valueText_of_asksForTypedNull {r : Restriction} (h : AsksForTypedNull r) : valueText P r = typedNull P r.attr :=
  valueText_of_null P h.1 h.2

/-- **Two values that begin the same text are typed alike**, and the text goes on alike behind them. -/
lemma valueText_append {r : Restriction} {xs ys : List Char}
    (h : (valueText P r).toList ++ xs = (valueText Q r).toList ++ ys) :
    (AsksForTypedNull r → (IsTimestamp P r.attr ↔ IsTimestamp Q r.attr)) ∧ xs = ys := by
  by_cases hasks : AsksForTypedNull r
  · rw [valueText_of_asksForTypedNull hasks, valueText_of_asksForTypedNull hasks] at h
    obtain ⟨htype, hrest⟩ := typedNull_append h
    exact ⟨fun _ => htype, hrest⟩
  · rw [valueText_of_not_asksForTypedNull (Q := Q) hasks] at h
    exact ⟨fun hasks' => absurd hasks' hasks, List.append_cancel_left h⟩

/-- **Properties show in a value only where the null of an attribute is asked for.** -/
lemma valueText_congr {r : Restriction} (h : AsksForTypedNull r → (IsTimestamp P r.attr ↔ IsTimestamp Q r.attr)) :
    valueText P r = valueText Q r := by
  by_cases hasks : AsksForTypedNull r
  · rw [valueText_of_asksForTypedNull hasks, valueText_of_asksForTypedNull hasks, typedNull_congr (h hasks)]
  · exact valueText_of_not_asksForTypedNull hasks

namespace TypeNullsAlike

lemma refl (P : List Property) (rs : List Restriction) : TypeNullsAlike P P rs := fun _ _ _ => Iff.rfl

lemma nil : TypeNullsAlike P Q [] := List.forall_mem_nil _

lemma append_iff {rs qs : List Restriction} :
    TypeNullsAlike P Q (rs ++ qs) ↔ TypeNullsAlike P Q rs ∧ TypeNullsAlike P Q qs :=
  List.forall_mem_append

end TypeNullsAlike

/-! ### Two runs of the compiler -/

mutual

/-- Clauses that agree in nulls, and in the operators behind first clauses, have the same term, or fail alike. -/
lemma term_congr : ∀ {c d : Clause}, c.Corresponds (· = ·) d → TypeNullsAlike P Q c.restrictions → term P c = term Q d
  | .restriction _ r, _, .restriction _ _ _, hnulls => by
      have hvalue : valueText P r = valueText Q r := valueText_congr (hnulls r (List.mem_singleton_self r))
      rw [term, term, restrictionTerm, restrictionTerm, hvalue]
  | .group _ [], _, .group _ _ .nil, _ => rfl
  | .group _ (c :: cs), _, .group _ _ (.cons h hrest), hnulls => by
      obtain ⟨hfirst, hlinks⟩ := TypeNullsAlike.append_iff.mp hnulls
      rw [term, term, term_congr h hfirst, followers_congr hrest hlinks]

/-- Clauses behind a first one that agree in operators and in nulls have the same terms, or fail alike. -/
lemma followers_congr : ∀ {cs ds : List Clause}, CorrespondBehind (· = ·) cs ds → TypeNullsAlike P Q (restrictionsOf cs) →
    followers P cs = followers Q ds
  | [], _, .nil, _ => rfl
  | c :: cs, _, .cons hop h hrest, hnulls => by
      obtain ⟨hfirst, hlinks⟩ := TypeNullsAlike.append_iff.mp hnulls
      rw [followers, followers, hop, term_congr h hfirst, followers_congr hrest hlinks]

end

lemma expression_congr {cs ds : List Clause} (h : SameButFirst cs ds) (hnulls : TypeNullsAlike P Q (restrictionsOf cs)) :
    expression P cs = expression Q ds := by
  cases h with
  | nil => rfl
  | cons h hrest =>
      obtain ⟨hfirst, hlinks⟩ := TypeNullsAlike.append_iff.mp hnulls
      rw [expression, expression, term_congr h hfirst, followers_congr hrest hlinks]

/-! ### Texts that begin alike -/

section Inversion

variable {s : String}

lemma exists_sign_of_restrictionTerm {r : Restriction} (h : restrictionTerm P r = .ok s) :
    ∃ sign, signOf r.comparator = .ok sign ∧ s.toList = r.attr.toList ++ sign.toList ++ (valueText P r).toList := by
  obtain ⟨-, -, h⟩ := bind_eq_ok.mp h
  obtain ⟨sign, hsign, h⟩ := bind_eq_ok.mp h
  cases h
  exact ⟨sign, hsign, by rw [String.toList_append, String.toList_append]⟩

lemma exists_terms_of_term {op : Operator} {c : Clause} {cs : List Clause} (h : term P (.group op (c :: cs)) = .ok s) :
    ∃ first rest, term P c = .ok first ∧ followers P cs = .ok rest
      ∧ s.toList = '(' :: (first.toList ++ (rest.toList ++ [')'])) := by
  obtain ⟨first, hfirst, h⟩ := bind_eq_ok.mp h
  obtain ⟨rest, hrest, h⟩ := bind_eq_ok.mp h
  cases h
  exact ⟨first, rest, hfirst, hrest, by simp⟩

lemma exists_terms_of_followers {c : Clause} {cs : List Clause} (h : followers P (c :: cs) = .ok s) :
    ∃ first rest, term P c = .ok first ∧ followers P cs = .ok rest
      ∧ s.toList = c.operator.sign :: (first.toList ++ rest.toList) := by
  obtain ⟨first, hfirst, h⟩ := bind_eq_ok.mp h
  obtain ⟨rest, hrest, h⟩ := bind_eq_ok.mp h
  cases h
  exact ⟨first, rest, hfirst, hrest, by simp⟩

lemma exists_parts_of_expression {c : Clause} {cs : List Clause} (h : expression P (c :: cs) = .ok s) :
    ∃ first rest, term P c = .ok first ∧ followers P cs = .ok rest ∧ s.toList = first.toList ++ rest.toList := by
  obtain ⟨first, hfirst, h⟩ := bind_eq_ok.mp h
  obtain ⟨rest, hrest, h⟩ := bind_eq_ok.mp h
  cases h
  exact ⟨first, rest, hfirst, hrest, String.toList_append⟩

end Inversion

lemma sign_injective : Function.Injective Operator.sign := by
  intro op op' h
  cases op <;> cases op'
  case and.and | or.or => rfl
  all_goals exact absurd h (by decide)

mutual

/-- **Terms that begin the same text agree behind first clauses**, in operators and in nulls, and the text goes on alike. -/
lemma of_term_append : ∀ {c d : Clause}, c.Corresponds (fun _ _ => True) d → ∀ {s t : String} {xs ys : List Char},
    term P c = .ok s → term Q d = .ok t → s.toList ++ xs = t.toList ++ ys →
      c.Corresponds (· = ·) d ∧ TypeNullsAlike P Q c.restrictions ∧ xs = ys
  | .restriction _ r, _, .restriction _ _ _, s, t, xs, ys, hs, ht, htext => by
      obtain ⟨sign, hsign, hs⟩ := exists_sign_of_restrictionTerm hs
      obtain ⟨sign', hsign', ht⟩ := exists_sign_of_restrictionTerm ht
      -- attribute and sign are the same in both runs, so the texts begin to differ with the value
      obtain rfl : sign = sign' := Except.ok.inj (hsign.symm.trans hsign')
      rw [hs, ht, List.append_assoc, List.append_assoc _ _ ys, List.append_cancel_left_eq] at htext
      obtain ⟨hnull, hrest⟩ := valueText_append htext
      exact ⟨.restriction _ _ _, fun q hq => List.mem_singleton.mp hq ▸ hnull, hrest⟩
  | .group _ [], _, .group _ _ .nil, _, _, _, _, hs, _, _ => by cases hs
  | .group _ (c :: cs), _, .group _ _ (.cons h hrest), s, t, xs, ys, hs, ht, htext => by
      obtain ⟨first, rest, hfirst, hfollow, hs⟩ := exists_terms_of_term hs
      obtain ⟨first', rest', hfirst', hfollow', ht⟩ := exists_terms_of_term ht
      -- the operator of the group itself is not in its term, nor is that of the first clause in it
      rw [hs, ht, List.cons_append, List.cons_append, List.append_assoc, List.append_assoc _ _ ys] at htext
      obtain ⟨hfirst, hnull, htext⟩ := of_term_append h hfirst hfirst' (List.cons.inj htext).2
      rw [List.append_assoc, List.append_assoc _ _ ys] at htext
      obtain ⟨hlinks, hnulls, htext⟩ := of_followers_append hrest hfollow hfollow' htext
      exact ⟨.group _ _ (.cons hfirst hlinks), TypeNullsAlike.append_iff.mpr ⟨hnull, hnulls⟩, (List.cons.inj htext).2⟩

/-- **Further terms that begin the same text agree**, in operators and in nulls, and the text goes on alike. -/
lemma of_followers_append : ∀ {cs ds : List Clause}, CorrespondBehind (fun _ _ => True) cs ds →
    ∀ {s t : String} {xs ys : List Char}, followers P cs = .ok s → followers Q ds = .ok t →
      s.toList ++ xs = t.toList ++ ys →
      CorrespondBehind (· = ·) cs ds ∧ TypeNullsAlike P Q (restrictionsOf cs) ∧ xs = ys
  | [], _, .nil, s, t, xs, ys, hs, ht, htext => by
      cases hs
      cases ht
      exact ⟨.nil, .nil, htext⟩
  | c :: cs, _, .cons _ h hrest, s, t, xs, ys, hs, ht, htext => by
      obtain ⟨first, rest, hfirst, hfollow, hs⟩ := exists_terms_of_followers hs
      obtain ⟨first', rest', hfirst', hfollow', ht⟩ := exists_terms_of_followers ht
      rw [hs, ht, List.cons_append, List.cons_append, List.append_assoc, List.append_assoc _ _ ys] at htext
      -- the operator is the first character of what is written for a clause behind another
      obtain ⟨hsign, htext⟩ := List.cons.inj htext
      obtain ⟨hfirst, hnull, htext⟩ := of_term_append h hfirst hfirst' htext
      obtain ⟨hlinks, hnulls, htext⟩ := of_followers_append hrest hfollow hfollow' htext
      exact ⟨.cons (sign_injective hsign) hfirst hlinks, TypeNullsAlike.append_iff.mpr ⟨hnull, hnulls⟩, htext⟩

end

/-- **Searches with the same text agree**, in the operators behind first clauses and in the nulls. -/
lemma of_expression_eq {cs ds : List Clause} (h : SameButOperators cs ds) {s : String} (hs : expression P cs = .ok s)
    (ht : expression Q ds = .ok s) : SameButFirst cs ds ∧ TypeNullsAlike P Q (restrictionsOf cs) := by
  cases h with
  | nil => exact ⟨.nil, .nil⟩
  | cons h hrest =>
      obtain ⟨first, rest, hfirst, hfollow, hs⟩ := exists_parts_of_expression hs
      obtain ⟨first', rest', hfirst', hfollow', ht⟩ := exists_parts_of_expression ht
      obtain ⟨hfirst, hnull, htext⟩ := of_term_append h hfirst hfirst' (hs.symm.trans ht)
      have hends : rest.toList ++ [] = rest'.toList ++ [] := by rw [htext]
      obtain ⟨hlinks, hnulls, -⟩ := of_followers_append hrest hfollow hfollow' hends
      exact ⟨.cons hfirst hlinks, TypeNullsAlike.append_iff.mpr ⟨hnull, hnulls⟩⟩

/-! ### Two requests -/

/-- Requests that are the same have the same search. -/
lemma exists_expression_of_compile {f g : Filter} {p : Params} (hf : compile P f = .ok p) (hg : compile Q g = .ok p) :
    ∃ s, expression P f.clauses = .ok s ∧ expression Q g.clauses = .ok s := by
  obtain ⟨s, hs, hsearch⟩ := getAll_searchKey_of_compile hf
  obtain ⟨t, ht, hsearch'⟩ := getAll_searchKey_of_compile hg
  rw [hsearch] at hsearch'
  refine ⟨s, hs, ?_⟩
  split_ifs at hsearch' with hempty hempty'
  · rw [String.isEmpty_iff] at hempty hempty'
    rwa [hempty, ← hempty']
  · rw [List.cons.inj hsearch' |>.1]
    exact ht

/-- Requests are the same, or fail alike, if their searches do and all else is the same. -/
lemma compile_congr {f g : Filter} (h : f.SameButFirst g) (hnulls : TypeNullsAlike P Q (restrictionsOf f.clauses)) :
    compile P f = compile Q g := by
  rw [compile, compile, expression_congr h.clauses hnulls, h.limit, h.sortKeys]

/-- **Of the operators, those of first clauses alone do not show.** Take two filters that are the same except for the operators of
first clauses, at the top and in groups at any depth. Whatever the properties, they have the same request, or are rejected for the
same reason. And no other operator is like those: where two filters are the same except for operators, and both are accepted with
the same request, only operators of first clauses are different. -/
theorem compile_eq_of_sameButFirst (properties : List Property) (f g : Filter) :
    (f.SameButFirst g → compile properties f = compile properties g)
      ∧ (f.SameButOperators g → ∀ p, compile properties f = .ok p → compile properties g = .ok p → f.SameButFirst g) := by
  constructor
  · intro h
    exact compile_congr h (.refl properties _)
  · intro h p hf hg
    obtain ⟨s, hs, ht⟩ := exists_expression_of_compile hf hg
    exact ⟨h.limit, (of_expression_eq h.clauses hs ht).1, h.sortKeys⟩

/-- A restriction and a group behind it: the operators of the restriction, of the group, and of the first restriction in it. -/
def behindFirst (first behind inner : Operator) : Filter where
  clauses :=
    [.restriction first ⟨"id", .ne, some (.integer 0)⟩,
      .group behind [.restriction inner ⟨"severity", .eq, some (.integer 5)⟩, .restriction .or ⟨"uei", .like, none⟩]]

theorem compile_eq_of_sameButFirst_group :
    (behindFirst .and .and .or).SameButFirst (behindFirst .or .and .and)
      ∧ compile [] (behindFirst .and .and .or) = compile [] (behindFirst .or .and .and)
      ∧ (compile [] (behindFirst .and .and .or)).map (·.getAll searchKey) = .ok ["id!=0;(severity==5,uei==\x00)"]
      ∧ compile [] (behindFirst .and .and .or) ≠ compile [] (behindFirst .and .or .or) := by
  have hgroup : SameButFirst
      [.restriction .or ⟨"severity", .eq, some (.integer 5)⟩, .restriction .or ⟨"uei", .like, none⟩]
      [.restriction .and ⟨"severity", .eq, some (.integer 5)⟩, .restriction .or ⟨"uei", .like, none⟩] :=
    .cons (.restriction _ _ _) (.cons rfl (.restriction _ _ _) .nil)
  have hsame : (behindFirst .and .and .or).SameButFirst (behindFirst .or .and .and) :=
    ⟨rfl, .cons (.restriction _ _ _) (.cons rfl (.group _ _ hgroup) .nil), rfl⟩
  have hbehind : (behindFirst .and .and .or).SameButOperators (behindFirst .and .or .or) :=
    ⟨rfl, .cons (.restriction _ _ _) (.cons trivial (.group _ _ (Correspond.refl (fun _ => trivial) _)) .nil), rfl⟩
  refine ⟨hsame, (compile_eq_of_sameButFirst [] _ _).1 hsame, by decide, fun heq => ?_⟩
  obtain ⟨p, hp⟩ : ∃ p, compile [] (behindFirst .and .and .or) = .ok p := ⟨_, rfl⟩
  have hfirst := ((compile_eq_of_sameButFirst [] _ _).2 hbehind p hp (heq.symm.trans hp)).clauses
  -- the group is the second clause, and its operator is not the same in both
  cases hfirst with
  | cons _ hrest =>
      cases hrest with
      | cons hop _ _ => exact absurd hop (by decide)

end MonitorQuery.Request.Fiql

namespace MonitorQuery.Request

open MonitorQuery.Query

/-- **Properties show in nothing but nulls.** Take any filter and any two lists of properties. With both the second interface gives
the same request, or the same rejection, exactly if the filter is rejected or the lists agree, for every restriction in it that
asks for the null of its attribute, whether the first property with that name is a timestamp. Whether the filter is accepted, and
why not, does not depend on the properties at all. And the first interface does not look at them. -/
theorem compile_eq_iff_typeNullsAlike (f : Filter) (P Q : List Property) :
    (compile .v2 P f = compile .v2 Q f
        ↔ (∃ e, compile .v2 P f = .error e) ∨ Fiql.TypeNullsAlike P Q (restrictionsOf f.clauses))
      ∧ ((∃ p, compile .v2 P f = .ok p) ↔ ∃ q, compile .v2 Q f = .ok q)
      ∧ (∀ e, compile .v2 P f = .error e ↔ compile .v2 Q f = .error e)
      ∧ compile .v1 P f = compile .v1 Q f := by
  have hfailure : failure? (compile .v2 P f) = failure? (compile .v2 Q f) :=
    (Fiql.failure?_compile P f).trans (Fiql.failure?_compile Q f).symm
  have herror : ∀ e, compile .v2 P f = .error e ↔ compile .v2 Q f = .error e := by
    intro e
    rw [← failure?_eq_some_iff, ← failure?_eq_some_iff, hfailure]
  refine ⟨⟨fun heq => ?_, ?_⟩, ?_, herror, rfl⟩
  · cases hP : compile .v2 P f with
    | error e => exact .inl ⟨e, rfl⟩
    | ok p =>
        obtain ⟨s, hs, ht⟩ := Fiql.exists_expression_of_compile hP (heq.symm.trans hP)
        have hsame : SameButOperators f.clauses f.clauses := Correspond.refl (fun _ => trivial) _
        exact .inr (Fiql.of_expression_eq hsame hs ht).2
  · rintro (⟨e, he⟩ | hnulls)
    · exact he.trans ((herror e).mp he).symm
    · exact Fiql.compile_congr ⟨rfl, Correspond.refl (fun _ => rfl) _, rfl⟩ hnulls
  · rw [← failure?_eq_none_iff, ← failure?_eq_none_iff, hfailure]

/-- A null in a group, and a value that is none. -/
def nullsInGroup : Filter where
  clauses :=
    [.restriction .or ⟨"id", .gt, some (.integer 7)⟩,
      .group .and [.restriction .or ⟨"time", .eq, some (.text "null")⟩, .restriction .or ⟨"time", .null, none⟩]]

/-- A second property of the same name has no say, nor has the type of an attribute that is compared with a value. -/
theorem compile_eq_iff_typeNullsAlike_group :
    let time : List Property := [⟨"time", "Last event", true, .timestamp, []⟩]
    let other : List Property := [⟨"id", "Number", true, .timestamp, []⟩, ⟨"time", "", false, .timestamp, []⟩,
      ⟨"time", "Text", true, .string, []⟩]
    compile .v2 time nullsInGroup = compile .v2 other nullsInGroup
      ∧ compile .v2 time nullsInGroup ≠ compile .v2 other.reverse nullsInGroup := by
  refine ⟨(compile_eq_iff_typeNullsAlike _ _ _).1.mpr (.inr (by decide)), fun heq => ?_⟩
  obtain ⟨e, he⟩ | hnulls := (compile_eq_iff_typeNullsAlike _ _ _).1.mp heq
  · cases he
  · exact absurd hnulls (by decide)

end MonitorQuery.Request
