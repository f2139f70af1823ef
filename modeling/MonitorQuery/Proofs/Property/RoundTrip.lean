import MonitorQuery.Proofs.Json.Writing
import MonitorQuery.Property.Document

/-!
Documents of properties, written and read back.

A list of properties is written as an array of objects, and read from that or from an object that holds it as one of its members.
What else the object holds does not matter, as long as the text can be read as JSON at all.

* `addValues?_map`, `ofJson?_toJson`, `listOfJson?_map`: **a property is read back**, its allowed values in their order, and so
  is a list of them.
* `listed_proper`: what is written for a list of properties can be read as JSON.
* `HoldsOnce`: an object that names a member once, with the value it has; `documentOfJson?_of_holdsOnce`: the list is found in it.
* `ofDocument_listed`: **a list of properties is read back from both forms of a document.**
-/

namespace MonitorQuery.Property

open MonitorQuery.Json

/-! ### Values -/

/-- A new value is put behind those that are there. -/
lemma setLabel_of_notMem {value : String} (label : String) {values : List (String × String)}
    (h : value ∉ values.map (·.1)) : setLabel value label values = values ++ [(value, label)] := by
  induction values with
  | nil => rfl
  | cons e values ih =>
      obtain ⟨v, l⟩ := e
      rw [List.map_cons, List.mem_cons, not_or] at h
      rw [setLabel, if_neg (Ne.symm h.1), ih h.2, List.cons_append]

/-- Allowed values are read back in their order, behind those that are there, if no two are the same. -/
lemma addValues?_map (before values : List (String × String)) (h : ((before ++ values).map (·.1)).Nodup) :
    addValues? before (values.map fun (value, label) => (value, .string label)) = some (before ++ values) := by
  induction values generalizing before with
  | nil => rw [List.append_nil]; rfl
  | cons e values ih =>
      obtain ⟨value, label⟩ := e
      have hnew : value ∉ before.map (·.1) := by
        rw [List.map_append, List.map_cons, List.nodup_append] at h
        intro hmem
        exact h.2.2 value hmem value List.mem_cons_self rfl
      rw [List.append_cons] at h ⊢
      rw [List.map_cons, addValues?, setLabel_of_notMem label hnew, ih _ h]

/-- A type is read back from its name. -/
lemma ofJson?_label (t : PropertyType) : PropertyType.ofJson? (.string t.label) = some t := by
  cases t <;> decide

lemma valuesOfJson?_valuesToJson {values : List (String × String)} (h : (values.map (·.1)).Nodup) :
    valuesOfJson? (valuesToJson values) = some values :=
  addValues?_map [] values h

/-- **A property is read back from its object.** -/
lemma ofJson?_toJson {p : Property} (h : (p.values.map (·.1)).Nodup) : ofJson? p.toJson = some p := by
  obtain ⟨id, name, sortable, type, values⟩ := p
  cases values with
  | nil =>
      show (PropertyType.ofJson? (.string type.label)).bind (fun t => some (⟨id, name, sortable, t, []⟩ : Property)) = _
      rw [ofJson?_label]
      rfl
  | cons e values =>
      show (PropertyType.ofJson? (.string type.label)).bind (fun t =>
        (valuesOfJson? (valuesToJson (e :: values))).bind fun vs => some (⟨id, name, sortable, t, vs⟩ : Property)) = _
      rw [ofJson?_label, valuesOfJson?_valuesToJson h]
      rfl

/-- What is written for a list of properties. -/
def listed (ps : List Property) : Json.Value := .array (ps.map toJson)

variable {ps : List Property}

/-- **A list of properties is read back from its array.** -/
lemma listOfJson?_listed (h : ∀ p ∈ ps, (p.values.map (·.1)).Nodup) : listOfJson? (listed ps) = some ps := by
  show (ps.map toJson).mapM ofJson? = some ps
  induction ps with
  | nil => rfl
  | cons p ps ih =>
      obtain ⟨hp, hps⟩ := List.forall_mem_cons.mp h
      rw [List.map_cons, List.mapM_cons, ofJson?_toJson hp, ih hps]
      rfl

/-! ### What is written -/

/-- Allowed values are written without numbers, and none stands in another. -/
lemma valuesToJson_proper (values : List (String × String)) :
    (valuesToJson values).IsProper ∧ (valuesToJson values).depth = 1 := by
  rw [valuesToJson, Value.IsProper, Value.depth]
  induction values with
  | nil => exact ⟨trivial, rfl⟩
  | cons e values ih =>
      obtain ⟨hproper, hdepth⟩ := ih
      rw [List.map_cons, Value.MembersProper, Value.memberDepth, Value.IsProper, Value.depth, Nat.zero_max]
      exact ⟨⟨trivial, hproper⟩, hdepth⟩

lemma toJson_proper (p : Property) : p.toJson.IsProper ∧ p.toJson.depth ≤ 2 := by
  obtain ⟨hproper, hdepth⟩ := valuesToJson_proper p.values
  rw [toJson]
  cases p.values.isEmpty with
  | true => simp [Value.IsProper, Value.MembersProper, Value.depth, Value.memberDepth]
  | false => simp [Value.IsProper, Value.MembersProper, Value.depth, Value.memberDepth, hproper, hdepth]

/-- **A list of properties can be read as JSON**: there are no numbers in it, and three containers stand in one another at most. -/
lemma listed_proper (ps : List Property) : (listed ps).IsProper ∧ (listed ps).depth ≤ 3 := by
  rw [listed, Value.IsProper, Value.depth]
  induction ps with
  | nil => exact ⟨trivial, by decide⟩
  | cons p ps ih =>
      obtain ⟨hproper, hdepth⟩ := toJson_proper p
      rw [List.map_cons, Value.AreProper, Value.itemDepth]
      exact ⟨⟨hproper, ih.1⟩, by omega⟩

/-! ### Objects around a list -/

/-- The member is named by a text. -/
def isNamed (name : String) (m : Spelling × Document) : Bool := m.1.decode? == some name.toList

/-- An object that names a member once, with the value it has. -/
def HoldsOnce (name : String) (v : Json.Value) (d : Document) : Prop :=
  ∃ members m, d = .object members ∧ members.filter (isNamed name) = [m] ∧ m.2.value? = some v

/-- The members with a name have the values with that name. -/
lemma memberValues?_filter (name : String) {members : List (Spelling × Document)} {vs : List (String × Json.Value)}
    (h : Document.memberValues? members = some vs) :
    Document.memberValues? (members.filter (isNamed name)) = some (vs.filter fun v => v.1 == name) := by
  induction members generalizing vs with
  | nil =>
      cases h
      rfl
  | cons m members ih =>
      obtain ⟨spelling, d⟩ := m
      rw [Document.memberValues?] at h
      obtain ⟨cs, hcs, h⟩ := Option.bind_eq_some_iff.mp h
      obtain ⟨v, hv, h⟩ := Option.bind_eq_some_iff.mp h
      obtain ⟨vs, hvs, rfl⟩ := Option.map_eq_some_iff.mp h
      have hname : isNamed name (spelling, d) = (String.ofList cs == name) := by
        rw [isNamed, hcs, Bool.eq_iff_iff, beq_iff_eq, beq_iff_eq, Option.some.injEq]
        constructor
        · rintro rfl
          exact String.ofList_toList
        · rintro rfl
          exact String.toList_ofList.symm
      rw [List.filter_cons, List.filter_cons, hname]
      split
      · rw [Document.memberValues?, hcs, hv, ih hvs]
        rfl
      · exact ih hvs

/-- A document is an object if its value is one. -/
lemma eq_object_of_value? {d : Document} {vs : List (String × Json.Value)} (h : d.value? = some (.object vs)) :
    ∃ members, d = .object members ∧ Document.memberValues? members = some vs := by
  cases d with
  | object members =>
      rw [Document.value?] at h
      obtain ⟨vs, hvs, heq⟩ := Option.map_eq_some_iff.mp h
      cases heq
      exact ⟨members, rfl, hvs⟩
  | word w =>
      rw [Document.value?] at h
      cases w <;> cases h
  | number n =>
      rw [Document.value?] at h
      split at h <;> cases h
  | string s =>
      rw [Document.value?] at h
      obtain ⟨cs, -, heq⟩ := Option.map_eq_some_iff.mp h
      cases heq
  | array items =>
      rw [Document.value?] at h
      obtain ⟨vs, -, heq⟩ := Option.map_eq_some_iff.mp h
      cases heq

/-- An object holds once what its value names once. -/
lemma holdsOnce_of_value? {d : Document} {vs : List (String × Json.Value)} {name : String} {v : Json.Value}
    (h : d.value? = some (.object vs)) (hone : vs.filter (fun v => v.1 == name) = [(name, v)]) : HoldsOnce name v d := by
  obtain ⟨members, rfl, hvs⟩ := eq_object_of_value? h
  have hfilter := memberValues?_filter name hvs
  rw [hone] at hfilter
  match hmembers : members.filter (isNamed name) with
  | [] =>
      rw [hmembers] at hfilter
      cases hfilter
  | (spelling, d) :: more =>
      rw [hmembers, Document.memberValues?] at hfilter
      obtain ⟨cs, -, hfilter⟩ := Option.bind_eq_some_iff.mp hfilter
      obtain ⟨w, hw, hfilter⟩ := Option.bind_eq_some_iff.mp hfilter
      obtain ⟨ws, hws, heq⟩ := Option.map_eq_some_iff.mp hfilter
      obtain ⟨hfirst, hlater⟩ := List.cons.inj heq
      obtain rfl : w = v := (Prod.mk.inj hfirst).2
      have hnone : more = [] := by
        cases more with
        | nil => rfl
        | cons m more =>
            rw [hlater, Document.memberValues?] at hws
            obtain ⟨_, -, hws⟩ := Option.bind_eq_some_iff.mp hws
            obtain ⟨_, -, hws⟩ := Option.bind_eq_some_iff.mp hws
            obtain ⟨_, -, heq⟩ := Option.map_eq_some_iff.mp hws
            cases heq
      exact ⟨members, (spelling, d), rfl, by rw [hmembers, hnone], hw⟩

/-- **A list that an object holds once is found in it.** -/
lemma documentOfJson?_of_holdsOnce (h : ∀ p ∈ ps, (p.values.map (·.1)).Nodup) {d : Document} {v : Json.Value}
    (hd : HoldsOnce "searchProperty" (listed ps) d) (hv : d.value? = some v) : documentOfJson? v = some ps := by
  obtain ⟨members, m, rfl, hfilter, hvalue⟩ := hd
  rw [Document.value?] at hv
  obtain ⟨vs, hvs, rfl⟩ := Option.map_eq_some_iff.mp hv
  have hmembers := memberValues?_filter "searchProperty" hvs
  obtain ⟨spelling, d⟩ := m
  rw [hfilter, Document.memberValues?] at hmembers
  obtain ⟨cs, -, hmembers⟩ := Option.bind_eq_some_iff.mp hmembers
  rw [hvalue] at hmembers
  have hone : vs.filter (fun v => v.1 == "searchProperty") = [(String.ofList cs, listed ps)] :=
    (Option.some.inj hmembers).symm
  rw [documentOfJson?, required, occurrence, hone]
  exact listOfJson?_listed h

/-! ### Documents -/

/-- A document is read as JSON first, and then for its properties. -/
lemma ofDocument_of_writes {d : Document} {text : String} (hwrites : Writes text.toList d.tokens)
    (hd : ∀ v, d.value? = some v → documentOfJson? v = some ps) :
    ofDocument text = if d.depth ≤ 127 ∧ d.value?.isSome then .ok ps else .error .malformed := by
  rw [ofDocument, Document.leading_of_writes hwrites, Progress.greatestDepth]
  by_cases hdepth : d.depth ≤ 127
  · rw [within_of_le hdepth]
    cases hv : d.value? with
    | none => simp; rfl
    | some v => simp [hd v hv, hdepth]
  · rw [within_of_lt (Nat.lt_of_not_le hdepth), if_neg (fun h => hdepth h.1)]
    rfl

/-- **A list of properties is read back from both forms of a document**, if no property allows a value twice. It is read back from
what is written for it, on one line or on many, and from any other text for that array. From a text for an object that has it as
its one member `searchProperty`, and any other members besides, it is read back just if the text can be read as JSON at all: no
more than 127 containers stand in one another, no number is out of range, and no string has half a character in it. -/
theorem ofDocument_listed (h : ∀ p ∈ ps, (p.values.map (·.1)).Nodup) :
    ofDocument (listed ps).compact = .ok ps
      ∧ ofDocument (listed ps).pretty = .ok ps
      ∧ ∀ (d : Document) (text : String), Writes text.toList d.tokens →
        (d.value? = some (listed ps) → ofDocument text = .ok ps)
          ∧ (HoldsOnce "searchProperty" (listed ps) d →
              ofDocument text = if d.depth ≤ 127 ∧ d.value?.isSome then .ok ps else .error .malformed) := by
  obtain ⟨hproper, hdepth⟩ := listed_proper ps
  have hroom : (listed ps).depth ≤ Progress.greatestDepth := hdepth.trans (by decide)
  have hlisted : documentOfJson? (listed ps) = some ps := listOfJson?_listed h
  refine ⟨?_, ?_, fun d text hwrites => ⟨fun hv => ?_, fun hd => ?_⟩⟩
  · rw [ofDocument, Value.compact, leading_toChars hproper hroom Layout.isWhite_compact]
    simp only [hlisted, if_true]
  · rw [ofDocument, Value.pretty, leading_toChars hproper hroom Layout.isWhite_pretty]
    simp only [hlisted, if_true]
  · have hvalue : ∀ v, d.value? = some v → documentOfJson? v = some ps := by
      intro v hv'
      obtain rfl : listed ps = v := Option.some.inj (hv.symm.trans hv')
      exact hlisted
    rw [ofDocument_of_writes hwrites hvalue, if_pos]
    rw [Document.depth_eq hv, hv]
    exact ⟨hdepth.trans (by decide), rfl⟩
  · exact ofDocument_of_writes hwrites fun v hv => documentOfJson?_of_holdsOnce h hd hv

/-- A list is read back from an object with another member, and the allowed values keep their order. -/
theorem ofDocument_listed_wrapped :
    let severity : Property := ⟨"severity", "Severity", true, .integer, [("3", "Normal"), ("1", "Cleared")]⟩
    let wrapped : Json.Value := .object [("offset", .null), ("searchProperty", listed [severity])]
    ofDocument (listed [severity]).compact = .ok [severity] ∧ ofDocument wrapped.pretty = .ok [severity] := by
  intro severity wrapped
  have hkeys : ∀ p ∈ [severity], (p.values.map (·.1)).Nodup := by decide
  obtain ⟨hcompact, -, hdocuments⟩ := ofDocument_listed hkeys
  have hproper : wrapped.IsProper := by
    rw [Value.IsProper, Value.MembersProper, Value.MembersProper, Value.MembersProper, Value.IsProper]
    exact ⟨trivial, (listed_proper _).1, trivial⟩
  obtain ⟨d, hvalue, hwrites⟩ := wrapped.exists_document hproper
  have htext : Writes wrapped.pretty.toList d.tokens := by
    rw [Value.pretty, String.toList_ofList]
    exact (hwrites .pretty Layout.isWhite_pretty 0).writes
  have honce : HoldsOnce "searchProperty" (listed [severity]) d := holdsOnce_of_value? hvalue rfl
  refine ⟨hcompact, ((hdocuments d wrapped.pretty htext).2 honce).trans (if_pos ⟨?_, ?_⟩)⟩
  · rw [Document.depth_eq hvalue]
    decide
  · rw [hvalue]
    rfl

/-- A number that is out of range, in a member beside the list. -/
def beyond : Numeral where
  negative := false
  whole := ⟨['1'], by simp, by simp⟩
  fraction := none
  exponent := some ⟨'e', none, ⟨['9', '9', '9'], by simp, by simp⟩, .inl rfl, by simp⟩
  zero_alone := by decide

/-- **A list is not read back from every object that holds it.** A number beside it, out of range, spoils the text. -/
theorem not_ofDocument_eq :
    ¬ ∀ (ps : List Property) (d : Document) (text : String), (∀ p ∈ ps, (p.values.map (·.1)).Nodup) →
      Writes text.toList d.tokens → HoldsOnce "searchProperty" (listed ps) d → ofDocument text = .ok ps := by
  intro h
  obtain ⟨name, hname, hdecode⟩ := exists_spelling "searchProperty"
  obtain ⟨other, hother, hdecode'⟩ := exists_spelling "x"
  let d : Document := .object [(name, .array []), (other, .number beyond)]
  have htokens : d.tokens = [.mark .openObject, .string name, .mark .colon, .mark .openArray, .mark .closeArray, .mark .comma,
      .string other, .mark .colon, .number beyond, .mark .closeObject] := by
    simp [d, Document.tokens, Document.memberTokens, Document.itemTokens, enclosed, commas]
  have htext : "\x7b\"searchProperty\":[],\"x\":1e999\x7d".toList = d.tokens.flatMap Token.text := by
    simp only [htokens, List.flatMap_cons, List.flatMap_nil, Token.text, hname, hother]
    decide
  have hnone : d.value? = none := by
    have hrange : ¬ beyond.InRange := by decide
    show Document.value? (.object [(name, .array []), (other, .number beyond)]) = none
    rw [Document.value?, Document.memberValues?, Document.memberValues?, hdecode, hdecode', Option.bind_some, Option.bind_some,
      Document.value?.eq_2, if_neg hrange]
    rfl
  have honce : HoldsOnce "searchProperty" (listed []) d := by
    refine ⟨_, (name, .array []), rfl, ?_, rfl⟩
    have hnamed : isNamed "searchProperty" (name, .array []) = true := by rw [isNamed, hdecode]; decide
    have hnot : isNamed "searchProperty" (other, .number beyond) = false := by rw [isNamed, hdecode']; decide
    rw [List.filter_cons_of_pos hnamed, List.filter_cons_of_neg (by simp [hnot]), List.filter_nil]
  have hwrites : Writes "\x7b\"searchProperty\":[],\"x\":1e999\x7d".toList d.tokens := by
    rw [htext]
    exact writes_flatMap d.tokens
  have hnever : ∀ v, d.value? = some v → documentOfJson? v = some [] := by
    intro v hv
    rw [hnone] at hv
    cases hv
  have hread := h [] d _ (by simp) hwrites honce
  rw [ofDocument_of_writes hwrites hnever, if_neg (by simp [hnone])] at hread
  cases hread

end MonitorQuery.Property
