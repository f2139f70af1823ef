import MonitorQuery.Json.Writer
import MonitorQuery.Proofs.Json.Reading

/-!
Values that are written and read back.

Whatever the layout, what is written for a value is the text of a document with that value: strings with the escapes that they
need, and white space only where it may stand. So the value is read back.

* `exists_codeUnit`, `exists_piece`, `exists_spelling`: what is written for a character and for a string, as pieces.
* `WritesPart`: a text writes tokens, whatever stands behind both.
* `Value.exists_document`: **what is written for a value is a document with that value**, by induction on the value.
* `Document.depth_eq`: a document is as deep as its value.
* `leading_toChars`: **a value is read back**, unless it is too deep.
-/

namespace MonitorQuery.Json

open MonitorQuery.Text

/-! ### Strings -/

/-- What is written for a control character is a unit. -/
lemma exists_codeUnit {c : Char} (h : c.toNat < 32) :
    ∃ u : CodeUnit, u.text = ['0', '0', Hexadecimal.lower (c.toNat / 16), Hexadecimal.lower (c.toNat % 16)]
      ∧ u.number = c.toNat := by
  have hlower : ∀ n < 16, (Hexadecimal.lower n, n) ∈ hexDigits :=
    fun n hn => hexadecimalValue?_eq_some_iff.mp (Hexadecimal.value?_lower hn)
  have hhigh := hlower (c.toNat / 16) (by omega)
  have hlow := hlower (c.toNat % 16) (by omega)
  have hzero : ('0', 0) ∈ hexDigits := by decide
  refine ⟨⟨[('0', 0), ('0', 0), (Hexadecimal.lower (c.toNat / 16), c.toNat / 16),
    (Hexadecimal.lower (c.toNat % 16), c.toNat % 16)], rfl, ?_⟩, rfl, ?_⟩
  · simp only [List.forall_mem_cons]
    exact ⟨hzero, hzero, hhigh, hlow, by simp⟩
  · simp only [CodeUnit.number, List.map_cons, List.map_nil, List.reverse_cons, List.reverse_nil, List.nil_append,
      List.cons_append, Nat.ofDigits_cons, Nat.ofDigits_nil]
    omega

/-- **What is written for a character is a piece** that writes it. -/
lemma exists_piece (c : Char) :
    ∃ p : Piece, p.text = escapeChar c ∧ ∀ ps, Spelling.decode? (p :: ps) = (Spelling.decode? ps).map (c :: ·) := by
  have hletter : ∀ l d, (l, d) ∈ escapes → escapeChar d = ['\\', l] → c = d →
      ∃ p : Piece, p.text = escapeChar c ∧ ∀ ps, Spelling.decode? (p :: ps) = (Spelling.decode? ps).map (c :: ·) := by
    rintro l d hl hescape rfl
    exact ⟨.letter l c hl, hescape.symm, fun ps => rfl⟩
  by_cases hquote : c = '\x22'
  · exact hletter '\x22' '\x22' (by decide) (by decide) hquote
  by_cases hbackslash : c = '\\'
  · exact hletter '\\' '\\' (by decide) (by decide) hbackslash
  by_cases hbackspace : c = '\x08'
  · exact hletter 'b' '\x08' (by decide) (by decide) hbackspace
  by_cases htab : c = '\t'
  · exact hletter 't' '\t' (by decide) (by decide) htab
  by_cases hlineFeed : c = '\n'
  · exact hletter 'n' '\n' (by decide) (by decide) hlineFeed
  by_cases hformFeed : c = '\x0c'
  · exact hletter 'f' '\x0c' (by decide) (by decide) hformFeed
  by_cases hreturn : c = '\r'
  · exact hletter 'r' '\r' (by decide) (by decide) hreturn
  rw [escapeChar, if_neg hquote, if_neg hbackslash, if_neg hbackspace, if_neg htab, if_neg hlineFeed, if_neg hformFeed,
    if_neg hreturn]
  by_cases hcontrol : c.toNat < 32
  · obtain ⟨u, htext, hnumber⟩ := exists_codeUnit hcontrol
    have hfirst : ¬ IsFirstHalf u.number := by rw [IsFirstHalf]; omega
    have hsecond : ¬ IsSecondHalf u.number := by rw [IsSecondHalf]; omega
    rw [if_pos hcontrol]
    refine ⟨.unit u, by rw [Piece.text, htext], fun ps => ?_⟩
    rw [Spelling.decode?_unit hfirst, if_neg hsecond, hnumber, Char.ofNat_toNat]
    rfl
  · rw [if_neg hcontrol]
    exact ⟨.plain c ⟨hquote, hbackslash, by omega⟩, rfl, fun ps => rfl⟩

/-- **What is written for a string is pieces** that write it. -/
lemma exists_spelling (s : String) : ∃ ps : Spelling, ps.text = quoted s ∧ ps.decode? = some s.toList := by
  have hchars : ∀ cs : List Char, ∃ ps : Spelling, ps.flatMap Piece.text = cs.flatMap escapeChar ∧ ps.decode? = some cs := by
    intro cs
    induction cs with
    | nil => exact ⟨[], rfl, rfl⟩
    | cons c cs ih =>
        obtain ⟨ps, htext, hdecode⟩ := ih
        obtain ⟨p, hp, hdecodes⟩ := exists_piece c
        refine ⟨p :: ps, ?_, ?_⟩
        · rw [List.flatMap_cons, List.flatMap_cons, hp, htext]
        · rw [hdecodes, hdecode]
          rfl
  obtain ⟨ps, htext, hdecode⟩ := hchars s.toList
  refine ⟨ps, ?_, hdecode⟩
  rw [Spelling.text, Spelling.body, htext, quoted]

/-! ### Parts of texts -/

/-- A text writes tokens, whatever is written behind it. -/
def WritesPart (text : List Char) (part : List Token) : Prop :=
  ∀ cs ts, Writes cs ts → Writes (text ++ cs) (part ++ ts)

/-- A token in front of a text, without white space. -/
lemma Writes.token {cs : List Char} {ts : List Token} (t : Token) (h : Writes cs ts) : Writes (t.text ++ cs) (t :: ts) := by
  have hspace : ∀ c ∈ ([] : List Char), c ∈ whiteSpace := by simp
  exact .cons hspace h

/-- Tokens can be written without white space. -/
lemma writes_flatMap : ∀ ts : List Token, Writes (ts.flatMap Token.text) ts
  | [] => .nil (by simp)
  | t :: ts => (writes_flatMap ts).token t

/-- White space in front of a text. -/
lemma Writes.space_append {space cs : List Char} {ts : List Token} (hspace : ∀ c ∈ space, c ∈ whiteSpace) (h : Writes cs ts) :
    Writes (space ++ cs) ts := by
  cases h with
  | nil hcs => exact .nil (List.forall_mem_append.mpr ⟨hspace, hcs⟩)
  | cons hcs hts =>
      rw [← List.append_assoc]
      exact .cons (List.forall_mem_append.mpr ⟨hspace, hcs⟩) hts

namespace WritesPart

variable {text text' : List Char} {part part' : List Token}

lemma token (t : Token) : WritesPart t.text [t] := fun _ _ hcs => hcs.token t

lemma space (hspace : ∀ c ∈ text, c ∈ whiteSpace) : WritesPart text [] := fun _ _ hcs => hcs.space_append hspace

lemma append (h : WritesPart text part) (h' : WritesPart text' part') : WritesPart (text ++ text') (part ++ part') := by
  intro cs ts hcs
  rw [List.append_assoc, List.append_assoc]
  exact h _ _ (h' _ _ hcs)

lemma writes (h : WritesPart text part) : Writes text part := by
  have hall := h [] [] (.nil (by simp))
  rwa [List.append_nil, List.append_nil] at hall

end WritesPart

/-- A layout with nothing but white space between the parts. -/
structure Layout.IsWhite (layout : Layout) : Prop where
  beforeItem : ∀ level, ∀ c ∈ layout.beforeItem level, c ∈ whiteSpace
  beforeEnd : ∀ level, ∀ c ∈ layout.beforeEnd level, c ∈ whiteSpace
  afterColon : ∀ c ∈ layout.afterColon, c ∈ whiteSpace

lemma Layout.isWhite_compact : compact.IsWhite where
  beforeItem _ _ hc := by cases hc
  beforeEnd _ _ hc := by cases hc
  afterColon _ hc := by cases hc

lemma Layout.mem_whiteSpace_of_mem_newLine {level : ℕ} {c : Char} (hc : c ∈ newLine level) : c ∈ whiteSpace := by
  rw [newLine, List.mem_cons, List.mem_replicate] at hc
  obtain rfl | ⟨-, rfl⟩ := hc <;> decide

lemma Layout.isWhite_pretty : pretty.IsWhite where
  beforeItem _ _ hc := mem_whiteSpace_of_mem_newLine hc
  beforeEnd _ _ hc := mem_whiteSpace_of_mem_newLine hc
  afterColon c hc := by
    rw [List.mem_singleton.mp hc]
    decide

/-- Parts in brackets write parts between the marks of a container. -/
lemma writesPart_bracketed {layout : Layout} (hwhite : layout.IsWhite) (level : ℕ) (left right : Mark)
    {texts : List (List Char)} {parts : List (List Token)} (h : List.Forall₂ WritesPart texts parts) :
    WritesPart (bracketed layout level left.char right.char texts) (enclosed left right parts) := by
  cases h with
  | nil => exact (WritesPart.token (.mark left)).append (WritesPart.token (.mark right))
  | @cons text part texts parts htext htexts =>
      have hlater : WritesPart (texts.flatMap fun text => ',' :: layout.beforeItem level ++ text)
          (parts.flatMap (.mark .comma :: ·)) := by
        induction htexts with
        | nil => exact fun _ _ hcs => hcs
        | cons htext _ ih =>
            rw [List.flatMap_cons, List.flatMap_cons]
            refine WritesPart.append ?_ ih
            exact (WritesPart.token (.mark .comma)).append ((WritesPart.space (hwhite.beforeItem level)).append htext)
      have hcontainer := (WritesPart.token (.mark left)).append <| (WritesPart.space (hwhite.beforeItem level)).append <|
        htext.append <| hlater.append <| (WritesPart.space (hwhite.beforeEnd level)).append (WritesPart.token (.mark right))
      simpa [bracketed, enclosed, commas, Token.text] using hcontainer

/-! ### Values -/

namespace Value

mutual

/-- Every number is the text of one that is in range. -/
def IsProper : Value → Prop
  | null | truth _ | string _ => True
  | number text => ∃ n : Numeral, n.value = number text ∧ n.InRange
  | array items => AreProper items
  | object members => MembersProper members

/-- Every number among the items of an array is the text of one that is in range. -/
def AreProper : List Value → Prop
  | [] => True
  | v :: vs => IsProper v ∧ AreProper vs

/-- Every number among the members of an object is the text of one that is in range. -/
def MembersProper : List (String × Value) → Prop
  | [] => True
  | (_, v) :: members => IsProper v ∧ MembersProper members

end

mutual

/-- How many containers stand in one another. -/
def depth : Value → ℕ
  | null | truth _ | number _ | string _ => 0
  | array items => itemDepth items + 1
  | object members => memberDepth members + 1

/-- How many containers stand in one another in the items of an array. -/
def itemDepth : List Value → ℕ
  | [] => 0
  | v :: vs => max (depth v) (itemDepth vs)

/-- How many containers stand in one another in the members of an object. -/
def memberDepth : List (String × Value) → ℕ
  | [] => 0
  | (_, v) :: members => max (depth v) (memberDepth members)

end

mutual

/-- **What is written for a value is a document with that value**, in any layout. -/
theorem exists_document : ∀ v : Value, v.IsProper → ∃ d : Document, d.value? = some v
    ∧ ∀ layout : Layout, layout.IsWhite → ∀ level, WritesPart (v.toChars layout level) d.tokens
  | null, _ => ⟨.word .null, rfl, fun _ _ _ => by
      rw [toChars, Document.tokens]
      exact WritesPart.token (.word .null)⟩
  | truth true, _ => ⟨.word (.truth true), rfl, fun _ _ _ => by
      rw [toChars, Document.tokens]
      exact WritesPart.token (.word (.truth true))⟩
  | truth false, _ => ⟨.word (.truth false), rfl, fun _ _ _ => by
      rw [toChars, Document.tokens]
      exact WritesPart.token (.word (.truth false))⟩
  | number text, hv => by
      rw [IsProper] at hv
      obtain ⟨n, hvalue, hrange⟩ := hv
      refine ⟨.number n, ?_, fun _ _ _ => ?_⟩
      · rw [Document.value?, if_pos hrange, hvalue]
      · obtain rfl : String.ofList n.text = text := by injection hvalue
        rw [toChars, Document.tokens, String.toList_ofList]
        exact WritesPart.token (.number n)
  | string s, _ => by
      obtain ⟨ps, htext, hdecode⟩ := exists_spelling s
      refine ⟨.string ps, ?_, fun _ _ _ => ?_⟩
      · rw [Document.value?, hdecode, Option.map_some, String.ofList_toList]
      · rw [toChars, Document.tokens, ← htext]
        exact WritesPart.token (.string ps)
  | array items, hv => by
      rw [IsProper] at hv
      obtain ⟨ds, hvalues, hwrites⟩ := exists_items items hv
      refine ⟨.array ds, ?_, fun layout hwhite level => ?_⟩
      · rw [Document.value?, hvalues]
        rfl
      · rw [toChars, Document.tokens]
        exact writesPart_bracketed hwhite level .openArray .closeArray (hwrites layout hwhite (level + 1))
  | object members, hv => by
      rw [IsProper] at hv
      obtain ⟨ms, hvalues, hwrites⟩ := exists_members members hv
      refine ⟨.object ms, ?_, fun layout hwhite level => ?_⟩
      · rw [Document.value?, hvalues]
        rfl
      · rw [toChars, Document.tokens]
        exact writesPart_bracketed hwhite level .openObject .closeObject (hwrites layout hwhite (level + 1))

theorem exists_items : ∀ vs : List Value, AreProper vs → ∃ ds : List Document, Document.itemValues? ds = some vs
    ∧ ∀ layout : Layout, layout.IsWhite → ∀ level,
      List.Forall₂ WritesPart (itemTexts layout level vs) (Document.itemTokens ds)
  | [], _ => ⟨[], rfl, fun _ _ _ => .nil⟩
  | v :: vs, hv => by
      rw [AreProper] at hv
      obtain ⟨d, hvalue, hwrites⟩ := exists_document v hv.1
      obtain ⟨ds, hvalues, hlater⟩ := exists_items vs hv.2
      refine ⟨d :: ds, ?_, fun layout hwhite level => ?_⟩
      · rw [Document.itemValues?, hvalue, hvalues]
        rfl
      · rw [itemTexts, Document.itemTokens]
        exact .cons (hwrites layout hwhite level) (hlater layout hwhite level)

theorem exists_members : ∀ vs : List (String × Value), MembersProper vs → ∃ ms : List (Spelling × Document),
    Document.memberValues? ms = some vs
      ∧ ∀ layout : Layout, layout.IsWhite → ∀ level,
        List.Forall₂ WritesPart (memberTexts layout level vs) (Document.memberTokens ms)
  | [], _ => ⟨[], rfl, fun _ _ _ => .nil⟩
  | (name, v) :: vs, hv => by
      rw [MembersProper] at hv
      obtain ⟨ps, htext, hdecode⟩ := exists_spelling name
      obtain ⟨d, hvalue, hwrites⟩ := exists_document v hv.1
      obtain ⟨ms, hvalues, hlater⟩ := exists_members vs hv.2
      refine ⟨(ps, d) :: ms, ?_, fun layout hwhite level => ?_⟩
      · rw [Document.memberValues?, hdecode, hvalue, hvalues]
        simp
      · rw [memberTexts, Document.memberTokens, ← htext]
        have hmember := (WritesPart.token (.string ps)).append <| (WritesPart.token (.mark .colon)).append <|
          (WritesPart.space hwhite.afterColon).append (hwrites layout hwhite level)
        refine .cons ?_ (hlater layout hwhite level)
        simpa [Token.text, Mark.char] using hmember

end

end Value

namespace Document

mutual

/-- **A document is as deep as its value.** -/
theorem depth_eq : ∀ {d : Document} {v : Value}, d.value? = some v → d.depth = v.depth
  | .word w, v, h => by
      rw [value?, Option.some.injEq] at h
      subst h
      cases w <;> rfl
  | .number n, v, h => by
      rw [value?] at h
      split at h
      · cases h
        rfl
      · cases h
  | .string s, v, h => by
      rw [value?] at h
      obtain ⟨cs, -, rfl⟩ := Option.map_eq_some_iff.mp h
      rfl
  | .array ds, v, h => by
      rw [value?] at h
      obtain ⟨vs, hvs, rfl⟩ := Option.map_eq_some_iff.mp h
      rw [depth, Value.depth, itemDepth_eq hvs]
  | .object ms, v, h => by
      rw [value?] at h
      obtain ⟨vs, hvs, rfl⟩ := Option.map_eq_some_iff.mp h
      rw [depth, Value.depth, memberDepth_eq hvs]

theorem itemDepth_eq : ∀ {ds : List Document} {vs : List Value}, itemValues? ds = some vs →
    itemDepth ds = Value.itemDepth vs
  | [], vs, h => by
      cases h
      rfl
  | d :: ds, vs, h => by
      rw [itemValues?] at h
      obtain ⟨v, hv, h⟩ := Option.bind_eq_some_iff.mp h
      obtain ⟨vs, hvs, rfl⟩ := Option.map_eq_some_iff.mp h
      rw [itemDepth, Value.itemDepth, depth_eq hv, itemDepth_eq hvs]

theorem memberDepth_eq : ∀ {ms : List (Spelling × Document)} {vs : List (String × Value)}, memberValues? ms = some vs →
    memberDepth ms = Value.memberDepth vs
  | [], vs, h => by
      cases h
      rfl
  | (name, d) :: ms, vs, h => by
      rw [memberValues?] at h
      obtain ⟨cs, -, h⟩ := Option.bind_eq_some_iff.mp h
      obtain ⟨v, hv, h⟩ := Option.bind_eq_some_iff.mp h
      obtain ⟨vs, hvs, rfl⟩ := Option.map_eq_some_iff.mp h
      rw [memberDepth, Value.memberDepth, depth_eq hv, memberDepth_eq hvs]

end

end Document

/-- **A value is read back from what is written for it**, in any layout, unless it is too deep. -/
theorem leading_toChars {v : Value} (hv : v.IsProper) (hdepth : v.depth ≤ Progress.greatestDepth) {layout : Layout}
    (hwhite : layout.IsWhite) (level : ℕ) : Value.leading (String.ofList (v.toChars layout level)) = .ok (v, true) := by
  obtain ⟨d, hvalue, hwrites⟩ := v.exists_document hv
  have hwritten : Writes (String.ofList (v.toChars layout level)).toList d.tokens := by
    rw [String.toList_ofList]
    exact (hwrites layout hwhite level).writes
  rw [Document.leading_of_writes hwritten, Document.depth_eq hvalue, within_of_le hdepth, hvalue]

end MonitorQuery.Json
