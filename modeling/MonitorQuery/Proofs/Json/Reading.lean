import MonitorQuery.Json.Reader
import MonitorQuery.Proofs.Json.Grammar

/-!
What documents mean, and how they are read.

A document has a value unless a number in it is out of range or a string has half a character in it. A text that writes it is read
as that value if no more containers stand in one another than may be open at a time, and is found malformed otherwise.

* `Document.value?`, `Document.depth`: the value, and how many containers stand in one another.
* `within`: a result that is there if there is room for it.
* `takeUntilValue_tokens`: **wherever a value may stand, a document is read as its value**, by induction on the document;
  `takeUntilValue_items` and `takeUntilValue_members` are the same of what stands in a container.
* `leading_of_writes`: what is read of a text that writes a document.
-/

namespace MonitorQuery.Json

open MonitorQuery.Text

/-! ### Values of documents -/

namespace Document

mutual

/-- The value of a document, if no number is out of range and no string has half a character in it. -/
def value? : Document → Option Value
  | word w => some w.value
  | number n => if n.InRange then some n.value else none
  | string s => s.decode?.map fun cs => .string (String.ofList cs)
  | array items => (itemValues? items).map .array
  | object members => (memberValues? members).map .object

/-- The values of the items of an array. -/
def itemValues? : List Document → Option (List Value)
  | [] => some []
  | d :: ds => (value? d).bind fun v => (itemValues? ds).map (v :: ·)

/-- The names and the values of the members of an object. -/
def memberValues? : List (Spelling × Document) → Option (List (String × Value))
  | [] => some []
  | (name, d) :: members =>
    name.decode?.bind fun cs => (value? d).bind fun v => (memberValues? members).map ((String.ofList cs, v) :: ·)

end

mutual

/-- How many containers stand in one another. -/
def depth : Document → ℕ
  | word _ | number _ | string _ => 0
  | array items => itemDepth items + 1
  | object members => memberDepth members + 1

/-- How many containers stand in one another in the items of an array. -/
def itemDepth : List Document → ℕ
  | [] => 0
  | d :: ds => max (depth d) (itemDepth ds)

/-- How many containers stand in one another in the members of an object. -/
def memberDepth : List (Spelling × Document) → ℕ
  | [] => 0
  | (_, d) :: members => max (depth d) (memberDepth members)

end

end Document

/-! ### Room -/

/-- A result that needs room, if there is enough. -/
def within {α : Type} (needed room : ℕ) (o : Option α) : Option α := if needed ≤ room then o else none

section Room

variable {α β : Type} {needed needed' room : ℕ}

lemma within_of_le (h : needed ≤ room) (o : Option α) : within needed room o = o := if_pos h

lemma within_of_lt (h : room < needed) (o : Option α) : within needed room o = none := if_neg (Nat.not_le.mpr h)

lemma within_map (f : α → β) (o : Option α) : within needed room (o.map f) = (within needed room o).map f := by
  rw [within, within]
  split <;> rfl

/-- Two results need the room of both. -/
lemma within_max (o : Option α) (f : α → Option β) :
    within (max needed needed') room (o.bind f) = (within needed room o).bind fun a => within needed' room (f a) := by
  by_cases h : needed ≤ room
  · by_cases h' : needed' ≤ room
    · simp only [within, h, h', max_le_iff, and_self, if_true]
    · simp only [within, h, h', max_le_iff, and_false, if_true, if_false]
      cases o <;> rfl
  · simp only [within, h, max_le_iff, false_and, if_false]
    rfl

lemma within_bind (o : Option α) (f : α → Option β) :
    within needed room (o.bind f) = o.bind fun a => within needed room (f a) := by
  cases o with
  | none => exact ite_self _
  | some a => rfl

/-- A container needs room for itself. -/
lemma within_succ (h : 1 ≤ room) (o : Option α) : within (needed + 1) room o = within needed (room - 1) o := by
  have hiff : needed + 1 ≤ room ↔ needed ≤ room - 1 := by omega
  simp only [within, hiff]

end Room

/-! ### Reading -/

/-- One mark alone is the end of an array. -/
lemma eq_closeArray {t : Token} (h : t.lexeme? = some .closeArray) : t = .mark .closeArray := by
  cases t with
  | mark m =>
      cases m with
      | closeArray => rfl
      | _ => cases h
  | word w => cases h
  | number n =>
      rw [Token.lexeme?] at h
      split at h <;> cases h
  | string s =>
      obtain ⟨cs, -, heq⟩ := Option.map_eq_some_iff.mp h
      cases heq

namespace Progress

/-- What is read where a value has been found, or none. -/
def goOn (frames : List Frame) (more : List Token) : Option Value → Except Fault (Value × List Lexeme)
  | some v => takeUntilValue ⟨frames, .separator v⟩ (lexemesOf more)
  | none => .error .malformed

/-- Without a value nothing is done. -/
lemma value?_eq_none {awaiting : Awaiting} (h : ∀ v, awaiting ≠ .separator v) (frames : List Frame) :
    value? ⟨frames, awaiting⟩ = none := by
  rw [value?]
  split
  · next v _ heq => exact absurd heq (h v)
  · rfl

/-- Inside a container nothing is done. -/
lemma value?_cons (frame : Frame) (frames : List Frame) (awaiting : Awaiting) :
    value? ⟨frame :: frames, awaiting⟩ = none := by
  rw [value?]

/-- Reading takes a step for a lexeme, unless it is done. -/
lemma takeUntilValue_cons {p : Progress} (h : p.value? = none) (l : Lexeme) (ls : List Lexeme) :
    p.takeUntilValue (l :: ls) = p.step l >>= fun q => q.takeUntilValue ls := by
  conv_lhs => rw [takeUntilValue.eq_def]
  simp only [h]

section Steps

variable {frames : List Frame} {awaiting : Awaiting} {t : Token} {more : List Token}

/-- A token that is whole is a lexeme, and reading goes on behind it. -/
lemma takeUntilValue_token (hawaiting : ∀ v, awaiting ≠ .separator v) {l : Lexeme} (hl : t.lexeme? = some l) :
    takeUntilValue ⟨frames, awaiting⟩ (lexemesOf (t :: more))
      = step ⟨frames, awaiting⟩ l >>= fun q => q.takeUntilValue (lexemesOf more) := by
  rw [lexemesOf, hl]
  exact takeUntilValue_cons (value?_eq_none hawaiting frames) l _

/-- A token that is broken ends the reading. -/
lemma takeUntilValue_broken (hawaiting : ∀ v, awaiting ≠ .separator v) (hl : t.lexeme? = none)
    (hstep : step ⟨frames, awaiting⟩ (.broken t.isString .malformed) = .error .malformed) :
    takeUntilValue ⟨frames, awaiting⟩ (lexemesOf (t :: more)) = .error .malformed := by
  rw [lexemesOf, hl]
  dsimp only
  rw [takeUntilValue_cons (value?_eq_none hawaiting frames), hstep, error_bind]

/-- A token that is a value by itself is taken where a value may stand. -/
lemma takeUntilValue_leaf {o : Option Value} (hnone : o = none → t.lexeme? = none)
    (hsome : ∀ v ∈ o, ∃ l, t.lexeme? = some l ∧ takeValue frames l = .ok ⟨frames, .separator v⟩) :
    takeUntilValue ⟨frames, .value⟩ (lexemesOf (t :: more)) = goOn frames more o := by
  cases o with
  | none => exact takeUntilValue_broken (by simp) (hnone rfl) rfl
  | some v =>
      obtain ⟨l, hl, htaken⟩ := hsome v rfl
      rw [takeUntilValue_token (by simp) hl]
      show takeValue frames l >>= _ = _
      rw [htaken, ok_bind, goOn]

/-- A first item is read as any other, since it does not begin with the end of the array. -/
lemma takeUntilValue_firstItem (ht : t ≠ .mark .closeArray) :
    takeUntilValue ⟨frames, .firstItem⟩ (lexemesOf (t :: more))
      = takeUntilValue ⟨.array [] :: frames, .value⟩ (lexemesOf (t :: more)) := by
  cases hl : t.lexeme? with
  | none => rw [takeUntilValue_broken (by simp) hl rfl, takeUntilValue_broken (by simp) hl rfl]
  | some l =>
      rw [takeUntilValue_token (by simp) hl, takeUntilValue_token (by simp) hl]
      cases l with
      | closeArray => exact absurd (eq_closeArray hl) ht
      | _ => rfl

/-- A first name is read as any other. -/
lemma takeUntilValue_firstName (name : Spelling) :
    takeUntilValue ⟨frames, .firstName⟩ (lexemesOf (.string name :: more))
      = takeUntilValue ⟨frames, .name []⟩ (lexemesOf (.string name :: more)) := by
  cases hl : (Token.string name).lexeme? with
  | none => rw [takeUntilValue_broken (by simp) hl rfl, takeUntilValue_broken (by simp) hl rfl]
  | some l =>
      rw [takeUntilValue_token (by simp) hl, takeUntilValue_token (by simp) hl]
      obtain ⟨cs, -, rfl⟩ := Option.map_eq_some_iff.mp hl
      rfl

/-- A name is taken where a name may stand, and the colon behind it. -/
lemma takeUntilValue_name (name : Spelling) (members : List (String × Value)) :
    takeUntilValue ⟨frames, .name members⟩ (lexemesOf (.string name :: .mark .colon :: more))
      = match name.decode? with
        | some cs => takeUntilValue ⟨.object members (String.ofList cs) :: frames, .value⟩ (lexemesOf more)
        | none => .error .malformed := by
  cases hdecode : name.decode? with
  | none => exact takeUntilValue_broken (by simp) (by rw [Token.lexeme?, hdecode]; rfl) rfl
  | some cs =>
      have hname : (Token.string name).lexeme? = some (.string (String.ofList cs)) := by rw [Token.lexeme?, hdecode]; rfl
      rw [takeUntilValue_token (by simp) hname]
      show takeUntilValue ⟨frames, .colon members (String.ofList cs)⟩ _ = _
      rw [takeUntilValue_token (by simp) rfl]
      rfl

/-- A container is opened if there is room for one more. -/
lemma takeUntilValue_open (opening : Mark) (awaiting : Awaiting)
    (h : takeValue frames opening.lexeme = opened frames awaiting) :
    takeUntilValue ⟨frames, .value⟩ (lexemesOf (.mark opening :: more))
      = if 1 ≤ greatestDepth - frames.length then takeUntilValue ⟨frames, awaiting⟩ (lexemesOf more)
        else .error .malformed := by
  rw [takeUntilValue_token (by simp) rfl]
  show takeValue frames opening.lexeme >>= _ = _
  rw [h, opened]
  by_cases hroom : frames.length < greatestDepth
  · rw [if_pos hroom, if_pos (by omega), ok_bind]
  · rw [if_neg hroom, if_neg (by omega), error_bind]

/-- The separator behind a value in a container leads on. -/
lemma takeUntilValue_separator {frame : Frame} {v : Value} {m : Mark} {p : Progress}
    (h : takeSeparator (frame :: frames) v m.lexeme = .ok p) :
    takeUntilValue ⟨frame :: frames, .separator v⟩ (lexemesOf (.mark m :: more)) = p.takeUntilValue (lexemesOf more) := by
  have hmark : lexemesOf (.mark m :: more) = m.lexeme :: lexemesOf more := rfl
  rw [hmark, takeUntilValue_cons (value?_cons _ _ _)]
  show takeSeparator (frame :: frames) v m.lexeme >>= _ = _
  rw [h, ok_bind]

end Steps

end Progress

namespace Document

/-- No document begins with the end of an array. -/
lemma exists_tokens_eq_cons (d : Document) : ∃ t ts, d.tokens = t :: ts ∧ t ≠ .mark .closeArray := by
  cases d with
  | word _ | number _ | string _ => exact ⟨_, _, tokens.eq_def _, by simp⟩
  | array _ | object _ => exact ⟨_, _, by rw [tokens, enclosed], by simp⟩

lemma itemTokens_ne_nil {ds : List Document} (h : ds ≠ []) : itemTokens ds ≠ [] := by
  cases ds with
  | nil => exact absurd rfl h
  | cons d ds => simp [itemTokens]

lemma memberTokens_ne_nil {ms : List (Spelling × Document)} (h : ms ≠ []) : memberTokens ms ≠ [] := by
  cases ms with
  | nil => exact absurd rfl h
  | cons m ms => simp [memberTokens]

end Document

/-- Parts behind a first one stand behind a comma. -/
lemma flatMap_comma {parts : List (List Token)} (h : parts ≠ []) :
    parts.flatMap (.mark .comma :: ·) = .mark .comma :: commas parts := by
  cases parts with
  | nil => exact absurd rfl h
  | cons part parts => rw [List.flatMap_cons, commas, List.cons_append]

namespace Document

open Progress

mutual

/-- **Wherever a value may stand, a document is read as its value**, if it has one and there is room for it. -/
theorem takeUntilValue_tokens : ∀ (d : Document) (frames : List Frame) (more : List Token),
    takeUntilValue ⟨frames, .value⟩ (lexemesOf (d.tokens ++ more))
      = goOn frames more (within d.depth (greatestDepth - frames.length) d.value?)
  | .word w, frames, more => by
      rw [tokens, depth, value?, within_of_le (Nat.zero_le _)]
      refine takeUntilValue_leaf (by simp) ?_
      rintro v ⟨rfl⟩
      exact ⟨_, rfl, rfl⟩
  | .number n, frames, more => by
      rw [tokens, depth, value?, within_of_le (Nat.zero_le _)]
      split_ifs with hrange
      · refine takeUntilValue_leaf (by simp) ?_
        rintro v ⟨rfl⟩
        exact ⟨_, by rw [Token.lexeme?, if_pos hrange], rfl⟩
      · exact takeUntilValue_leaf (fun _ => by rw [Token.lexeme?, if_neg hrange]) (by simp)
  | .string s, frames, more => by
      rw [tokens, depth, value?, within_of_le (Nat.zero_le _)]
      cases hdecode : s.decode? with
      | none => exact takeUntilValue_leaf (fun _ => by rw [Token.lexeme?, hdecode]; rfl) (by simp)
      | some cs =>
          refine takeUntilValue_leaf (by simp) ?_
          rintro v ⟨rfl⟩
          exact ⟨_, by rw [Token.lexeme?, hdecode]; rfl, rfl⟩
  | .array items, frames, more => by
      rw [tokens, enclosed, depth, value?, within_map, List.cons_append, List.append_assoc,
        takeUntilValue_open .openArray .firstItem rfl]
      by_cases hroom : 1 ≤ greatestDepth - frames.length
      · rw [if_pos hroom, within_succ hroom]
        match items with
        | [] =>
            rw [itemTokens, commas, List.nil_append, List.singleton_append, itemDepth, itemValues?,
              within_of_le (Nat.zero_le _), takeUntilValue_token (by simp) rfl]
            rfl
        | d :: ds =>
            obtain ⟨t, ts, htokens, ht⟩ := exists_tokens_eq_cons d
            have hfirst : commas (itemTokens (d :: ds)) ++ .mark .closeArray :: more
                = t :: (ts ++ ((itemTokens ds).flatMap (.mark .comma :: ·) ++ .mark .closeArray :: more)) := by
              rw [itemTokens, commas, htokens, List.append_assoc, List.cons_append]
            rw [List.singleton_append, hfirst, takeUntilValue_firstItem ht, ← hfirst,
              takeUntilValue_items (d :: ds) (List.cons_ne_nil _ _) [] frames more]
            rfl
      · rw [if_neg hroom, within_of_lt (by omega)]
        rfl
  | .object members, frames, more => by
      rw [tokens, enclosed, depth, value?, within_map, List.cons_append, List.append_assoc,
        takeUntilValue_open .openObject .firstName rfl]
      by_cases hroom : 1 ≤ greatestDepth - frames.length
      · rw [if_pos hroom, within_succ hroom]
        match members with
        | [] =>
            rw [memberTokens, commas, List.nil_append, List.singleton_append, memberDepth, memberValues?,
              within_of_le (Nat.zero_le _), takeUntilValue_token (by simp) rfl]
            rfl
        | (name, d) :: rest =>
            have hfirst : ∃ ts, commas (memberTokens ((name, d) :: rest)) ++ .mark .closeObject :: more = .string name :: ts := by
              rw [memberTokens, commas, List.cons_append, List.cons_append]
              exact ⟨_, rfl⟩
            obtain ⟨ts, hfirst⟩ := hfirst
            rw [List.singleton_append, hfirst, takeUntilValue_firstName, ← hfirst,
              takeUntilValue_members ((name, d) :: rest) (List.cons_ne_nil _ _) [] frames more]
            rfl
      · rw [if_neg hroom, within_of_lt (by omega)]
        rfl

/-- The items of an array, behind those that have been read. -/
theorem takeUntilValue_items : ∀ (ds : List Document), ds ≠ [] → ∀ (items : List Value) (frames : List Frame)
    (more : List Token),
    takeUntilValue ⟨.array items :: frames, .value⟩ (lexemesOf (commas (itemTokens ds) ++ .mark .closeArray :: more))
      = goOn frames more ((within (itemDepth ds) (greatestDepth - (frames.length + 1)) (itemValues? ds)).map
          fun vs => .array (items ++ vs))
  | [], hne => absurd rfl hne
  | d :: ds, _ => fun items frames more => by
      rw [itemTokens, commas, List.append_assoc, takeUntilValue_tokens d, itemDepth, itemValues?, within_max, List.length_cons]
      cases within d.depth (greatestDepth - (frames.length + 1)) d.value? with
      | none => rfl
      | some v =>
          rw [goOn, Option.bind_some, within_map, Option.map_map]
          by_cases hds : ds = []
          · rw [hds, itemTokens, List.flatMap_nil, List.nil_append, takeUntilValue_separator rfl, itemDepth, itemValues?,
              within_of_le (Nat.zero_le _)]
            rfl
          · rw [flatMap_comma (itemTokens_ne_nil hds), List.cons_append, takeUntilValue_separator rfl,
              takeUntilValue_items ds hds]
            refine congrArg _ (congrArg (Option.map · _) (funext fun vs => ?_))
            simp

/-- The members of an object, behind those that have been read. -/
theorem takeUntilValue_members : ∀ (ms : List (Spelling × Document)), ms ≠ [] → ∀ (members : List (String × Value))
    (frames : List Frame) (more : List Token),
    takeUntilValue ⟨frames, .name members⟩ (lexemesOf (commas (memberTokens ms) ++ .mark .closeObject :: more))
      = goOn frames more ((within (memberDepth ms) (greatestDepth - (frames.length + 1)) (memberValues? ms)).map
          fun vs => .object (members ++ vs))
  | [], hne => absurd rfl hne
  | (name, d) :: ms, _ => fun members frames more => by
      rw [memberTokens, commas, List.cons_append, List.cons_append, List.cons_append, List.cons_append, List.append_assoc,
        takeUntilValue_name, memberDepth, memberValues?, within_bind]
      cases name.decode? with
      | none => rfl
      | some cs =>
          dsimp only
          rw [takeUntilValue_tokens d, Option.bind_some, within_max, List.length_cons]
          cases within d.depth (greatestDepth - (frames.length + 1)) d.value? with
          | none => rfl
          | some v =>
              rw [goOn, Option.bind_some, within_map, Option.map_map]
              by_cases hms : ms = []
              · rw [hms, memberTokens, List.flatMap_nil, List.nil_append, takeUntilValue_separator rfl, memberDepth,
                  memberValues?, within_of_le (Nat.zero_le _)]
                rfl
              · rw [flatMap_comma (memberTokens_ne_nil hms), List.cons_append, takeUntilValue_separator rfl,
                  takeUntilValue_members ms hms]
                refine congrArg _ (congrArg (Option.map · _) (funext fun vs => ?_))
                simp

end

/-- **A text that writes a document is read to its end**, as the value of that if it has one and no more containers stand in one
another than may be open. -/
theorem leading_of_writes {d : Document} {text : String} (h : Writes text.toList d.tokens) :
    Value.leading text
      = match within d.depth greatestDepth d.value? with
        | some v => .ok (v, true)
        | none => .error .malformed := by
  have hread := takeUntilValue_tokens d [] []
  rw [List.append_nil] at hread
  rw [Value.leading, h.all d.separated, start, hread]
  cases within d.depth greatestDepth d.value? <;> rfl

end Document

end MonitorQuery.Json
