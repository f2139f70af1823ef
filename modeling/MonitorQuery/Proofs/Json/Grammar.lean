import MonitorQuery.Proofs.Json.Numerals

/-!
The grammar of JSON texts.

A document is a tree of words, numbers, strings, arrays and objects. It is written as tokens, and tokens as a text, with any
white space between them and around. The grammar says nothing of what a document means: a number may be out of range, a string may
have half a character in it, and containers may stand in one another to any depth.

* `whiteSpace`: the white space; `isSpace_iff`: the reader passes over the same.
* `Token`, `Writes`: tokens, and the texts that write them.
* `Document`, `Document.tokens`: the documents, and what each is written as.
* `first_text`, `all_of_writes`: **the tokens of a text are read one after the other**, up to the first that is broken.
* `Document.separated`: among the tokens of a document no two values stand side by side.
-/

namespace MonitorQuery.Json

open MonitorQuery.Text

/-! ### Tokens -/

/-- The white space that may stand between tokens. -/
def whiteSpace : List Char := [' ', '\t', '\n', '\r']

/-- **The reader passes over white space** and nothing else. -/
lemma isSpace_iff {c : Char} : isSpace c = true ↔ c ∈ whiteSpace := by
  simp only [isSpace, whiteSpace, Bool.or_eq_true, beq_iff_eq, List.mem_cons, List.not_mem_nil, or_false]
  tauto

/-- The marks of containers. -/
inductive Mark
  | openArray | closeArray | openObject | closeObject | colon | comma
  deriving DecidableEq

namespace Mark

/-- What a mark is in a text. -/
def char : Mark → Char
  | openArray => '['
  | closeArray => ']'
  | openObject => '\x7b'
  | closeObject => '\x7d'
  | colon => ':'
  | comma => ','

/-- The lexeme of a mark. -/
def lexeme : Mark → Lexeme
  | openArray => .openArray
  | closeArray => .closeArray
  | openObject => .openObject
  | closeObject => .closeObject
  | colon => .colon
  | comma => .comma

end Mark

/-- The words for values. -/
inductive Word
  | null
  | truth (b : Bool)
  deriving DecidableEq

namespace Word

/-- What a word is in a text. -/
def text : Word → List Char
  | null => ['n', 'u', 'l', 'l']
  | truth true => ['t', 'r', 'u', 'e']
  | truth false => ['f', 'a', 'l', 's', 'e']

/-- The value that a word stands for. -/
def value : Word → Value
  | null => .null
  | truth b => .truth b

end Word

/-- What a text is written of. -/
inductive Token
  | mark (m : Mark)
  | word (w : Word)
  | number (n : Numeral)
  | string (s : Spelling)

namespace Token

/-- What a token is in a text. -/
def text : Token → List Char
  | mark m => [m.char]
  | word w => w.text
  | number n => n.text
  | string s => Spelling.text s

/-- The lexeme of a token, if it is not broken. -/
def lexeme? : Token → Option Lexeme
  | mark m => some m.lexeme
  | word w => some (.scalar w.value)
  | number n => if n.InRange then some (.scalar n.value) else none
  | string s => s.decode?.map fun cs => .string (String.ofList cs)

/-- The token is a string. -/
def isString : Token → Bool
  | string _ => true
  | _ => false

/-- The token is a mark. -/
def isMark : Token → Bool
  | mark _ => true
  | _ => false

end Token

/-- A text writes tokens: they stand in it one after the other, with white space before each and at the end. -/
inductive Writes : List Char → List Token → Prop
  | nil {space : List Char} (hspace : ∀ c ∈ space, c ∈ whiteSpace) : Writes space []
  | cons {space cs : List Char} {t : Token} {ts : List Token} (hspace : ∀ c ∈ space, c ∈ whiteSpace) (hts : Writes cs ts) :
      Writes (space ++ (t.text ++ cs)) (t :: ts)

/-- The lexemes of tokens, up to and with the first that is broken. -/
def lexemesOf : List Token → List Lexeme
  | [] => []
  | t :: ts =>
    match t.lexeme? with
    | some l => l :: lexemesOf ts
    | none => [.broken t.isString .malformed]

/-! ### Reading tokens -/

section Tokens

variable {c : Char} {cs rest : List Char}

/-- What begins as a number is read as one. -/
lemma first_of_numeric (h : c = '-' ∨ c.isDigit = true) : Lexeme.first c cs = Lexeme.number c cs := by
  have hne : ∀ d, d ≠ '-' → d.isDigit = false → c ≠ d := by
    rintro d hminus hdigit rfl
    obtain h | h := h
    · exact hminus h
    · rw [h] at hdigit
      cases hdigit
  have hnumeric : (decide (c = '-') || c.isDigit) = true := by simpa using h
  rw [Lexeme.first, if_neg (hne '[' (by decide) (by decide)), if_neg (hne ']' (by decide) (by decide)),
    if_neg (hne '\x7b' (by decide) (by decide)), if_neg (hne '\x7d' (by decide) (by decide)),
    if_neg (hne ':' (by decide) (by decide)), if_neg (hne ',' (by decide) (by decide)),
    if_neg (hne '\x22' (by decide) (by decide)), if_pos hnumeric]

/-- A number begins with its sign or a digit. -/
lemma Numeral.head_text (n : Numeral) (hcs : n.text ++ rest = c :: cs) : c = '-' ∨ c.isDigit = true := by
  obtain ⟨d, ds, hds⟩ := List.exists_cons_of_ne_nil n.whole.ne_nil
  have hd : d.isDigit = true := n.whole.isDigit d (hds ▸ List.mem_cons_self)
  rw [text] at hcs
  split at hcs
  · exact .inl (List.cons.inj hcs).1.symm
  · rw [unsigned, hds] at hcs
    exact .inr ((List.cons.inj hcs).1 ▸ hd)

lemma Numeral.text_ne_nil (n : Numeral) : n.text ≠ [] := by
  have hwhole := n.whole.ne_nil
  rw [text]
  split <;> simp [unsigned, hwhole]

/-- **A token is read off the front of a text**, or found to be broken. -/
lemma first_text (t : Token) (hrest : t.isMark = false → EndsNumber rest) (hcs : t.text ++ rest = c :: cs) :
    ∃ h, Lexeme.first c cs
      = match t.lexeme? with
        | some l => (l, ⟨rest, h⟩)
        | none => Lexeme.stop c t.isString .malformed := by
  cases t with
  | mark m =>
      obtain ⟨rfl, rfl⟩ := List.cons.inj hcs
      refine ⟨by simp, ?_⟩
      cases m <;> rfl
  | word w =>
      match w with
      | .null | .truth true | .truth false =>
          obtain ⟨rfl, rfl⟩ := List.cons.inj hcs
          exact ⟨by simp; omega, rfl⟩
  | number n =>
      obtain ⟨h, hnumber⟩ := number_text n (hrest rfl) hcs
      refine ⟨h, ?_⟩
      rw [first_of_numeric (n.head_text hcs), hnumber, Token.lexeme?]
      split_ifs <;> rfl
  | string s =>
      have htext : '\x22' :: (s.body ++ rest) = c :: cs := hcs
      obtain ⟨rfl, rfl⟩ := List.cons.inj htext
      have hread := answers_stringBody s rest
      refine ⟨by simp, ?_⟩
      rw [Lexeme.first, if_neg (by decide), if_neg (by decide), if_neg (by decide), if_neg (by decide), if_neg (by decide),
        if_neg (by decide), if_pos rfl, Token.lexeme?]
      cases hdecode : s.decode? with
      | none =>
          rw [hdecode] at hread
          rw [show stringBody (s.body ++ rest) = .error .malformed from hread]
          rfl
      | some ds =>
          rw [hdecode] at hread
          obtain ⟨hlength, hread⟩ := hread
          rw [hread]
          rfl

/-- White space before a text is passed over. -/
lemma all_space {space : List Char} (hspace : ∀ c ∈ space, c ∈ whiteSpace) (cs : List Char) :
    Lexeme.all (space ++ cs) = Lexeme.all cs := by
  induction space with
  | nil => rfl
  | cons c space ih =>
      obtain ⟨hc, hspace⟩ := List.forall_mem_cons.mp hspace
      rw [List.cons_append, Lexeme.all, if_pos (isSpace_iff.mpr hc), ih hspace]

/-- No token begins with white space. -/
lemma Token.exists_text_eq_cons (t : Token) : ∃ c cs, t.text = c :: cs ∧ c ∉ whiteSpace := by
  cases t with
  | mark m => exact ⟨m.char, [], rfl, by cases m <;> decide⟩
  | word w =>
      match w with
      | .null | .truth true | .truth false => exact ⟨_, _, rfl, by decide⟩
  | number n =>
      obtain ⟨c, cs, hcs⟩ := List.exists_cons_of_ne_nil n.text_ne_nil
      have hnumeric : c = '-' ∨ c.isDigit = true := n.head_text ((List.append_nil _).trans hcs)
      have hnone : ∀ d ∈ whiteSpace, ¬ (d = '-' ∨ d.isDigit = true) := by simp [whiteSpace]
      exact ⟨c, cs, hcs, fun hc => hnone c hc hnumeric⟩
  | string s => exact ⟨'\x22', s.body, rfl, by decide⟩

/-- **A token is the first lexeme of a text**, and the last if it is broken. -/
lemma all_text (t : Token) (hrest : t.isMark = false → EndsNumber rest) :
    Lexeme.all (t.text ++ rest)
      = match t.lexeme? with
        | some l => l :: Lexeme.all rest
        | none => [.broken t.isString .malformed] := by
  obtain ⟨c, cs, hcs, hspace⟩ := t.exists_text_eq_cons
  have hfront : t.text ++ rest = c :: (cs ++ rest) := by rw [hcs, List.cons_append]
  obtain ⟨hlength, hfirst⟩ := first_text t hrest hfront
  rw [hcs, List.cons_append, Lexeme.all, if_neg (fun h => hspace (isSpace_iff.mp h)), hfirst]
  cases t.lexeme? with
  | none =>
      show Lexeme.broken t.isString .malformed :: Lexeme.all [] = _
      rw [Lexeme.all]
  | some l => rfl

end Tokens

/-! ### Texts of tokens -/

/-- No two tokens are values side by side. -/
def Separated (ts : List Token) : Prop := ts.IsChain fun s t => s.isMark = true ∨ t.isMark = true

/-- White space ends a number. -/
lemma endsNumber_space {c : Char} (h : c ∈ whiteSpace) (cs : List Char) : EndsNumber (c :: cs) := by
  have hall : ∀ c ∈ whiteSpace, c.isDigit = false ∧ c ≠ '.' ∧ c ≠ 'e' ∧ c ≠ 'E' := by simp [whiteSpace]
  rintro d ⟨⟩
  exact hall c h

/-- A mark ends a number. -/
lemma endsNumber_mark (m : Mark) (cs : List Char) : EndsNumber (m.char :: cs) := by
  rintro d ⟨⟩
  cases m <;> decide

/-- No number goes on where a mark or nothing follows, with white space or without. -/
lemma Writes.endsNumber {cs : List Char} {ts : List Token} (h : Writes cs ts) (hts : ∀ t ∈ ts.head?, t.isMark = true) :
    EndsNumber cs := by
  cases h with
  | nil hspace =>
      cases cs with
      | nil => rintro c ⟨⟩
      | cons c cs => exact endsNumber_space (hspace c List.mem_cons_self) cs
  | @cons space cs t ts hspace htail =>
      cases space with
      | cons c space => exact endsNumber_space (hspace c List.mem_cons_self) _
      | nil =>
          have hmark := hts t rfl
          cases t with
          | mark m => exact endsNumber_mark m cs
          | word _ | number _ | string _ => cases hmark

/-- **The tokens of a text are read one after the other**, up to the first that is broken. -/
theorem Writes.all {cs : List Char} {ts : List Token} (h : Writes cs ts) (hts : Separated ts) :
    Lexeme.all cs = lexemesOf ts := by
  induction h with
  | @nil space hspace =>
      have hall := all_space hspace []
      rw [List.append_nil] at hall
      rw [hall, Lexeme.all, lexemesOf]
  | @cons space cs t ts hspace htail ih =>
      obtain ⟨hhead, htokens⟩ := List.isChain_cons.mp hts
      have hends : t.isMark = false → EndsNumber cs := by
        intro hmark
        refine htail.endsNumber fun u hu => ?_
        simpa [hmark] using hhead u hu
      rw [all_space hspace, all_text t hends, ih htokens, lexemesOf]

/-! ### Documents -/

/-- A JSON document as it is written. -/
inductive Document
  | word (w : Word)
  | number (n : Numeral)
  | string (s : Spelling)
  | array (items : List Document)
  | object (members : List (Spelling × Document))

/-- Parts with commas between them. -/
def commas : List (List Token) → List Token
  | [] => []
  | part :: parts => part ++ parts.flatMap (.mark .comma :: ·)

/-- Parts with commas between them, inside the marks of a container. -/
def enclosed (left right : Mark) (parts : List (List Token)) : List Token :=
  .mark left :: (commas parts ++ [.mark right])

namespace Document

mutual

/-- The tokens of a document. -/
def tokens : Document → List Token
  | word w => [.word w]
  | number n => [.number n]
  | string s => [.string s]
  | array items => enclosed .openArray .closeArray (itemTokens items)
  | object members => enclosed .openObject .closeObject (memberTokens members)

/-- The tokens of the items of an array. -/
def itemTokens : List Document → List (List Token)
  | [] => []
  | d :: ds => tokens d :: itemTokens ds

/-- The tokens of the members of an object. -/
def memberTokens : List (Spelling × Document) → List (List Token)
  | [] => []
  | (name, d) :: members => (.string name :: .mark .colon :: tokens d) :: memberTokens members

end

end Document

/-- Tokens that may stand before a mark, or at the end. -/
def Closes (part : List Token) : Prop :=
  ∀ more : List Token, (∀ t ∈ more.head?, t.isMark = true) → Separated more → Separated (part ++ more)

lemma separated_mark_cons {m : Mark} {more : List Token} (h : Separated more) : Separated (.mark m :: more) :=
  List.isChain_cons.mpr ⟨fun _ _ => .inl rfl, h⟩

lemma closes_singleton (t : Token) : Closes [t] :=
  fun _ hhead hmore => List.isChain_cons.mpr ⟨fun u hu => .inr (hhead u hu), hmore⟩

section Parts

variable {parts : List (List Token)}

lemma Closes.later (h : ∀ part ∈ parts, Closes part) {more : List Token} (hhead : ∀ t ∈ more.head?, t.isMark = true)
    (hmore : Separated more) :
    (∀ t ∈ (parts.flatMap (.mark .comma :: ·) ++ more).head?, t.isMark = true)
      ∧ Separated (parts.flatMap (.mark .comma :: ·) ++ more) := by
  induction parts with
  | nil => exact ⟨hhead, hmore⟩
  | cons part parts ih =>
      obtain ⟨hpart, hparts⟩ := List.forall_mem_cons.mp h
      obtain ⟨hhead', hmore'⟩ := ih hparts
      refine ⟨by rintro t ⟨⟩; rfl, ?_⟩
      rw [List.flatMap_cons, List.append_assoc]
      exact separated_mark_cons (hpart _ hhead' hmore')

lemma Closes.commas (h : ∀ part ∈ parts, Closes part) {more : List Token} (hhead : ∀ t ∈ more.head?, t.isMark = true)
    (hmore : Separated more) : Separated (commas parts ++ more) := by
  cases parts with
  | nil => exact hmore
  | cons part parts =>
      obtain ⟨hpart, hparts⟩ := List.forall_mem_cons.mp h
      obtain ⟨hhead', hmore'⟩ := Closes.later hparts hhead hmore
      rw [Json.commas, List.append_assoc]
      exact hpart _ hhead' hmore'

lemma Closes.enclosed (h : ∀ part ∈ parts, Closes part) (left right : Mark) : Closes (enclosed left right parts) := by
  intro more _ hmore
  rw [Json.enclosed, List.cons_append, List.append_assoc]
  exact separated_mark_cons (Closes.commas h (by rintro t ⟨⟩; rfl) (separated_mark_cons hmore))

end Parts

namespace Document

mutual

lemma closes_tokens : ∀ d : Document, Closes d.tokens
  | word _ => closes_singleton _
  | number _ => closes_singleton _
  | string _ => closes_singleton _
  | array items => by
      rw [tokens]
      exact Closes.enclosed (closes_itemTokens items) _ _
  | object members => by
      rw [tokens]
      exact Closes.enclosed (closes_memberTokens members) _ _

lemma closes_itemTokens : ∀ items : List Document, ∀ part ∈ itemTokens items, Closes part
  | [] => by
      rintro part ⟨⟩
  | d :: ds => by
      rw [itemTokens]
      exact List.forall_mem_cons.mpr ⟨closes_tokens d, closes_itemTokens ds⟩

lemma closes_memberTokens : ∀ members : List (Spelling × Document), ∀ part ∈ memberTokens members, Closes part
  | [] => by
      rintro part ⟨⟩
  | (name, d) :: members => by
      rw [memberTokens]
      refine List.forall_mem_cons.mpr ⟨fun more hhead hmore => ?_, closes_memberTokens members⟩
      have hvalue := closes_tokens d more hhead hmore
      exact List.isChain_cons.mpr ⟨by rintro t ⟨⟩; exact .inr rfl, separated_mark_cons hvalue⟩

end

/-- **Among the tokens of a document no two values stand side by side.** -/
lemma separated (d : Document) : Separated d.tokens := by
  have hclosed := closes_tokens d [] (by rintro t ⟨⟩) List.isChain_nil
  rwa [List.append_nil] at hclosed

end Document

end MonitorQuery.Json
