import MonitorQuery.Proofs.Toml.Numbers
import MonitorQuery.Proofs.Toml.Strings
import MonitorQuery.Toml.Reader

/-!
The lines of a TOML document, written and read back.

A line gives a bare key a value. Nothing is passed over in front of it, so the lines of a text are its first line and those of
what is behind it, and the entries of a document are those of its lines.

* `IsBareKey`: a key without quotation marks; `IsBareKey.reads_key`: it is read up to the equals sign.
* `reads_readEntry`: a line is read back if its value is; `all_of_read`: the lines of a text, from its first.
* `all_stringLine`, `all_naturalLine`: **a line that gives a key a string, or a number of 64 bits, is read back.**
* `ofLines_map_entry`: **entries with keys of their own make a document of just these.**
-/

namespace MonitorQuery.Toml

open MonitorQuery.Text

/-! ### Keys -/

/-- A key that needs no quotation marks. -/
structure IsBareKey (cs : List Char) : Prop where
  ne_nil : cs ≠ []
  chars : ∀ c ∈ cs, isKeyChar c = true

/-- A character of a key is none of those that mean something at the front of a line. -/
lemma ne_of_isKeyChar {c : Char} (h : isKeyChar c = true) :
    ∀ d ∈ ['\x22', '\x27', ' ', '\t', '#', '\n', '\r', '['], c ≠ d := by
  rintro d hd rfl
  revert h
  fin_cases hd <;> decide

section Keys

variable {cs rest : List Char}

/-- A text that begins with a character of a key. -/
def BeginsLine (cs : List Char) : Prop := ∃ c tail, cs = c :: tail ∧ isKeyChar c = true

lemma IsBareKey.beginsLine_append (h : IsBareKey cs) (rest : List Char) : BeginsLine (cs ++ rest) := by
  obtain ⟨c, tail, rfl⟩ := List.exists_cons_of_ne_nil h.ne_nil
  exact ⟨c, tail ++ rest, rfl, h.chars c List.mem_cons_self⟩

/-- There is nothing to pass over at the front of a line. -/
lemma BeginsLine.head (h : BeginsLine cs) : ∀ c ∈ cs.head?, isBlank c = false ∧ c ≠ '#' ∧ c ≠ '\n' ∧ c ≠ '\r' := by
  obtain ⟨c, tail, rfl, hc⟩ := h
  have hne := ne_of_isKeyChar hc
  intro d hd
  obtain rfl : c = d := by simpa using hd
  exact ⟨by simp [isBlank, hne ' ' (by decide), hne '\t' (by decide)], hne _ (by decide), hne _ (by decide), hne _ (by decide)⟩

lemma IsBareKey.reads_keyPart (h : IsBareKey cs) (hrest : ∀ c ∈ rest.head?, isKeyChar c = false) :
    Reads (keyPart (cs ++ rest)) (String.ofList cs) rest := by
  have hline : lineString (cs ++ rest) = none := by
    obtain ⟨c, tail, htext, hc⟩ := h.beginsLine_append rest
    rw [htext, lineString]
    · rintro _ heq
      exact ne_of_isKeyChar hc '\x22' (by decide) (List.cons.inj heq).1
    · rintro _ heq
      exact ne_of_isKeyChar hc '\x27' (by decide) (List.cons.inj heq).1
  have hlt : rest.length < (cs ++ rest).length := by
    have hpos := List.length_pos_iff.mpr h.ne_nil
    rw [List.length_append]
    omega
  obtain ⟨hle, hfront⟩ := takeFront_append_of_head h.chars hrest
  rw [keyPart, hline]
  simp only [hfront]
  rw [dif_pos hlt]
  exact ⟨hlt, rfl⟩

lemma IsBareKey.reads_keyParts (h : IsBareKey cs) (rest : List Char) :
    Reads (keyParts (cs ++ ' ' :: '=' :: rest)) [String.ofList cs] ('=' :: rest) := by
  have hspace : isKeyChar ' ' = false := by decide
  have hpart : Reads (keyPart (cs ++ ' ' :: '=' :: rest)) (String.ofList cs) (' ' :: '=' :: rest) :=
    h.reads_keyPart (by simpa using hspace)
  have hfront : (skipBlanks (cs ++ ' ' :: '=' :: rest)).1 = cs ++ ' ' :: '=' :: rest :=
    skipFront_of_head fun c hc => ((h.beginsLine_append _).head c hc).1
  rw [← hfront] at hpart
  obtain ⟨hlt, hpart⟩ := hpart
  rw [keyParts]
  simp only [hpart]
  split
  · next heq => exact absurd (List.cons.inj heq).1 (by decide)
  · exact ⟨_, rfl⟩

lemma IsBareKey.reads_key (h : IsBareKey cs) (rest : List Char) :
    Reads (key (cs ++ ' ' :: '=' :: rest)) ⟨[], String.ofList cs⟩ ('=' :: rest) := by
  obtain ⟨hlt, hparts⟩ := h.reads_keyParts rest
  have hpath : Path.ofParts? [String.ofList cs] = some ⟨[], String.ofList cs⟩ := rfl
  refine ⟨hlt, ?_⟩
  rw [key, hparts]
  simp only [Option.bind_eq_bind, Option.bind_some, hpath]

end Keys

/-! ### Entries -/

section Entries

variable {cs text rest : List Char} {v : Value}

/-- A value on a line by itself, behind a bare key and an equals sign. -/
lemma reads_readEntry (hkey : IsBareKey cs) (htext : ∀ c ∈ (text ++ '\n' :: rest).head?, isBlank c = false)
    (hvalue : Reads (value greatestDepth (text ++ '\n' :: rest)) v ('\n' :: rest)) :
    Reads (Line.readEntry (cs ++ ' ' :: '=' :: ' ' :: (text ++ '\n' :: rest))) (.entry ⟨[], String.ofList cs⟩ v) rest := by
  obtain ⟨hlt, hread⟩ := hkey.reads_key (' ' :: (text ++ '\n' :: rest))
  have hfront : (skipBlanks (' ' :: (text ++ '\n' :: rest))).1 = text ++ '\n' :: rest := by
    have hspace : ∀ c ∈ [' '], isBlank c = true := List.all_eq_true.mp rfl
    exact skipFront_append_of_head hspace htext
  rw [← hfront] at hvalue
  obtain ⟨hlt', hvalue⟩ := hvalue
  have hmark : mark '=' ('=' :: ' ' :: (text ++ '\n' :: rest)) = some ((RestOrAll.all _).behind '=') := rfl
  obtain ⟨hle, hend⟩ : ∃ h, endLine ('\n' :: rest) = some ⟨rest, h⟩ := ⟨by simp, rfl⟩
  rw [Line.readEntry, hread]
  simp only [Option.bind_eq_bind, Option.bind_some, hmark, Rest.andThen, Rest.weaken, RestOrAll.behind, RestOrAll.all, hvalue]
  rw [hend]
  exact ⟨_, rfl⟩

/-- A line that begins with a key is an entry. -/
lemma reads_read {l : Line} (h : BeginsLine cs) (hread : Reads (Line.readEntry cs) l rest) : Reads (Line.read cs) l rest := by
  obtain ⟨c, tail, rfl, hc⟩ := h
  have hne : c ≠ '[' := ne_of_isKeyChar hc '[' (by decide)
  rw [Line.read]
  · exact hread
  · rintro _ heq
    exact hne (List.cons.inj heq).1
  · rintro _ heq
    exact hne (List.cons.inj heq).1

/-- No space is passed over in front of a line, and none at the end of a text. -/
lemma skipSpace_of_head (h : ∀ c ∈ cs.head?, isBlank c = false ∧ c ≠ '#' ∧ c ≠ '\n' ∧ c ≠ '\r') :
    (skipSpace cs).1 = cs ∧ (skipComment (skipSpace cs).1).1 = cs := by
  have hblanks : (skipBlanks cs).1 = cs := skipFront_of_head fun c hc => (h c hc).1
  have hcomment : (skipComment cs).1 = cs := by
    rw [skipComment]
    · rfl
    · rintro tail rfl
      exact (h '#' rfl).2.1 rfl
  have hline : newLine? (skipComment (skipBlanks cs).1).1 = none := by
    rw [hblanks, hcomment]
    exact newLine?_eq_none fun c hc => (h c hc).2.2
  have hspace : (skipSpace cs).1 = cs := by
    rw [skipSpace]
    simp only [RestOrAll.andThen, hline]
    exact hblanks
  rw [hspace]
  exact ⟨rfl, hcomment⟩

/-- The lines of a text are a first one and those of the rest. -/
lemma all_of_read {l : Line} (h : BeginsLine cs) (hread : Reads (Line.read cs) l rest) :
    Line.all cs = (Line.all rest).map (l :: ·) := by
  obtain ⟨hspace, hcomment⟩ := skipSpace_of_head h.head
  have hnonempty : (skipComment (skipSpace cs).1).1.isEmpty = false := by
    obtain ⟨c, tail, rfl, -⟩ := h
    rw [hcomment]
    rfl
  rw [← hspace] at hread
  obtain ⟨hlt, hread⟩ := hread
  rw [Line.all]
  simp only [RestOrAll.andThen, hnonempty, Bool.false_eq_true, if_false, hread]
  cases Line.all rest <;> rfl

lemma all_nil : Line.all [] = some [] := by
  have hcomment := (@skipSpace_of_head [] (by simp)).2
  rw [Line.all]
  simp only [RestOrAll.andThen, hcomment, List.isEmpty_nil, if_true]

end Entries

/-! ### Strings and numbers as values -/

section Values

variable {depth : ℕ} {cs rest : List Char} {v : Value}

/-- Where neither an array nor a table begins, a value is a string if one can be read. -/
lemma reads_value_of_anyString {s : List Char} (hhead : ∀ c ∈ cs.head?, c ≠ '[' ∧ c ≠ '\x7b')
    (h : Reads (anyString cs) s rest) : Reads (value depth cs) (.string (String.ofList s)) rest := by
  obtain ⟨hlt, h⟩ := h
  rw [value, h]
  · exact ⟨hlt, rfl⟩
  · rintro tail rfl
    exact (hhead '[' rfl).1 rfl
  · rintro tail rfl
    exact (hhead '\x7b' rfl).2 rfl

/-- A string begins with a mark. -/
lemma exists_writeString_eq_cons (s : String) : ∃ c tail, writeString s = c :: tail ∧ c ∈ ['\x22', '\x27'] := by
  rw [writeString]
  cases Form.choose s.toList with
  | basic | multilineBasic => exact ⟨'\x22', _, rfl, by decide⟩
  | literal | multilineLiteral => exact ⟨'\x27', _, rfl, by decide⟩

lemma isBlank_of_isDigit {c : Char} (hc : c.isDigit = true) : isBlank c = false := by
  have hne : c ≠ ' ' ∧ c ≠ '\t' := by
    constructor <;> rintro rfl <;> exact absurd hc (by decide)
  simp [isBlank, hne]

/-- Where a digit stands, a value is a number if one can be read. -/
lemma reads_value_of_scalar {c : Char} (hc : c.isDigit = true) (h : Reads (scalar (c :: cs)) v rest) :
    Reads (value depth (c :: cs)) v rest := by
  have hne : ∀ d : Char, d.isDigit = false → c ≠ d := by
    rintro d hd rfl
    rw [hc] at hd
    cases hd
  have hstring : anyString (c :: cs) = none := by
    rw [anyString, lineString]
    · exact fun _ heq => hne '\x22' (by decide) (List.cons.inj heq).1
    · exact fun _ heq => hne '\x27' (by decide) (List.cons.inj heq).1
    · exact fun _ heq => hne '\x22' (by decide) (List.cons.inj heq).1
    · exact fun _ heq => hne '\x27' (by decide) (List.cons.inj heq).1
  obtain ⟨hlt, h⟩ := h
  rw [value, hstring]
  · exact ⟨hlt, h⟩
  · exact fun _ heq => hne '[' (by decide) (List.cons.inj heq).1
  · exact fun _ heq => hne '\x7b' (by decide) (List.cons.inj heq).1

end Values

/-! ### Lines -/

section Lines

variable {key : String}

/-- A line with a value that is read back is read back. -/
lemma all_entryLine (hkey : IsBareKey key.toList) {text rest : List Char} {v : Value}
    (htext : ∀ c ∈ (text ++ '\n' :: rest).head?, isBlank c = false)
    (hvalue : Reads (value greatestDepth (text ++ '\n' :: rest)) v ('\n' :: rest)) :
    Line.all (key.toList ++ " = ".toList ++ text ++ ['\n'] ++ rest) = (Line.all rest).map (.entry ⟨[], key⟩ v :: ·) := by
  have hline : key.toList ++ " = ".toList ++ text ++ ['\n'] ++ rest
      = key.toList ++ ' ' :: '=' :: ' ' :: (text ++ '\n' :: rest) := by simp
  have hbegins := hkey.beginsLine_append (' ' :: '=' :: ' ' :: (text ++ '\n' :: rest))
  have hread := reads_read hbegins (reads_readEntry hkey htext hvalue)
  rw [String.ofList_toList] at hread
  rw [hline, all_of_read hbegins hread]

/-- **A line that gives a key a string is read back.** -/
theorem all_stringLine (hkey : IsBareKey key.toList) (s : String) (rest : List Char) :
    Line.all (stringLine key s ++ rest) = (Line.all rest).map (.entry ⟨[], key⟩ (.string s) :: ·) := by
  obtain ⟨c, tail, htext, hc⟩ := exists_writeString_eq_cons s
  have hhead : ∀ d ∈ (writeString s ++ '\n' :: rest).head?, isBlank d = false ∧ d ≠ '[' ∧ d ≠ '\x7b' := by
    intro d hd
    obtain rfl : c = d := by simpa [htext] using hd
    fin_cases hc <;> decide
  have hvalue : Reads (value greatestDepth (writeString s ++ '\n' :: rest)) (.string (String.ofList s.toList)) ('\n' :: rest) :=
    reads_value_of_anyString (fun d hd => (hhead d hd).2) (reads_writeString s ('\n' :: rest) (by simp) (by simp))
  rw [String.ofList_toList] at hvalue
  exact all_entryLine hkey (fun d hd => (hhead d hd).1) hvalue

/-- **A line that gives a key a number of 64 bits is read back.** -/
theorem all_naturalLine (hkey : IsBareKey key.toList) {n : ℕ} (hn : (n : ℤ) ≤ Decimal.Bounds.signed64.highest)
    (rest : List Char) :
    Line.all (naturalLine key n ++ rest) = (Line.all rest).map (.entry ⟨[], key⟩ (.integer n) :: ·) := by
  obtain ⟨c, tail, hdigits⟩ := List.exists_cons_of_ne_nil (Nat.toDigits_ne_nil (n := n) (b := 10))
  have hc : c.isDigit = true := Decimal.isDigit_toDigits n c (by rw [hdigits]; exact List.mem_cons_self)
  have hblank : ∀ d ∈ (Nat.toDigits 10 n ++ '\n' :: rest).head?, isBlank d = false := by
    intro d hd
    obtain rfl : c = d := by simpa [hdigits] using hd
    exact isBlank_of_isDigit hc
  have hvalue : Reads (value greatestDepth (Nat.toDigits 10 n ++ '\n' :: rest)) (.integer n) ('\n' :: rest) := by
    have hscalar := reads_scalar_toDigits hn rest
    rw [hdigits, List.cons_append] at hscalar ⊢
    exact reads_value_of_scalar hc hscalar
  exact all_entryLine hkey hblank hvalue

end Lines

/-! ### Documents -/

/-- An entry under a key of its own is put behind those that are there. -/
lemma add_entry {es : Entries} {key : String} (hkey : key ∉ es.map (·.1)) (v : Value) :
    Document.add ⟨es, []⟩ (.entry ⟨[], key⟩ v) = some ⟨es ++ [(key, v)], []⟩ := by
  have hlookup : es.lookup key = none := by
    refine List.lookup_eq_none_iff.mpr fun e he => ?_
    simpa using (ne_of_mem_of_not_mem (List.mem_map_of_mem he) hkey).symm
  simp [Document.add, Entries.change, Entries.insert, hlookup]

lemma foldlM_add_entries {es before : Entries} (h : ((before ++ es).map (·.1)).Nodup) :
    (es.map fun (key, v) => Line.entry ⟨[], key⟩ v).foldlM Document.add ⟨before, []⟩ = some ⟨before ++ es, []⟩ := by
  induction es generalizing before with
  | nil => simp
  | cons e es ih =>
      obtain ⟨key, v⟩ := e
      have hkey : key ∉ before.map (·.1) := by
        rw [List.map_append, List.map_cons] at h
        exact fun hmem => (List.nodup_append.mp h).2.2 key hmem key List.mem_cons_self rfl
      rw [List.append_cons] at h
      rw [List.map_cons, List.foldlM_cons, add_entry hkey, Option.bind_eq_bind, Option.bind_some, ih h, ← List.append_cons]

/-- **Entries with keys of their own make a document of just these**, in order. -/
theorem ofLines_map_entry {es : Entries} (hes : (es.map (·.1)).Nodup) :
    Document.ofLines (es.map fun (key, v) => .entry ⟨[], key⟩ v) = some es := by
  have hall := @foldlM_add_entries es [] hes
  rw [Document.ofLines, hall]
  rfl

end MonitorQuery.Toml
