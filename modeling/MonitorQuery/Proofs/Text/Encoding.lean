import MonitorQuery.Proofs.Text.Decoding
import MonitorQuery.Proofs.Text.Trimming

/-!
Encoding at two levels, and what it guarantees.

A component keeps a few marks that are otherwise reserved. So it is encoded character by character: the marks are put down as
they are, and each other character goes, as a text of its own, through an encoder of texts that knows nothing of the marks.

* `EscapesReserved`: what is asked of that encoder. It keeps the unreserved characters and encodes every other byte.
* `encodeWith`: the loop over the characters, for any such encoder. `toList_encodeStep` is one turn of it,
  `toList_foldl_encodeStep` all of them, and so `encodeWith_eq` that **the two levels together are the one encoding**.
* `IsComponent`: kept characters, and percent signs with two upper-case digits. `isComponent_encodeChars` says that encodings
  are of that form, and `notMem_separators_of_mem_encodeChars` that they have no separators, blanks or U+0000 in them.
* `IsFaithful`: **an encoding is read back, has none of the separators, and joins with others**; `isFaithful_encode`.
-/

namespace MonitorQuery.Text.Percent

/-! ### The unreserved characters and the marks -/

/-- The marks that a component keeps besides the unreserved characters. -/
def componentMarks : List Char := ['!', '\x27', '(', ')', '*']

/-- The unreserved characters. -/
def isUnreserved (c : Char) : Bool := c.isAlphanum || ['-', '_', '.', '~'].contains c

variable {c : Char}

/-- Besides the unreserved characters, the marks are kept. -/
lemma isKept_iff : isKept c = true ↔ c ∈ componentMarks ∨ isUnreserved c = true := by
  simp only [isKept, keptPunctuation, componentMarks, isUnreserved, Bool.or_eq_true, List.contains_iff_mem, List.mem_cons,
    List.not_mem_nil, or_false]
  tauto

/-- No character beyond ASCII is unreserved. -/
lemma isUnreserved_eq_false (h : 128 ≤ c.toNat) : isUnreserved c = false := by
  by_contra hne
  have := toNat_of_isKept (isKept_iff.mpr (.inr (Bool.eq_true_of_not_eq_false hne)))
  omega

/-! ### One character, byte by byte -/

/-- An ASCII character is one byte. -/
lemma utf8EncodeChar_of_lt (h : c.toNat < 128) : String.utf8EncodeChar c = [UInt8.ofNat c.toNat] := by
  have hle : c.val.toNat ≤ 127 := Nat.le_of_lt_succ h
  rw [String.utf8EncodeChar, if_pos hle]
  rfl

/-- All bytes of another character are beyond ASCII. -/
lemma le_of_mem_utf8EncodeChar {b : UInt8} (h : 128 ≤ c.toNat) (hb : b ∈ String.utf8EncodeChar c) : 128 ≤ b.toNat := by
  have hgt : ¬ c.val.toNat ≤ 127 := Nat.not_le.mpr h
  rw [String.utf8EncodeChar, if_neg hgt] at hb
  -- two, three or four bytes, each with its upper bit set
  split_ifs at hb <;> simp only [List.mem_cons, List.not_mem_nil, or_false] at hb
  · rcases hb with rfl | rfl <;> rw [UInt8.toNat_ofNat'] <;> omega
  · rcases hb with rfl | rfl | rfl <;> rw [UInt8.toNat_ofNat'] <;> omega
  · rcases hb with rfl | rfl | rfl | rfl <;> rw [UInt8.toNat_ofNat'] <;> omega

/-- A byte as an encoder writes it that keeps the unreserved characters alone. -/
def escapeByte (b : UInt8) : List Char :=
  if isUnreserved (Char.ofUInt8 b) then [Char.ofUInt8 b] else encodeByte b

/-- **The choice by bytes is one by characters**: no byte of a longer character passes for an unreserved one. -/
lemma flatMap_escapeByte (c : Char) :
    (String.utf8EncodeChar c).flatMap escapeByte = if isUnreserved c then [c] else escapeChar c := by
  by_cases hascii : c.toNat < 128
  · have hbyte : Char.ofUInt8 (UInt8.ofNat c.toNat) = c :=
      Char.toNat_inj.mp (UInt8.toNat_ofNat_of_lt' (hascii.trans (by decide)))
    rw [escapeChar, utf8EncodeChar_of_lt hascii, List.flatMap_singleton, List.flatMap_singleton, escapeByte, hbyte]
  · rw [isUnreserved_eq_false (not_lt.mp hascii), if_neg Bool.false_ne_true, escapeChar]
    refine List.flatMap_congr fun b hb => ?_
    have hb128 : 128 ≤ (Char.ofUInt8 b).toNat := le_of_mem_utf8EncodeChar (not_lt.mp hascii) hb
    rw [escapeByte, isUnreserved_eq_false hb128, if_neg Bool.false_ne_true]

/-! ### The loop -/

/-- What is asked of an encoder of texts: it keeps the unreserved characters, and encodes every other byte. -/
def EscapesReserved (escape : String → String) : Prop :=
  ∀ s, (escape s).toList = s.toUTF8.data.toList.flatMap escapeByte

/-- One turn of the loop: a mark is put down as it is, another character through the encoder. -/
def encodeStep (escape : String → String) (out : String) (c : Char) : String :=
  if c ∈ componentMarks then out.push c else out ++ escape (String.singleton c)

/-- The characters of a text one after the other, each behind what has been put down. -/
def encodeWith (escape : String → String) (s : String) : String := s.toList.foldl (encodeStep escape) ""

section Loop

variable {escape : String → String} (h : EscapesReserved escape)
include h

/-- **One turn** puts down the encoding of one character. -/
lemma toList_encodeStep (out : String) (c : Char) :
    (encodeStep escape out c).toList = out.toList ++ encodeChar c := by
  have hbytes : (String.singleton c).toUTF8.data.toList = String.utf8EncodeChar c := by
    rw [String.toUTF8_eq_toByteArray, String.toByteArray_singleton, List.utf8Encode_singleton, List.data_toByteArray]
  rw [encodeStep, encodeChar]
  by_cases hmark : c ∈ componentMarks
  · rw [if_pos hmark, if_pos (isKept_iff.mpr (.inl hmark)), String.toList_push]
  · rw [if_neg hmark, String.toList_append, h, hbytes, flatMap_escapeByte]
    have hiff : isKept c = true ↔ isUnreserved c = true := isKept_iff.trans (or_iff_right hmark)
    simp only [hiff]

/-- All turns put down the encoding of all characters. -/
lemma toList_foldl_encodeStep (cs : List Char) (out : String) :
    (cs.foldl (encodeStep escape) out).toList = out.toList ++ encodeChars cs := by
  induction cs generalizing out with
  | nil => simp [encodeChars]
  | cons c cs ih =>
      have hcons : encodeChars (c :: cs) = encodeChar c ++ encodeChars cs := rfl
      rw [List.foldl_cons, ih, toList_encodeStep h, List.append_assoc, hcons]

/-- **The two levels together are the one encoding**, whatever the encoder of texts. -/
lemma encodeWith_eq (s : String) : encodeWith escape s = encode s := by
  rw [← String.toList_inj, encodeWith, toList_foldl_encodeStep h, toList_encode, String.toList_empty, List.nil_append]

end Loop

/-- The unreserved characters kept and every other byte encoded. -/
def escapeReserved (s : String) : String := String.ofList (s.toUTF8.data.toList.flatMap escapeByte)

lemma escapesReserved_escapeReserved : EscapesReserved escapeReserved := fun _ => String.toList_ofList

/-! ### The form of an encoding -/

/-- An upper-case hexadecimal digit. -/
def IsUpperDigit (c : Char) : Prop := c.isDigit = true ∨ 'A' ≤ c ∧ c ≤ 'F'

instance : DecidablePred IsUpperDigit := fun _ => inferInstanceAs (Decidable (_ ∨ _))

lemma isUpperDigit_upper {n : ℕ} (h : n < 16) : IsUpperDigit (Hexadecimal.upper n) := by
  have all : ∀ i : Fin 16, IsUpperDigit (Hexadecimal.upper i.1) := by decide
  exact all ⟨n, h⟩

/-- The texts of letters, digits and kept punctuation, and of percent signs before two upper-case digits. -/
inductive IsComponent : List Char → Prop
  | nil : IsComponent []
  | kept {c : Char} {cs : List Char} : c.isAlphanum = true ∨ c ∈ keptPunctuation → IsComponent cs → IsComponent (c :: cs)
  | byte {high low : Char} {cs : List Char} : IsUpperDigit high → IsUpperDigit low → IsComponent cs →
      IsComponent ('%' :: high :: low :: cs)

namespace IsComponent

variable {cs ds : List Char}

/-- Components are joined to components. -/
lemma append (hcs : IsComponent cs) (hds : IsComponent ds) : IsComponent (cs ++ ds) := by
  induction hcs with
  | nil => exact hds
  | kept hc _ ih => exact .kept hc ih
  | byte hhigh hlow _ ih => exact .byte hhigh hlow ih

/-- What is written piece by piece is a component if every piece is. -/
lemma flatMap {α : Type} {f : α → List Char} (hf : ∀ a, IsComponent (f a)) (l : List α) : IsComponent (l.flatMap f) := by
  induction l with
  | nil => exact .nil
  | cons a l ih =>
      rw [List.flatMap_cons]
      exact (hf a).append ih

end IsComponent

/-- One byte is a percent sign and two digits. -/
lemma isComponent_encodeByte (b : UInt8) : IsComponent (encodeByte b) := by
  have hb : b.toNat < 256 := b.toNat_lt
  exact .byte (isUpperDigit_upper (by omega)) (isUpperDigit_upper (by omega)) .nil

/-- One character is kept, or one byte after the other. -/
lemma isComponent_encodeChar (c : Char) : IsComponent (encodeChar c) := by
  rw [encodeChar]
  split
  · next hkept =>
      rw [isKept, Bool.or_eq_true, List.contains_iff_mem] at hkept
      exact .kept hkept .nil
  · exact .flatMap isComponent_encodeByte _

/-- **The form of an encoding.** -/
lemma isComponent_encodeChars (cs : List Char) : IsComponent (encodeChars cs) := .flatMap isComponent_encodeChar cs

/-! ### What an encoding guarantees -/

/-- The characters that part the values of a search and the parameters of a request. -/
def separators : List Char := [';', ',', '=', '&']

/-- **No separator, no blank and no U+0000 stands in an encoding.** -/
lemma notMem_separators_of_mem_encodeChars {cs : List Char} {d : Char} (h : d ∈ encodeChars cs) :
    d ∉ separators ∧ isBlank d = false ∧ d ≠ '\x00' := by
  have hkeep := mem_encodeChars h
  have hrange : 32 < d.toNat ∧ d.toNat < 127 := by
    obtain hkept | rfl := hkeep
    · exact toNat_of_isKept hkept
    · decide
  refine ⟨?_, ?_, ?_⟩
  · intro hsep
    have hall : ∀ e ∈ separators, ¬ (isKept e = true ∨ e = '%') := by simp [separators, isKept, keptPunctuation]
    exact hall d hsep hkeep
  · exact isBlank_eq_false hrange
  · rintro rfl
    exact absurd hrange.1 (by decide)

/-- An encoding that is safe between separators, and from which every text is read back. -/
structure IsFaithful (encode : String → String) : Prop where
  /-- Letters, digits and kept punctuation make up an encoding, and bytes as percent signs before two upper-case digits. -/
  form : ∀ s, IsComponent (encode s).toList
  /-- The bytes of an encoding are those of the text. -/
  reads : ∀ s, decode? (encode s) = some s
  /-- Different texts are encoded differently. -/
  injective : Function.Injective encode
  /-- No separator, no blank and no U+0000 stands in an encoding. -/
  separated : ∀ s, ∀ d ∈ (encode s).toList, d ∉ separators ∧ isBlank d = false ∧ d ≠ '\x00'
  /-- Texts joined are encoded as they are alone. -/
  append : ∀ s t, encode (s ++ t) = encode s ++ encode t

/-- **The encoding is faithful.** -/
lemma isFaithful_encode : IsFaithful encode where
  form s := by
    rw [toList_encode]
    exact isComponent_encodeChars s.toList
  reads := decode?_encode
  injective s t h := by
    have hread := decode?_encode s
    rw [h, decode?_encode t] at hread
    exact (Option.some.inj hread).symm
  separated s d hd := by
    rw [toList_encode] at hd
    exact notMem_separators_of_mem_encodeChars hd
  append := encode_append

end MonitorQuery.Text.Percent
