import MonitorQuery.Proofs.Text.Component

/-!
Reading an encoded component.

A percent sign and two hexadecimal digits stand for a byte, and all other characters for the bytes of their UTF-8 form. The
bytes together are those of the text.

* `bytes?`: the bytes of a component. `bytes?_encodeChar_append` reads one encoded character off its front.
* `decode?_encode`: **what has been encoded is read back**, whatever the text.
-/

namespace MonitorQuery.Text.Percent

/-- The bytes that a component stands for. A percent sign stands before two digits. -/
def bytes? : List Char → Option (List UInt8)
  | [] => some []
  | '%' :: high :: low :: cs =>
    (Hexadecimal.number? 0 [high, low]).bind fun n => (bytes? cs).map (UInt8.ofNat n :: ·)
  | c :: cs => if c = '%' then none else (bytes? cs).map (String.utf8EncodeChar c ++ ·)

/-- The text that a component stands for, if its bytes are those of a text. -/
def decode? (s : String) : Option String := (bytes? s.toList).bind fun bs => String.fromUTF8? bs.toByteArray

/-- The digits of a byte are read back. -/
lemma number?_upper (b : UInt8) :
    Hexadecimal.number? 0 [Hexadecimal.upper (b.toNat / 16), Hexadecimal.upper (b.toNat % 16)] = some b.toNat := by
  have hb : b.toNat < 256 := b.toNat_lt
  have hhigh := Hexadecimal.value?_upper (n := b.toNat / 16) (by omega)
  have hlow := Hexadecimal.value?_upper (n := b.toNat % 16) (by omega)
  simp only [Hexadecimal.number?, hhigh, hlow, Option.bind_some, Option.some.injEq]
  omega

lemma bytes?_encodeByte_append (b : UInt8) (cs : List Char) :
    bytes? (encodeByte b ++ cs) = (bytes? cs).map (b :: ·) := by
  rw [encodeByte, List.cons_append, List.cons_append, List.cons_append, List.nil_append, bytes?, number?_upper]
  simp only [Option.bind_some, UInt8.ofNat_toNat]

lemma bytes?_flatMap_encodeByte_append (bs : List UInt8) (cs : List Char) :
    bytes? (bs.flatMap encodeByte ++ cs) = (bytes? cs).map (bs ++ ·) := by
  induction bs with
  | nil => exact Option.map_id'.symm
  | cons b bs ih =>
      rw [List.flatMap_cons, List.append_assoc, bytes?_encodeByte_append, ih, Option.map_map]
      rfl

lemma bytes?_cons {c : Char} (h : c ≠ '%') (cs : List Char) :
    bytes? (c :: cs) = (bytes? cs).map (String.utf8EncodeChar c ++ ·) := by
  rw [bytes?, if_neg h]
  rintro high low cs' rfl
  exact absurd rfl h

/-- **One encoded character is read off the front**, kept or not. -/
lemma bytes?_encodeChar_append (c : Char) (cs : List Char) :
    bytes? (encodeChar c ++ cs) = (bytes? cs).map (String.utf8EncodeChar c ++ ·) := by
  rw [encodeChar]
  by_cases hkept : isKept c = true
  · have hne : c ≠ '%' := by
      rintro rfl
      exact absurd hkept (by decide)
    rw [if_pos hkept, List.singleton_append, bytes?_cons hne]
  · rw [if_neg hkept, escapeChar, bytes?_flatMap_encodeByte_append]

lemma bytes?_encodeChars (cs : List Char) : bytes? (encodeChars cs) = some (cs.flatMap String.utf8EncodeChar) := by
  induction cs with
  | nil => rfl
  | cons c cs ih =>
      have happend : encodeChars (c :: cs) = encodeChar c ++ encodeChars cs := rfl
      rw [happend, bytes?_encodeChar_append, ih]
      rfl

/-- The bytes of a text are those of a text. -/
lemma fromUTF8?_toByteArray (s : String) : String.fromUTF8? s.toByteArray = some s := by
  rw [String.fromUTF8?, dif_pos s.isValidUTF8]
  rfl

/-- **What has been encoded is read back.** -/
theorem decode?_encode (s : String) : decode? (encode s) = some s := by
  have hbytes : (s.toList.flatMap String.utf8EncodeChar).toByteArray = s.toByteArray := by
    conv_rhs => rw [← String.ofList_toList (s := s)]
    rfl
  rw [decode?, toList_encode, bytes?_encodeChars, Option.bind_some, hbytes, fromUTF8?_toByteArray]

/-- The two bytes of a letter are one character again. -/
example : decode? "a%20%C3%A9" = some "a é" := by decide

end MonitorQuery.Text.Percent
