import MonitorQuery.Proofs.Calendar.Reading
import MonitorQuery.Proofs.Decimal.Integers
import MonitorQuery.Proofs.Text.Component
import MonitorQuery.Proofs.Text.Trimming
import MonitorQuery.Query.Literal

/-!
What the value of a token says.

The readers of a value are tried one after the other, and each has its own rule for blanks and its own bounds. A severity is looked
for in the token without the blanks around it, by its label or by its number, and a token that is a number is to be kept from it by
the reader of integers. That one takes no blanks. So a number with blanks around it gets through.

* `Severity.find_eq_some_iff`, `severityOf?_eq_some_iff`: when a token is read as a severity; `integerOf?_eq_some_iff`: as an
  integer.
* `TakenAs`, `takenAs_ofToken`: **the value of a token, with what the readers before have said.**
* `keepsNumbers_ofToken`: **no digit of a number is lost, and a text stays as it is.**
* `readAsWritten_iff`: **when the value says what the token says**, and the severity that stands there otherwise;
  `not_readAsWritten`: it is not so of a number with blanks around it.
-/

namespace MonitorQuery.Query

open MonitorQuery.Calendar MonitorQuery.Decimal MonitorQuery.Text

/-! ### Characters of integers -/

section Characters

variable {c : Char} {cs : List Char} {n : ℤ}

lemma isBlank_of_isDigit (h : c.isDigit = true) : isBlank c = false := by
  have hbounds := toNat_of_isDigit h
  exact isBlank_eq_false (by omega)

lemma toLower_of_isDigit (h : c.isDigit = true) : c.toLower = c := by
  have hle := (toNat_of_isDigit h).2
  refine dif_neg ?_
  rintro ⟨hge, -⟩
  have hletter : 65 ≤ c.toNat := UInt32.le_iff_toNat_le.mp hge
  omega

/-- There are no blanks in a text that writes an integer. -/
lemma isTrimmed_of_writesInteger (h : WritesInteger cs n) : IsTrimmed cs := by
  refine isTrimmed_of_forall fun c hc => ?_
  rcases h.isDigit_or_eq c hc with hdigit | rfl | rfl
  · exact isBlank_of_isDigit hdigit
  · decide
  · decide

/-- There are no capitals in a text that writes an integer. -/
lemma map_toLower_of_writesInteger (h : WritesInteger cs n) : cs.map Char.toLower = cs := by
  refine (List.map_congr_left fun c hc => ?_).trans (List.map_id cs)
  rcases h.isDigit_or_eq c hc with hdigit | rfl | rfl
  · exact toLower_of_isDigit hdigit
  · rfl
  · rfl

/-- No minus sign stands behind the first character of a text that writes an integer, as it does in a timestamp. -/
lemma ofChars?_of_writesInteger (h : WritesInteger cs n) : Timestamp.ofChars? cs = none := by
  by_contra hsome
  obtain ⟨t, ht⟩ := Option.ne_none_iff_exists'.mp hsome
  obtain ⟨c, hwrites, -⟩ := Timestamp.ofChars?_eq_some_iff.mp ht
  have hdigit := h.isDigit_of_mem_tail '-' hwrites.hyphen_mem_tail
  exact absurd hdigit (by decide)

end Characters

/-! ### Severities -/

namespace Severity

variable {s t : Severity}

lemma id_bounds (s : Severity) : 1 ≤ s.id ∧ s.id ≤ 7 := by
  cases s <;> decide

lemma ofId?_eq_some_iff {n : ℤ} : ofId? n = some s ↔ s.id = n := by
  constructor
  · intro h
    simpa using List.find?_some h
  · rintro rfl
    cases s <;> rfl

/-- Labels are told from one another in any case. -/
lemma eq_of_fold_label_eq (h : fold s.label = fold t.label) : s = t := by
  cases s <;> cases t <;> first | rfl | exact absurd h (by decide)

lemma ofLabel?_eq_some_iff {name : String} : ofLabel? name = some s ↔ fold name = fold s.label := by
  constructor
  · intro h
    rw [ofLabel?] at h
    have hsame := List.find?_some h
    exact ((sameFolded_iff _ _).mp hsame).symm
  · intro h
    have hpred : (fun t : Severity => sameFolded t.label name) = fun t => decide (t = s) := by
      funext t
      rw [Bool.eq_iff_iff, sameFolded_iff, decide_eq_true_iff, h]
      exact ⟨eq_of_fold_label_eq, fun heq => heq ▸ rfl⟩
    rw [ofLabel?, hpred]
    cases s <;> rfl

/-- A label is no number: there is a letter in it. -/
lemma not_writesInteger_of_fold_eq {name : String} {n : ℤ} (h : fold name = fold s.label) :
    ¬ WritesInteger name.toList n := by
  intro hwrites
  have hlower : name.toList = (fold s.label).toList := by
    rw [← h, toList_fold, map_toLower_of_writesInteger hwrites]
  have hany : ((fold s.label).toList.any fun c => !(c.isDigit || c == '+' || c == '-')) = true := by
    cases s <;> decide
  obtain ⟨c, hc, hletter⟩ := List.any_eq_true.mp hany
  have hchar := hwrites.isDigit_or_eq c (hlower ▸ hc)
  simp_all

/-- **When a token names a severity**: by its label, or by its number. -/
theorem find_eq_some_iff {token : String} :
    find token = some s ↔ fold (trim token) = fold s.label ∨ WritesInteger (trimChars token.toList) s.id := by
  have hid : ∀ n, integerIn? .signed32 (trimChars token.toList) = some n → WritesInteger (trimChars token.toList) n :=
    fun n hn => (integerIn?_eq_some_iff.mp hn).1
  rw [find, toList_trim]
  constructor
  · intro h
    split at h
    · next n hn =>
        obtain rfl := ofId?_eq_some_iff.mp h
        exact .inr (hid _ hn)
    · exact .inl (ofLabel?_eq_some_iff.mp h)
  · rintro (hlabel | hnumber)
    · have hnone : integerIn? .signed32 (trimChars token.toList) = none := by
        by_contra hsome
        obtain ⟨n, hn⟩ := Option.ne_none_iff_exists'.mp hsome
        exact not_writesInteger_of_fold_eq hlabel (by rw [toList_trim]; exact hid n hn)
      rw [hnone]
      exact ofLabel?_eq_some_iff.mpr hlabel
    · have hbounds := s.id_bounds
      have hread : integerIn? .signed32 (trimChars token.toList) = some s.id :=
        integerIn?_eq_some_iff.mpr ⟨hnumber, hbounds.1.trans' (by decide), hbounds.2.trans (by decide)⟩
      rw [hread]
      exact ofId?_eq_some_iff.mpr rfl

end Severity

/-! ### The readers -/

/-- The attribute `severity` in any case, or one of a related resource. -/
def IsSeverityAttr (attr : String) : Prop := fold attr = "severity" ∨ ".severity".toList <:+ attr.toList

lemma isSeverityAttr_iff {attr : String} : isSeverityAttr attr = true ↔ IsSeverityAttr attr := by
  rw [isSeverityAttr, Bool.or_eq_true, sameFolded_iff, List.isSuffixOf_iff_suffix]
  rfl

/-- The token is the label of a severity, with blanks around it or without. -/
def IsLabel (attr raw : String) (s : Severity) : Prop := IsSeverityAttr attr ∧ fold (trim raw) = fold s.label

/-- The token is the number of a severity with blanks around it. -/
def IsPaddedNumber (attr raw : String) (s : Severity) : Prop :=
  IsSeverityAttr attr ∧ ¬ IsTrimmed raw.toList ∧ WritesInteger (trimChars raw.toList) s.id

section Readers

variable {attr raw : String} {n : ℤ} {s : Severity}

namespace Value

/-- **When a token is read as an integer.** -/
lemma integerOf?_eq_some_iff : integerOf? raw = some n ↔ WritesInteger raw.toList n ∧ -2 ^ 63 ≤ n ∧ n < 2 ^ 63 := by
  have hbounds : Bounds.signed64.lowest ≤ n ∧ n ≤ Bounds.signed64.highest ↔ -2 ^ 63 ≤ n ∧ n < 2 ^ 63 := by
    simp only [Bounds.signed64]
    omega
  rw [integerOf?, integerIn?_eq_some_iff, hbounds]

/-- **When a token is read as a severity.** A number without blanks is kept from it. -/
lemma severityOf?_eq_some_iff : severityOf? attr raw = some s ↔ IsLabel attr raw s ∨ IsPaddedNumber attr raw s := by
  have hsame : IsTrimmed raw.toList → trimChars raw.toList = raw.toList := trimChars_eq_self_iff.mpr
  have hread : severityOf? attr raw = some s
      ↔ IsSeverityAttr attr ∧ integerOf? raw = none ∧ Severity.find raw = some s := by
    rw [severityOf?, ← isSeverityAttr_iff]
    split_ifs with h <;> simp_all
  rw [hread, Severity.find_eq_some_iff]
  constructor
  · rintro ⟨hattr, hnone, hlabel | hnumber⟩
    · exact .inl ⟨hattr, hlabel⟩
    · refine .inr ⟨hattr, fun htrimmed => ?_, hnumber⟩
      rw [hsame htrimmed] at hnumber
      have hbounds := s.id_bounds
      have hsome : integerOf? raw = some s.id := integerOf?_eq_some_iff.mpr ⟨hnumber, by omega, by omega⟩
      rw [hnone] at hsome
      cases hsome
  · have hnone : (∀ m, WritesInteger raw.toList m → False) → integerOf? raw = none := by
      intro h
      by_contra hsome
      obtain ⟨m, hm⟩ := Option.ne_none_iff_exists'.mp hsome
      exact h m (integerOf?_eq_some_iff.mp hm).1
    rintro (⟨hattr, hlabel⟩ | ⟨hattr, hpadded, hnumber⟩)
    · refine ⟨hattr, hnone fun m hm => ?_, .inl hlabel⟩
      refine Severity.not_writesInteger_of_fold_eq (n := m) hlabel ?_
      rwa [toList_trim, hsame (isTrimmed_of_writesInteger hm)]
    · exact ⟨hattr, hnone fun m hm => hpadded (isTrimmed_of_writesInteger hm), .inr hnumber⟩

/-- A token that a reader of severities takes is no integer. -/
lemma integerOf?_of_severityOf? (h : severityOf? attr raw = some s) : integerOf? raw = none := by
  rw [severityOf?] at h
  split_ifs at h with hread
  simpa using (Bool.and_eq_true_iff.mp hread).2

/-- What a token is taken as, by the first reader that takes it. -/
inductive TakenAs (attr raw : String) : Value → Prop
  | severity (s : Severity) (h : severityOf? attr raw = some s) : TakenAs attr raw (enumerated s.toEnumerated)
  | integer (n : ℤ) (hseverity : severityOf? attr raw = none) (h : integerOf? raw = some n) :
      TakenAs attr raw (integer n)
  | float (x : Binary64) (hseverity : severityOf? attr raw = none) (hinteger : integerOf? raw = none)
      (h : floatOf? raw = some x) : TakenAs attr raw (float x)
  | date (t : Timestamp) (hseverity : severityOf? attr raw = none) (hinteger : integerOf? raw = none)
      (h : Timestamp.ofText? raw = some t) : TakenAs attr raw (date t)
  | text (hseverity : severityOf? attr raw = none) (hinteger : integerOf? raw = none) : TakenAs attr raw (text raw)

/-- **The value of a token, with what the readers before have said.** -/
theorem takenAs_ofToken (attr raw : String) : TakenAs attr raw (ofToken attr raw) := by
  rw [ofToken]
  cases hseverity : severityOf? attr raw with
  | some s => exact .severity s hseverity
  | none =>
      cases hinteger : integerOf? raw with
      | some n => exact .integer n hseverity hinteger
      | none =>
          cases hfloat : floatOf? raw with
          | some x => exact .float x hseverity hinteger hfloat
          | none =>
              cases hdate : Timestamp.ofText? raw with
              | some t => exact .date t hseverity hinteger hdate
              | none => exact .text hseverity hinteger

/-- A date is read from its text. -/
lemma ofText?_of_ofToken {t : Timestamp} (h : ofToken attr raw = .date t) : Timestamp.ofText? raw = some t := by
  have htaken := takenAs_ofToken attr raw
  rw [h] at htaken
  cases htaken with
  | date t _ _ hdate => exact hdate

lemma mem_of_floatOf? {x : Binary64} (h : floatOf? raw = some x) : '.' ∈ raw.toList := by
  rw [floatOf?] at h
  split_ifs at h with hpoint
  exact List.contains_iff_mem.mp hpoint

namespace TakenAs

variable {v : Value}

lemma eq_integer_iff (h : TakenAs attr raw v) : v = .integer n ↔ integerOf? raw = some n := by
  cases h with
  | severity s h => simp [integerOf?_of_severityOf? h]
  | integer m _ h => simp [h]
  | float _ _ hinteger | date _ _ hinteger | text _ hinteger => simp [hinteger]

lemma eq_enumerated_iff {e : Enumerated} (h : TakenAs attr raw v) :
    v = .enumerated e ↔ ∃ s : Severity, e = s.toEnumerated ∧ severityOf? attr raw = some s := by
  cases h with
  | severity t h => simp [h, eq_comm]
  | integer _ hseverity | float _ hseverity | date _ hseverity | text hseverity => simp [hseverity]

end TakenAs

end Value

/-! ### What is said -/

/-- Numbers and texts are kept: an integer is one that the token writes, within 64 bits, and its texts are its canonical digits; a
floating-point number has a point; a text is the token as it is, and so is an integer that is too long. -/
structure KeepsNumbers (raw : String) (v : Value) : Prop where
  integer : ∀ n, v = .integer n ↔ WritesInteger raw.toList n ∧ -2 ^ 63 ≤ n ∧ n < 2 ^ 63
  digits : ∀ n, v = .integer n → IsCanonical v.labelForm.toList n ∧ v.encoded = v.labelForm
  float : ∀ x, v = .float x → '.' ∈ raw.toList
  text : ∀ s, v = .text s → s = raw
  long : ∀ n, WritesInteger raw.toList n → n < -2 ^ 63 ∨ 2 ^ 63 ≤ n → v = .text raw

/-- A value says what its token says: numbers and texts are kept, and an enumerated value stands for a label of a severity, on an
attribute of severities, and for no number. -/
structure ReadAsWritten (attr raw : String) (v : Value) : Prop extends KeepsNumbers raw v where
  label : ∀ e, v = .enumerated e → ∃ s : Severity, e = s.toEnumerated ∧ IsLabel attr raw s
  number : ∀ n, WritesInteger (trimChars raw.toList) n → ∀ e, v ≠ .enumerated e

/-- The digits of an integer are kept in a component. -/
lemma encoded_integer (n : ℤ) : (Value.integer n).encoded = (Value.integer n).labelForm := by
  have hkept : ∀ c ∈ (renderInt n).toList, Percent.isKept c = true := by
    intro c hc
    rcases (isCanonical_renderInt n).isDigit_or_eq c hc with hdigit | rfl
    · simp [Percent.isKept, Char.isAlphanum, hdigit]
    · decide
  have hself : Percent.encode (renderInt n) = renderInt n := by
    rw [← String.toList_inj, Percent.toList_encode, Percent.encodeChars_eq_self hkept]
  exact hself

/-- **No digit of a number is lost, and a text stays as it is.** -/
theorem keepsNumbers_ofToken (attr raw : String) : KeepsNumbers raw (Value.ofToken attr raw) := by
  have htaken := Value.takenAs_ofToken attr raw
  generalize Value.ofToken attr raw = v at htaken
  refine ⟨fun n => htaken.eq_integer_iff.trans Value.integerOf?_eq_some_iff, ?_, ?_, ?_, ?_⟩
  · rintro n rfl
    exact ⟨isCanonical_renderInt n, encoded_integer n⟩
  · rintro x rfl
    cases htaken with
    | float _ _ _ h => exact Value.mem_of_floatOf? h
  · rintro s rfl
    cases htaken
    rfl
  · intro n hwrites hlong
    cases htaken with
    | severity s h =>
        rcases Value.severityOf?_eq_some_iff.mp h with ⟨-, hlabel⟩ | ⟨-, hpadded, -⟩
        · refine absurd ?_ (Severity.not_writesInteger_of_fold_eq (n := n) hlabel)
          rwa [toList_trim, trimChars_eq_self_iff.mpr (isTrimmed_of_writesInteger hwrites)]
        · exact absurd (isTrimmed_of_writesInteger hwrites) hpadded
    | integer m _ h =>
        obtain ⟨hwrites', hlow, hhigh⟩ := Value.integerOf?_eq_some_iff.mp h
        obtain rfl := hwrites.unique hwrites'
        omega
    | float x _ _ h =>
        rcases hwrites.isDigit_or_eq '.' (Value.mem_of_floatOf? h) with hdigit | heq | heq
        · exact absurd hdigit (by decide)
        · exact absurd heq (by decide)
        · exact absurd heq (by decide)
    | date t _ _ h =>
        rw [Timestamp.ofText?, ofChars?_of_writesInteger hwrites] at h
        cases h
    | text => rfl

/-- **When the value of a token says what the token says**: unless the token is the number of a severity with blanks around it, on an
attribute of severities. Then the value is that severity, though numbers and texts are kept in any case. -/
theorem readAsWritten_iff (attr raw : String) :
    (ReadAsWritten attr raw (Value.ofToken attr raw) ↔ ∀ s, ¬ IsPaddedNumber attr raw s)
      ∧ KeepsNumbers raw (Value.ofToken attr raw)
      ∧ ∀ e, Value.ofToken attr raw = .enumerated e ↔
          ∃ s : Severity, e = s.toEnumerated ∧ (IsLabel attr raw s ∨ IsPaddedNumber attr raw s) := by
  have hkeeps := keepsNumbers_ofToken attr raw
  have hseverity : ∀ e, Value.ofToken attr raw = .enumerated e ↔
      ∃ s : Severity, e = s.toEnumerated ∧ (IsLabel attr raw s ∨ IsPaddedNumber attr raw s) := by
    intro e
    rw [(Value.takenAs_ofToken attr raw).eq_enumerated_iff]
    exact exists_congr fun s => and_congr_right fun _ => Value.severityOf?_eq_some_iff
  refine ⟨⟨fun h s hpadded => ?_, fun hnone => ⟨hkeeps, ?_, ?_⟩⟩, hkeeps, hseverity⟩
  · exact h.number s.id hpadded.2.2 s.toEnumerated ((hseverity _).mpr ⟨s, rfl, .inr hpadded⟩)
  · intro e he
    obtain ⟨s, rfl, hlabel | hpadded⟩ := (hseverity e).mp he
    · exact ⟨s, rfl, hlabel⟩
    · exact absurd hpadded (hnone s)
  · intro n hwrites e he
    obtain ⟨s, -, hlabel | hpadded⟩ := (hseverity e).mp he
    · exact Severity.not_writesInteger_of_fold_eq (n := n) hlabel.2 (by rwa [toList_trim])
    · exact hnone s hpadded

/-- **A number can be read as a severity**: six with blanks around it, which is no integer as it stands. -/
theorem not_readAsWritten : ¬ ∀ attr raw, ReadAsWritten attr raw (Value.ofToken attr raw) := by
  intro h
  have htrimmed : trimChars " 6 ".toList = ['6'] := by decide
  have hsix : WritesInteger ['6'] 6 := integer?_eq_some_iff.mp (by decide)
  have hvalue : Value.ofToken "severity" " 6 " = .enumerated Severity.major.toEnumerated := by decide
  exact (h "severity" " 6 ").number 6 (htrimmed ▸ hsix) _ hvalue

end Readers

end MonitorQuery.Query
