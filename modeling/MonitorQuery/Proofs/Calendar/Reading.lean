import MonitorQuery.Calendar.Timestamp
import MonitorQuery.Proofs.Decimal.Integers
import MonitorQuery.Proofs.Text.Rest

/-!
The texts of timestamps.

A timestamp is written as what a clock and a calendar show and the zone they stand in. The fields have a fixed number of digits,
and of a fraction of the second nine digits count. The sixtieth second of a minute is a leap second.

* `IsField`: a run of digits of a fixed length. `isField_padded`: a number with zeros in front; `digits?_eq_some_iff`: what is
  taken off the front of a text.
* `WritesFraction`, `WritesZone`, `WritesTimestamp`: the grammar. `fraction?_append`, `zone?_eq_some_iff`: its parts, read.
* `ofChars?_eq_some_iff`: **the texts that are read as timestamps are those of the grammar** that show a date of the calendar and
  a time of the day.
-/

namespace MonitorQuery.Calendar

open MonitorQuery.Decimal

/-! ### Fields -/

/-- A run of so many digits that writes a number. -/
structure IsField (width : ℕ) (cs : List Char) (n : ℕ) : Prop where
  length : cs.length = width
  isDigit : ∀ c ∈ cs, c.isDigit = true
  value : ofDigits cs = n

section Fields

variable {width n : ℕ} {cs rest : List Char}

/-- Zeros in front do not count. -/
lemma ofDigits_replicate_append (k : ℕ) (cs : List Char) : ofDigits (List.replicate k '0' ++ cs) = ofDigits cs := by
  rw [ofDigits, Nat.ofDigitChars_append, Nat.ofDigitChars_replicate_zero]
  simp [ofDigits]

/-- Every zero behind counts. -/
lemma ofDigits_append_replicate (k : ℕ) (cs : List Char) : ofDigits (cs ++ List.replicate k '0') = 10 ^ k * ofDigits cs := by
  rw [ofDigits, Nat.ofDigitChars_append, Nat.ofDigitChars_replicate_zero, ofDigits]

/-- Digits are worth less than a number with one digit more. -/
lemma ofDigits_lt (h : ∀ c ∈ cs, c.isDigit = true) : ofDigits cs < 10 ^ cs.length := by
  induction cs using List.reverseRecOn with
  | nil => decide
  | append_singleton cs c ih =>
      obtain ⟨hcs, hc⟩ := List.forall_mem_append.mp h
      have hlt := ih hcs
      have hdigit := toNat_of_isDigit (hc c (List.mem_singleton_self c))
      have hvalue : ofDigits (cs ++ [c]) = 10 * ofDigits cs + (c.toNat - 48) := by
        rw [ofDigits, Nat.ofDigitChars_append]
        rfl
      rw [hvalue, List.length_append, List.length_singleton, pow_succ]
      omega

/-- A number that is short enough fills its field, with zeros in front. -/
lemma isField_padded (hwidth : 0 < width) (h : n < 10 ^ width) : IsField width (padded width n) n := by
  have hlength := Nat.toDigits_length 10 n width hwidth h
  refine ⟨?_, ?_, ?_⟩
  · rw [padded, List.length_append, List.length_replicate]
    omega
  · rw [padded]
    refine List.forall_mem_append.mpr ⟨fun c hc => ?_, isDigit_toDigits n⟩
    rw [List.eq_of_mem_replicate hc]
    decide
  · rw [padded, ofDigits_replicate_append, ofDigits_toDigits]

lemma IsField.lt (h : IsField width cs n) : n < 10 ^ width := by
  rw [← h.length, ← h.value]
  exact ofDigits_lt h.isDigit

lemma IsField.ne_nil (h : IsField width cs n) (hwidth : 0 < width) : cs ≠ [] :=
  List.ne_nil_of_length_pos (h.length ▸ hwidth)

/-- A field begins with a digit. -/
lemma IsField.head (h : IsField width cs n) (hwidth : 0 < width) (rest : List Char) :
    ∃ c ∈ (cs ++ rest).head?, c.isDigit = true := by
  obtain ⟨c, tail, rfl⟩ := List.exists_cons_of_ne_nil (h.ne_nil hwidth)
  exact ⟨c, rfl, h.isDigit c List.mem_cons_self⟩

lemma IsField.digits?_append (h : IsField width cs n) (rest : List Char) : digits? width (cs ++ rest) = some (n, rest) := by
  have hall : cs.all Char.isDigit = true := List.all_eq_true.mpr h.isDigit
  rw [digits?, List.take_left' h.length, List.drop_left' h.length]
  simp [h.length, hall, h.value]

/-- **A field is taken off the front of a text** if the text begins with one. -/
lemma digits?_eq_some_iff : digits? width cs = some (n, rest) ↔ ∃ ds, IsField width ds n ∧ cs = ds ++ rest := by
  constructor
  · intro h
    rw [digits?] at h
    split_ifs at h with hfront
    obtain ⟨rfl, rfl⟩ := Prod.mk.inj (Option.some.inj h)
    simp only [Bool.and_eq_true, decide_eq_true_iff, List.all_eq_true] at hfront
    exact ⟨cs.take width, ⟨hfront.1, hfront.2, rfl⟩, (List.take_append_drop width cs).symm⟩
  · rintro ⟨ds, hds, rfl⟩
    exact hds.digits?_append rest

lemma skip?_eq_some_iff {p : Char → Bool} : skip? p cs = some rest ↔ ∃ c, p c = true ∧ cs = c :: rest := by
  cases cs with
  | nil => simp [skip?]
  | cons c cs =>
      rw [skip?]
      constructor
      · intro h
        split_ifs at h with hc
        cases h
        exact ⟨c, hc, rfl⟩
      · rintro ⟨d, hd, heq⟩
        cases heq
        exact if_pos hd

/-- What is read behind a field. -/
lemma digits?_bind_eq_some_iff {α : Type} {f : ℕ × List Char → Option α} {a : α} :
    digits? width cs >>= f = some a ↔ ∃ ds n rest, IsField width ds n ∧ cs = ds ++ rest ∧ f (n, rest) = some a := by
  constructor
  · intro h
    obtain ⟨⟨n, rest⟩, hdigits, hrest⟩ := Option.bind_eq_some_iff.mp h
    obtain ⟨ds, hds, hcs⟩ := digits?_eq_some_iff.mp hdigits
    exact ⟨ds, n, rest, hds, hcs, hrest⟩
  · rintro ⟨ds, n, rest, hds, rfl, hrest⟩
    exact Option.bind_eq_some_iff.mpr ⟨_, hds.digits?_append rest, hrest⟩

/-- What is read behind one character. -/
lemma skip?_bind_eq_some_iff {p : Char → Bool} {α : Type} {f : List Char → Option α} {a : α} :
    skip? p cs >>= f = some a ↔ ∃ c rest, p c = true ∧ cs = c :: rest ∧ f rest = some a := by
  constructor
  · intro h
    obtain ⟨rest, hskip, hrest⟩ := Option.bind_eq_some_iff.mp h
    obtain ⟨c, hc, hcs⟩ := skip?_eq_some_iff.mp hskip
    exact ⟨c, rest, hc, hcs, hrest⟩
  · rintro ⟨c, rest, hc, rfl, hrest⟩
    exact Option.bind_eq_some_iff.mpr ⟨rest, skip?_eq_some_iff.mpr ⟨c, hc, rfl⟩, hrest⟩

end Fields

/-! ### The grammar -/

/-- A fraction of a second, in nanoseconds: nothing, or a point and digits of which the first nine count. -/
inductive WritesFraction : List Char → ℕ → Prop
  | whole : WritesFraction [] 0
  | point {ds : List Char} (h : IsDigits ds) :
      WritesFraction ('.' :: ds) (ofDigits ((ds ++ List.replicate 9 '0').take 9))

/-- A zone, in seconds east of UTC: a `Z`, or hours and minutes behind a sign. -/
inductive WritesZone : List Char → ℤ → Prop
  | utc {c : Char} (h : c = 'Z' ∨ c = 'z') : WritesZone [c] 0
  | east {hh mm : List Char} {hours minutes : ℕ} (hhours : IsField 2 hh hours) (hminutes : IsField 2 mm minutes)
      (hours_le : hours ≤ 23) (minutes_le : minutes ≤ 59) :
      WritesZone ('+' :: (hh ++ ':' :: mm)) (hours * 3600 + minutes * 60 : ℕ)
  | west {sign : Char} {hh mm : List Char} {hours minutes : ℕ} (hsign : isMinus sign = true) (hhours : IsField 2 hh hours)
      (hminutes : IsField 2 mm minutes) (hours_le : hours ≤ 23) (minutes_le : minutes ≤ 59) :
      WritesZone (sign :: (hh ++ ':' :: mm)) (-(hours * 3600 + minutes * 60 : ℕ))

/-- The characters between a date and a time of the day. -/
def isSeparator (c : Char) : Bool := c == 'T' || c == 't' || c == ' '

/-- A text writes what a clock shows, and its zone. -/
inductive WritesTimestamp : List Char → Clock → ℤ → Prop
  | mk {yyyy mm dd hh mi ss fraction zone : List Char} {separator : Char} {year month day hour minute second nanos : ℕ}
      {offset : ℤ} (hyear : IsField 4 yyyy year) (hmonth : IsField 2 mm month) (hday : IsField 2 dd day)
      (hseparator : isSeparator separator = true) (hhour : IsField 2 hh hour) (hminute : IsField 2 mi minute)
      (hsecond : IsField 2 ss second) (hfraction : WritesFraction fraction nanos) (hzone : WritesZone zone offset) :
      WritesTimestamp
        (yyyy ++ '-' :: (mm ++ '-' :: (dd ++ separator :: (hh ++ ':' :: (mi ++ ':' :: (ss ++ (fraction ++ zone)))))))
        ⟨⟨year, month, day⟩, hour, minute, second, nanos⟩ offset

section Parts

variable {cs rest : List Char} {n : ℕ} {offset : ℤ}

/-- The first nine digits count, and zeros where there are fewer. -/
lemma take_append_replicate (ds : List Char) :
    (ds ++ List.replicate 9 '0').take 9 = ds.take 9 ++ List.replicate (9 - (ds.take 9).length) '0' := by
  rw [List.take_append, List.take_replicate, List.length_take]
  congr 2
  omega

/-- A fraction is less than a second. -/
lemma WritesFraction.lt (h : WritesFraction cs n) : n < 1000000000 := by
  cases h with
  | whole => decide
  | @point ds hds =>
      have hlength : ((ds ++ List.replicate 9 '0').take 9).length = 9 := by
        rw [List.length_take, List.length_append, List.length_replicate]
        omega
      have hdigits : ∀ c ∈ (ds ++ List.replicate 9 '0').take 9, c.isDigit = true := by
        intro c hc
        rcases List.mem_append.mp (List.mem_of_mem_take hc) with hc | hc
        · exact hds.isDigit c hc
        · rw [List.eq_of_mem_replicate hc]
          decide
      have hlt := ofDigits_lt hdigits
      rwa [hlength] at hlt

/-- A fraction is taken off the front of a text if it ends there. -/
lemma WritesFraction.fraction?_append (h : WritesFraction cs n)
    (hrest : ∀ c ∈ rest.head?, c.isDigit = false ∧ c ≠ '.') : fraction? (cs ++ rest) = some (n, rest) := by
  cases h with
  | whole =>
      cases rest with
      | nil => rfl
      | cons c rest =>
          rw [List.nil_append, fraction?]
          rintro cs heq
          exact (hrest c rfl).2 (List.cons.inj heq).1
  | @point ds hds =>
      have hhead : ∀ c ∈ rest.head?, c.isDigit = false := fun c hc => (hrest c hc).1
      rw [List.cons_append, fraction?, Text.takeWhile_append_of_head hds.isDigit hhead,
        Text.dropWhile_append_of_head hds.isDigit hhead, if_neg (by simpa using hds.ne_nil), take_append_replicate]

/-- What is taken off the front is a fraction. -/
lemma exists_of_fraction? (h : fraction? cs = some (n, rest)) : ∃ ds, WritesFraction ds n ∧ cs = ds ++ rest := by
  rw [fraction?.eq_def] at h
  split at h
  · next ds =>
      dsimp only at h
      split_ifs at h with hempty
      obtain ⟨rfl, rfl⟩ := Prod.mk.inj (Option.some.inj h)
      have hdigits : IsDigits (ds.takeWhile Char.isDigit) := by
        refine ⟨by simpa using hempty, fun c hc => List.mem_takeWhile_imp hc⟩
      refine ⟨'.' :: ds.takeWhile Char.isDigit, ?_, ?_⟩
      · rw [← take_append_replicate]
        exact .point hdigits
      · rw [List.cons_append, List.takeWhile_append_dropWhile]
  · obtain ⟨rfl, rfl⟩ := Prod.mk.inj (Option.some.inj h)
    exact ⟨[], .whole, rfl⟩

/-- What is read behind the sign of a zone. -/
lemma zone?_sign {sign : Char} (hsign : sign = '+' ∨ isMinus sign = true) :
    zone? (sign :: cs) = some offset ↔ ∃ hh mm hours minutes, IsField 2 hh hours ∧ IsField 2 mm minutes
      ∧ hours ≤ 23 ∧ minutes ≤ 59 ∧ cs = hh ++ ':' :: mm
      ∧ (if isMinus sign then -((hours * 3600 + minutes * 60 : ℕ) : ℤ) else (hours * 3600 + minutes * 60 : ℕ)) = offset := by
  have hread : (sign == '+' || isMinus sign) = true := by simpa using hsign
  have hZ : sign ≠ 'Z' ∧ sign ≠ 'z' := by
    constructor <;> rintro rfl <;> exact absurd hsign (by decide)
  rw [zone?]
  case x_1 => exact fun h _ => hZ.1 h
  case x_2 => exact fun h _ => hZ.2 h
  rw [if_pos hread, digits?_bind_eq_some_iff]
  constructor
  · rintro ⟨hh, hours, rest, hhours, hcs, h⟩
    obtain ⟨colon, rest', hcolon, hrest, h⟩ := skip?_bind_eq_some_iff.mp h
    obtain ⟨mm, minutes, rest'', hminutes, hrest', h⟩ := digits?_bind_eq_some_iff.mp h
    obtain ⟨hend, hoffset⟩ := Option.ite_none_right_eq_some.mp h
    simp only [Bool.and_eq_true, List.isEmpty_iff, decide_eq_true_iff] at hend
    obtain ⟨⟨rfl, hhours_le⟩, hminutes_le⟩ := hend
    rw [List.append_nil] at hrest'
    rw [hcs, hrest, hrest', beq_iff_eq.mp hcolon]
    exact ⟨hh, mm, hours, minutes, hhours, hminutes, hhours_le, hminutes_le, rfl, Option.some.inj hoffset⟩
  · rintro ⟨hh, mm, hours, minutes, hhours, hminutes, hhours_le, hminutes_le, rfl, rfl⟩
    refine ⟨hh, hours, _, hhours, rfl, skip?_bind_eq_some_iff.mpr ⟨':', mm, by decide, rfl, ?_⟩⟩
    refine digits?_bind_eq_some_iff.mpr ⟨mm, minutes, [], hminutes, (List.append_nil mm).symm, ?_⟩
    exact if_pos (by simp [hhours_le, hminutes_le])

/-- **The texts of a zone.** -/
lemma zone?_eq_some_iff : zone? cs = some offset ↔ WritesZone cs offset := by
  constructor
  · intro h
    cases cs with
    | nil => cases h
    | cons sign cs =>
        by_cases hsign : sign = '+' ∨ isMinus sign = true
        · obtain ⟨hh, mm, hours, minutes, hhours, hminutes, hhours_le, hminutes_le, rfl, rfl⟩ := (zone?_sign hsign).mp h
          split_ifs with hminus
          · exact .west hminus hhours hminutes hhours_le hminutes_le
          · obtain rfl := hsign.resolve_right hminus
            exact .east hhours hminutes hhours_le hminutes_le
        · rw [zone?.eq_def] at h
          split at h
          · next heq =>
              cases heq
              cases h
              exact .utc (.inl rfl)
          · next heq =>
              cases heq
              cases h
              exact .utc (.inr rfl)
          · next heq =>
              cases heq
              rw [if_neg (by simpa using hsign)] at h
              cases h
          · cases h
  · intro h
    cases h with
    | utc h =>
        obtain rfl | rfl := h
        · rfl
        · rfl
    | east hhours hminutes hhours_le hminutes_le =>
        exact (zone?_sign (.inl rfl)).mpr ⟨_, _, _, _, hhours, hminutes, hhours_le, hminutes_le, rfl, rfl⟩
    | west hsign hhours hminutes hhours_le hminutes_le =>
        exact (zone?_sign (.inr hsign)).mpr ⟨_, _, _, _, hhours, hminutes, hhours_le, hminutes_le, rfl, if_pos hsign⟩

/-- A zone is a whole number of minutes, and less than a day. -/
lemma WritesZone.bounds (h : WritesZone cs offset) : offset % 60 = 0 ∧ -86400 < offset ∧ offset < 86400 := by
  cases h <;> omega

/-- A zone begins with no digit, and with no point. -/
lemma WritesZone.head (h : WritesZone cs offset) : ∀ c ∈ cs.head?, c.isDigit = false ∧ c ≠ '.' := by
  rintro c hc
  cases h with
  | utc h =>
      cases hc
      obtain rfl | rfl := h <;> decide
  | east =>
      cases hc
      decide
  | west hsign =>
      cases hc
      simp only [isMinus, Bool.or_eq_true, beq_iff_eq] at hsign
      obtain rfl | rfl := hsign <;> decide

end Parts

/-! ### Timestamps -/

/-- The year of a timestamp has four digits, its fraction is less than a second, and its zone a whole number of minutes, and less
than a day. -/
lemma WritesTimestamp.bounds {cs : List Char} {c : Clock} {offset : ℤ} (h : WritesTimestamp cs c offset) :
    (0 ≤ c.date.year ∧ c.date.year ≤ 9999) ∧ c.nanos < 1000000000 ∧ offset % 60 = 0 ∧ -86400 < offset ∧ offset < 86400 := by
  obtain ⟨hyear, -, -, -, -, -, -, hfraction, hzone⟩ := h
  have hlt := hyear.lt
  refine ⟨⟨?_, ?_⟩, hfraction.lt, hzone.bounds⟩
  · dsimp only
    omega
  · dsimp only
    omega

/-- A timestamp begins with a digit. -/
lemma WritesTimestamp.head {cs : List Char} {c : Clock} {offset : ℤ} (h : WritesTimestamp cs c offset) :
    ∃ d ∈ cs.head?, d.isDigit = true := by
  obtain ⟨hyear, -⟩ := h
  exact hyear.head (by decide) _

/-- Behind its year there is a hyphen. -/
lemma WritesTimestamp.hyphen_mem_tail {cs : List Char} {c : Clock} {offset : ℤ} (h : WritesTimestamp cs c offset) :
    '-' ∈ cs.tail := by
  obtain ⟨hyear, -⟩ := h
  obtain ⟨d, tail, rfl⟩ := List.exists_cons_of_ne_nil (hyear.ne_nil (by decide))
  exact List.mem_append_right tail List.mem_cons_self

/-- **The texts that are read as timestamps** write a date of the calendar, a time of the day and a zone. -/
theorem Timestamp.ofChars?_eq_some_iff {cs : List Char} {t : Timestamp} :
    Timestamp.ofChars? cs = some t ↔
      ∃ c, WritesTimestamp cs c t.offset ∧ c.isValid = true ∧ t.instant = c.toInstant t.offset := by
  rw [Timestamp.ofChars?, digits?_bind_eq_some_iff]
  constructor
  · rintro ⟨yyyy, year, rest, hyear, hrest₁, h⟩
    obtain ⟨c₁, rest, hc₁, hrest₂, h⟩ := skip?_bind_eq_some_iff.mp h
    obtain ⟨mm, month, rest, hmonth, hrest₃, h⟩ := digits?_bind_eq_some_iff.mp h
    obtain ⟨c₂, rest, hc₂, hrest₄, h⟩ := skip?_bind_eq_some_iff.mp h
    obtain ⟨dd, day, rest, hday, hrest₅, h⟩ := digits?_bind_eq_some_iff.mp h
    obtain ⟨separator, rest, hseparator, hrest₆, h⟩ := skip?_bind_eq_some_iff.mp h
    obtain ⟨hh, hour, rest, hhour, hrest₇, h⟩ := digits?_bind_eq_some_iff.mp h
    obtain ⟨c₃, rest, hc₃, hrest₈, h⟩ := skip?_bind_eq_some_iff.mp h
    obtain ⟨mi, minute, rest, hminute, hrest₉, h⟩ := digits?_bind_eq_some_iff.mp h
    obtain ⟨c₄, rest, hc₄, hrest₁₀, h⟩ := skip?_bind_eq_some_iff.mp h
    obtain ⟨ss, second, rest, hsecond, hrest₁₁, h⟩ := digits?_bind_eq_some_iff.mp h
    obtain ⟨⟨nanos, zone⟩, hfraction, h⟩ := Option.bind_eq_some_iff.mp h
    obtain ⟨offset, hzone, h⟩ := Option.bind_eq_some_iff.mp h
    obtain ⟨hvalid, ht⟩ := Option.ite_none_right_eq_some.mp h
    obtain ⟨fraction, hwritten, hrest₁₂⟩ := exists_of_fraction? hfraction
    rw [beq_iff_eq] at hc₁ hc₂ hc₃ hc₄
    cases ht
    subst hrest₁ hrest₂ hrest₃ hrest₄ hrest₅ hrest₆ hrest₇ hrest₈ hrest₉ hrest₁₀ hrest₁₁ hrest₁₂ hc₁ hc₂ hc₃ hc₄
    exact ⟨_, .mk hyear hmonth hday hseparator hhour hminute hsecond hwritten (zone?_eq_some_iff.mp hzone), hvalid, rfl⟩
  · rintro ⟨c, hwrites, hvalid, hinstant⟩
    obtain ⟨instant, offset⟩ := t
    dsimp only at hwrites hinstant
    subst hinstant
    cases hwrites with
    | mk hyear hmonth hday hseparator hhour hminute hsecond hfraction hzone =>
        refine ⟨_, _, _, hyear, rfl, skip?_bind_eq_some_iff.mpr ⟨'-', _, rfl, rfl, ?_⟩⟩
        refine digits?_bind_eq_some_iff.mpr ⟨_, _, _, hmonth, rfl, skip?_bind_eq_some_iff.mpr ⟨'-', _, rfl, rfl, ?_⟩⟩
        refine digits?_bind_eq_some_iff.mpr ⟨_, _, _, hday, rfl, skip?_bind_eq_some_iff.mpr ⟨_, _, hseparator, rfl, ?_⟩⟩
        refine digits?_bind_eq_some_iff.mpr ⟨_, _, _, hhour, rfl, skip?_bind_eq_some_iff.mpr ⟨':', _, rfl, rfl, ?_⟩⟩
        refine digits?_bind_eq_some_iff.mpr ⟨_, _, _, hminute, rfl, skip?_bind_eq_some_iff.mpr ⟨':', _, rfl, rfl, ?_⟩⟩
        refine digits?_bind_eq_some_iff.mpr ⟨_, _, _, hsecond, rfl, ?_⟩
        refine Option.bind_eq_some_iff.mpr ⟨_, hfraction.fraction?_append hzone.head, ?_⟩
        refine Option.bind_eq_some_iff.mpr ⟨_, zone?_eq_some_iff.mpr hzone, ?_⟩
        exact if_pos hvalid

end MonitorQuery.Calendar
