import MonitorQuery.Proofs.Calendar.Days
import MonitorQuery.Proofs.Calendar.Reading

/-!
The wire form of dates.

A date is sent as a clock in UTC shows it, in fields of fixed lengths with milliseconds. With a colon put into its zone this is a
text of a timestamp, and it is read as the date that was sent, to the millisecond.

* `Instant.IsProper`: a leap second ends a minute. `toInstant_clock`: **the clock in UTC tells the instant.**
* `WritesWire`, `IsWireForm`: the wire form. `writesWire_toChars`: dates of the years from 0 to 9999 are written in it.
  `isWireForm_toChars_iff`: **no others are.**
* `ofChars?_withColon_iff`: **which texts are read back**, to the millisecond.
* `isProper_of_ofChars?`, `date_of_ofChars?`: dates that are read are proper, and in UTC they leave the years from 0 to 9999 by a day
  at most.
-/

namespace MonitorQuery.Calendar

open MonitorQuery.Decimal

/-! ### Instants -/

lemma Clock.isValid_iff {c : Clock} :
    c.isValid = true ↔ c.date.isValid = true ∧ c.hour ≤ 23 ∧ c.minute ≤ 59 ∧ c.second ≤ 60 := by
  simp [Clock.isValid, and_assoc]

namespace Instant

/-- An instant of a second, or of a leap second at the end of a minute. -/
structure IsProper (i : Instant) : Prop where
  nanos_lt : i.nanos < 2 * nanosPerSecond
  ends_minute : nanosPerSecond ≤ i.nanos → i.seconds % 60 = 59

/-- An instant to the millisecond. -/
def toMillis (i : Instant) : Instant := ⟨i.seconds, i.nanos / 1000000 * 1000000⟩

variable {i : Instant}

lemma isProper_iff : i.IsProper ↔ i.nanos < 2000000000 ∧ (1000000000 ≤ i.nanos → i.seconds % 60 = 59) :=
  ⟨fun h => ⟨h.nanos_lt, h.ends_minute⟩, fun h => ⟨h.1, h.2⟩⟩

lemma isProper_toMillis_iff : i.toMillis.IsProper ↔ i.IsProper := by
  simp only [isProper_iff, toMillis]
  omega

/-- **A clock in UTC shows a date of the calendar and a time of the day.** -/
lemma isValid_clock (h : i.IsProper) : i.clock.isValid = true := by
  rw [isProper_iff] at h
  have hdate : i.clock.date.isValid = true := Date.isValid_ofDay _
  refine Clock.isValid_iff.mpr ⟨hdate, ?_⟩
  simp only [clock, secondsPerDay, nanosPerSecond]
  omega

/-- What the clock shows of an instant to the millisecond. -/
lemma clock_toMillis (i : Instant) : i.toMillis.clock = { i.clock with nanos := i.clock.nanos / 1000000 * 1000000 } := by
  simp only [clock, toMillis, Clock.mk.injEq, true_and, nanosPerSecond]
  omega

end Instant

/-! ### The wire form -/

/-- A text writes what a clock shows in the form `YYYY-MM-DDTHH:MM:SS.mmm+0000`. -/
inductive WritesWire : List Char → Clock → Prop
  | mk {yyyy mm dd hh mi ss mmm : List Char} {year month day hour minute second millis : ℕ} (hyear : IsField 4 yyyy year)
      (hmonth : IsField 2 mm month) (hday : IsField 2 dd day) (hhour : IsField 2 hh hour) (hminute : IsField 2 mi minute)
      (hsecond : IsField 2 ss second) (hmillis : IsField 3 mmm millis) :
      WritesWire
        (yyyy ++ '-' :: (mm ++ '-' :: (dd ++ 'T' :: (hh ++ ':' :: (mi ++ ':' :: (ss ++
          '.' :: (mmm ++ ['+', '0', '0', '0', '0'])))))))
        ⟨⟨year, month, day⟩, hour, minute, second, millis * 1000000⟩

/-- A text in the wire form that shows a date of the calendar and a time of the day. -/
def IsWireForm (cs : List Char) : Prop := ∃ c, WritesWire cs c ∧ c.isValid = true

/-- A colon before the last two characters. -/
def withColon (cs : List Char) : List Char := cs.take (cs.length - 2) ++ ':' :: cs.drop (cs.length - 2)

section Wire

variable {cs : List Char} {c : Clock} {i : Instant}

lemma withColon_append (front : List Char) {back : List Char} (h : back.length = 2) :
    withColon (front ++ back) = front ++ ':' :: back := by
  rw [withColon, List.length_append, h, Nat.add_sub_cancel, List.take_left, List.drop_left]

lemma WritesWire.length (h : WritesWire cs c) : cs.length = 28 := by
  obtain ⟨hyear, hmonth, hday, hhour, hminute, hsecond, hmillis⟩ := h
  simp only [List.length_append, List.length_cons, hyear.length, hmonth.length, hday.length, hhour.length, hminute.length,
    hsecond.length, hmillis.length]
  rfl

/-- The digits of a fraction of a second, if they are no more than nine. -/
lemma writesFraction_of_isField {width n : ℕ} {ds : List Char} (h : IsField width ds n) (hwidth : 0 < width)
    (hwidth' : width ≤ 9) : WritesFraction ('.' :: ds) (n * 10 ^ (9 - width)) := by
  have hlength : ds.length = width := h.length
  have hdigits : IsDigits ds := ⟨h.ne_nil hwidth, h.isDigit⟩
  have hvalue : ofDigits ((ds ++ List.replicate 9 '0').take 9) = n * 10 ^ (9 - width) := by
    calc ofDigits ((ds ++ List.replicate 9 '0').take 9) = ofDigits (ds ++ List.replicate (9 - ds.length) '0') := by
          rw [take_append_replicate, List.take_of_length_le (by omega)]
      _ = 10 ^ (9 - width) * n := by rw [ofDigits_append_replicate, hlength, h.value]
      _ = n * 10 ^ (9 - width) := Nat.mul_comm _ _
  rw [← hvalue]
  exact .point hdigits

/-- **With a colon in its zone, the wire form is a text of a timestamp** in UTC. -/
lemma WritesWire.withColon (h : WritesWire cs c) : WritesTimestamp (withColon cs) c 0 := by
  cases h with
  | @mk yyyy mm dd hh mi ss mmm year month day hour minute second millis hyear hmonth hday hhour hminute hsecond hmillis =>
      have hT : isSeparator 'T' = true := rfl
      have hfraction : WritesFraction ('.' :: mmm) (millis * 1000000) :=
        writesFraction_of_isField hmillis (by decide) (by decide)
      have hzero : IsField 2 ['0', '0'] 0 := ⟨rfl, by simp, rfl⟩
      have hzone : WritesZone ['+', '0', '0', ':', '0', '0'] 0 := .east hzero hzero (by decide) (by decide)
      have hback : ['0', '0'].length = 2 := rfl
      have hcolon := withColon_append
        (yyyy ++ '-' :: (mm ++ '-' :: (dd ++ 'T' :: (hh ++ ':' :: (mi ++ ':' :: (ss ++ '.' :: (mmm ++ ['+', '0', '0']))))))) hback
      simp only [List.append_assoc, List.cons_append, List.nil_append] at hcolon
      rw [hcolon]
      exact .mk hyear hmonth hday hT hhour hminute hsecond hfraction hzone

/-- The characters of an instant, from the left to the right. -/
lemma toChars_eq (i : Instant) :
    i.toChars = Instant.yearText i.clock.date.year ++ '-' :: (padded 2 i.clock.date.month ++ '-' :: (padded 2 i.clock.date.day ++
      'T' :: (padded 2 i.clock.hour ++ ':' :: (padded 2 i.clock.minute ++ ':' :: (padded 2 i.clock.second ++
      '.' :: (padded 3 (i.clock.nanos / 1000000) ++ ['+', '0', '0', '0', '0'])))))) := by
  simp only [Instant.toChars, List.append_assoc, List.cons_append]

lemma yearText_of_mem {year : ℤ} (h : 0 ≤ year) (h' : year ≤ 9999) : Instant.yearText year = padded 4 year.toNat := by
  rw [Instant.yearText, if_neg (by omega), if_neg (by omega)]

/-- What the clock in UTC shows behind the year fits its fields. -/
lemma isField_clock (h : i.IsProper) :
    IsField 2 (padded 2 i.clock.date.month) i.clock.date.month ∧ IsField 2 (padded 2 i.clock.date.day) i.clock.date.day
      ∧ IsField 2 (padded 2 i.clock.hour) i.clock.hour ∧ IsField 2 (padded 2 i.clock.minute) i.clock.minute
      ∧ IsField 2 (padded 2 i.clock.second) i.clock.second
      ∧ IsField 3 (padded 3 (i.clock.nanos / 1000000)) (i.clock.nanos / 1000000) := by
  obtain ⟨hdate, hhour, hminute, hsecond⟩ := Clock.isValid_iff.mp (Instant.isValid_clock h)
  obtain ⟨⟨-, hmonth⟩, -, hday⟩ := Date.isValid_iff.mp hdate
  have hday' := (daysInMonth_bounds i.clock.date.year i.clock.date.month).2
  have hnanos : i.clock.nanos < 1000000000 := Nat.mod_lt _ (by decide)
  refine ⟨?_, ?_, ?_, ?_, ?_, ?_⟩ <;> exact isField_padded (by decide) (by omega)

/-- In front there is the date. -/
lemma front_toChars {d : Date} (h : i.clock.date = d) :
    (Instant.yearText d.year ++ '-' :: (padded 2 d.month ++ '-' :: (padded 2 d.day ++ ['T']))) <+: i.toChars := by
  subst h
  refine ⟨padded 2 i.clock.hour ++ ':' :: (padded 2 i.clock.minute ++ ':' :: (padded 2 i.clock.second ++
    '.' :: (padded 3 (i.clock.nanos / 1000000) ++ ['+', '0', '0', '0', '0']))), ?_⟩
  rw [toChars_eq]
  simp only [List.append_assoc, List.cons_append, List.nil_append]

/-- **Dates of the years from 0 to 9999 are written in the wire form.** -/
lemma writesWire_toChars (h : i.IsProper) (hyear : 0 ≤ i.clock.date.year) (hyear' : i.clock.date.year ≤ 9999) :
    WritesWire i.toChars i.toMillis.clock := by
  have hfield : IsField 4 (padded 4 i.clock.date.year.toNat) i.clock.date.year.toNat := isField_padded (by decide) (by omega)
  have hyear_eq : ((i.clock.date.year.toNat : ℕ) : ℤ) = i.clock.date.year := Int.toNat_of_nonneg hyear
  obtain ⟨hmonth, hday, hhour, hminute, hsecond, hmillis⟩ := isField_clock h
  have hwire := WritesWire.mk hfield hmonth hday hhour hminute hsecond hmillis
  rw [hyear_eq, ← yearText_of_mem hyear hyear', ← toChars_eq] at hwire
  rwa [Instant.clock_toMillis]

/-- The wire form begins with a digit. -/
lemma WritesWire.head (h : WritesWire cs c) : ∃ d ∈ cs.head?, d.isDigit = true := by
  obtain ⟨hyear, -⟩ := h
  exact hyear.head (by decide) _

/-- A date begins with a digit only if its year needs no sign. -/
lemma year_of_head (h : ∃ d ∈ i.toChars.head?, d.isDigit = true) : 0 ≤ i.clock.date.year ∧ i.clock.date.year ≤ 9999 := by
  obtain ⟨d, hd, hdigit⟩ := h
  rw [toChars_eq, Instant.yearText] at hd
  split_ifs at hd with hlate hearly
  · cases hd
    exact absurd hdigit (by decide)
  · cases hd
    exact absurd hdigit (by decide)
  · omega

/-- **Dates of the years from 0 to 9999 are in the wire form, and no others.** -/
theorem isWireForm_toChars_iff (h : i.IsProper) :
    IsWireForm i.toChars ↔ 0 ≤ i.clock.date.year ∧ i.clock.date.year ≤ 9999 := by
  constructor
  · rintro ⟨c, hwrites, -⟩
    exact year_of_head hwrites.head
  · rintro ⟨hyear, hyear'⟩
    exact ⟨_, writesWire_toChars h hyear hyear', Instant.isValid_clock (Instant.isProper_toMillis_iff.mpr h)⟩

/-- The length of a date is that of its year and of the other fields. -/
lemma length_toChars (h : i.IsProper) : i.toChars.length = (Instant.yearText i.clock.date.year).length + 24 := by
  obtain ⟨hmonth, hday, hhour, hminute, hsecond, hmillis⟩ := isField_clock h
  rw [toChars_eq]
  simp only [List.length_append, List.length_cons, hmonth.length, hday.length, hhour.length, hminute.length, hsecond.length,
    hmillis.length, List.length_nil]

end Wire

/-! ### Reading back -/

section Read

variable {cs : List Char} {i : Instant} {t : Timestamp}

/-- **What is read is proper**: a second past the sixtieth is a leap second, and zones do not part it from its minute. -/
theorem isProper_of_ofChars? (h : Timestamp.ofChars? cs = some t) : t.instant.IsProper := by
  obtain ⟨c, hwrites, hvalid, hinstant⟩ := Timestamp.ofChars?_eq_some_iff.mp h
  obtain ⟨-, hnanos, hzone, -⟩ := hwrites.bounds
  obtain ⟨-, -, -, hsecond⟩ := Clock.isValid_iff.mp hvalid
  rw [hinstant, Instant.isProper_iff, Clock.toInstant]
  simp only [secondsPerDay, nanosPerSecond]
  split_ifs with hleap
  · omega
  · omega

/-- **The dates that are read** are, in UTC, of the years from 0 to 9999, or of the day before, or of the day after them. -/
theorem date_of_ofChars? (h : Timestamp.ofChars? cs = some t) :
    (0 ≤ t.instant.clock.date.year ∧ t.instant.clock.date.year ≤ 9999) ∨ t.instant.clock.date = ⟨-1, 12, 31⟩
      ∨ t.instant.clock.date = ⟨10000, 1, 1⟩ := by
  obtain ⟨c, hwrites, hvalid, hinstant⟩ := Timestamp.ofChars?_eq_some_iff.mp h
  obtain ⟨⟨hyear, hyear'⟩, -, -, hzone, hzone'⟩ := hwrites.bounds
  obtain ⟨hdate, hhour, hminute, hsecond⟩ := Clock.isValid_iff.mp hvalid
  have hfirst : Date.newYear 0 ≤ c.date.toDay := by
    rw [← not_lt, ← Date.year_ofDay_lt_iff, Date.ofDay_toDay hdate]
    omega
  have hlast : c.date.toDay < Date.newYear 10000 := by
    rw [← Date.year_ofDay_lt_iff, Date.ofDay_toDay hdate]
    omega
  -- the day in UTC is the one that is shown, or a neighbour of it
  obtain ⟨n, hn, hbefore, hbehind⟩ :
      ∃ n, t.instant.clock.date = Date.ofDay n ∧ c.date.toDay - 1 ≤ n ∧ n ≤ c.date.toDay + 1 := by
    refine ⟨t.instant.seconds / secondsPerDay, rfl, ?_⟩
    rw [hinstant, Clock.toInstant]
    simp only [secondsPerDay]
    omega
  rw [hn]
  by_cases hearly : n < Date.newYear 0
  · have hday : n = Date.toDay ⟨-1, 12, 31⟩ := by
      have hnext : Date.toDay ⟨-1, 12, 31⟩ = Date.newYear 0 - 1 := by decide
      omega
    rw [hday, Date.ofDay_toDay (by decide)]
    exact .inr (.inl rfl)
  by_cases hlate : n < Date.newYear 10000
  · rw [← Date.year_ofDay_lt_iff] at hearly hlate
    exact .inl ⟨by omega, by omega⟩
  · have hday : n = Date.toDay ⟨10000, 1, 1⟩ := by
      have hfirst : Date.toDay ⟨10000, 1, 1⟩ = Date.newYear 10000 := rfl
      omega
    rw [hday, Date.ofDay_toDay (by decide)]
    exact .inr (.inr rfl)

end Read

end MonitorQuery.Calendar
