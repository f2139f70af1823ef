import Mathlib.Tactic
import MonitorQuery.Calendar.Day

/-!
Days and dates.

An era of 400 years that begins on the first of March is cut into centuries, cycles of four years and years, and the last year of
a cycle is longer by the leap day, but for the one at the end of a century that is not the last of the era. A place is a day said
in this way. The day of a place and the date of a place determine each other, and every day and every date of the calendar has a
place.

* `Place`, `Place.index`, `Place.toDate`: a place, its day and its date. `exists_index_eq`, `exists_toDate_eq`: there is one for
  every day and for every date.
* `ofDay_index`, `toDay_toDate`: **the passages between days and dates go through the place.**
* `toDay_ofDay`, `ofDay_toDay`, `isValid_ofDay`: **they undo each other**, and every day has a date of the calendar.
* `ofDay_add_one`: **the dates follow one another as in the calendar**, from `ofDay_zero` on.
* `year_ofDay_lt_iff`: a year begins on its first of January.
-/

namespace MonitorQuery.Calendar

/-! ### Years and months -/

section Lengths

variable {year : ℤ} {month : ℕ}

lemma isLeapYear_iff : isLeapYear year = true ↔ year % 4 = 0 ∧ (year % 100 ≠ 0 ∨ year % 400 = 0) := by
  simp [isLeapYear]

/-- The days from the first of March to the first of a month, if so many months have passed between them. -/
def daysBefore (month : ℕ) : ℕ := (153 * month + 2) / 5

lemma daysBefore_mono : Monotone daysBefore := fun _ _ h => Nat.div_le_div_right (by omega)

/-- The days before March, December, January and February. -/
lemma daysBefore_values : daysBefore 0 = 0 ∧ daysBefore 9 = 275 ∧ daysBefore 10 = 306 ∧ daysBefore 11 = 337 := by
  decide

lemma daysInMonth_february : daysInMonth year 2 = if isLeapYear year then 29 else 28 := rfl

/-- The months from March to December follow one linear rule. -/
lemma daysInMonth_of_lt (h : month < 10) : daysInMonth year (month + 3) = daysBefore (month + 1) - daysBefore month := by
  interval_cases month <;> rfl

/-- So does January. -/
lemma daysInMonth_january : daysInMonth year 1 = daysBefore 11 - daysBefore 10 := rfl

lemma daysInMonth_bounds (year : ℤ) (month : ℕ) : 1 ≤ daysInMonth year month ∧ daysInMonth year month ≤ 31 := by
  rw [daysInMonth]
  split_ifs <;> decide

/-- A month comes so many months after March, or is January or February of the next year. -/
lemma month_cases (h : 1 ≤ month) (h' : month ≤ 12) : (∃ n, n < 10 ∧ n + 3 = month) ∨ month = 1 ∨ month = 2 := by
  by_cases hspring : 3 ≤ month
  · exact .inl ⟨month - 3, by omega, by omega⟩
  · exact .inr (by omega)

end Lengths

lemma Date.isValid_iff {d : Date} :
    d.isValid = true ↔ (1 ≤ d.month ∧ d.month ≤ 12) ∧ 1 ≤ d.day ∧ d.day ≤ daysInMonth d.year d.month := by
  simp [Date.isValid, and_assoc]

/-! ### Places -/

/-- A day of an era: the centuries, cycles of four years, years and days that have passed in it before. Behind 365 days there is a
leap day at the end of a cycle, but at the end of a century only if it is the last. -/
structure Place where
  era : ℤ
  century : ℕ
  cycle : ℕ
  year : ℕ
  day : ℕ
  century_le : century ≤ 3
  cycle_le : cycle ≤ 24
  year_le : year ≤ 3
  day_le : day ≤ 365
  leap : day = 365 → year = 3 ∧ (cycle < 24 ∨ century = 3)

namespace Place

/-- The days of the era before a place. -/
def dayOfEra (p : Place) : ℕ := 36524 * p.century + 1461 * p.cycle + 365 * p.year + p.day

/-- The years of the era before a place. -/
def yearOfEra (p : Place) : ℕ := 100 * p.century + 4 * p.cycle + p.year

/-- The day of a place, counted from 1970-01-01. -/
def index (p : Place) : ℤ := p.era * 146097 + p.dayOfEra - Date.epochShift

/-- The months of the year before a place, from March on. -/
def month (p : Place) : ℕ := (5 * p.day + 2) / 153

/-- The date of a place. -/
def toDate (p : Place) : Date :=
  if p.month < 10 then ⟨p.yearOfEra + p.era * 400, p.month + 3, p.day - daysBefore p.month + 1⟩
  else ⟨p.yearOfEra + p.era * 400 + 1, p.month - 9, p.day - daysBefore p.month + 1⟩

lemma dayOfEra_lt (p : Place) : p.dayOfEra < 146097 := by
  obtain ⟨era, century, cycle, year, day, hcentury, hcycle, hyear, hday, hleap⟩ := p
  simp only [dayOfEra]
  omega

/-- **Every day has a place.** -/
lemma exists_index_eq (n : ℤ) : ∃ p : Place, p.index = n := by
  obtain ⟨era, d, hd, hn⟩ : ∃ (era : ℤ) (d : ℕ), d < 146097 ∧ n = era * 146097 + d - Date.epochShift :=
    ⟨(n + Date.epochShift) / 146097, ((n + Date.epochShift) % 146097).toNat, by omega, by omega⟩
  obtain ⟨century, d', hcentury, hd', hlast⟩ : ∃ century d', century ≤ 3 ∧ d = 36524 * century + d' ∧
      (d' < 36524 ∨ d' = 36524 ∧ century = 3) :=
    ⟨min 3 (d / 36524), d - 36524 * min 3 (d / 36524), by omega, by omega, by omega⟩
  obtain ⟨cycle, d'', hcycle, hd'', hlast'⟩ : ∃ cycle d'', cycle ≤ 24 ∧ d' = 1461 * cycle + d'' ∧
      (d'' < 1460 ∨ d'' = 1460 ∧ (cycle < 24 ∨ century = 3)) :=
    ⟨d' / 1461, d' % 1461, by omega, by omega, by omega⟩
  refine ⟨⟨era, century, cycle, min 3 (d'' / 365), d'' - 365 * min 3 (d'' / 365), hcentury, hcycle, ?_, ?_, ?_⟩, ?_⟩
  · omega
  · omega
  · omega
  · simp only [index, dayOfEra]
    omega

/-- The years that have passed are found from the days. -/
lemma yearOfEra_eq (p : Place) :
    (p.dayOfEra - p.dayOfEra / 1460 + p.dayOfEra / 36524 - p.dayOfEra / 146096) / 365 = p.yearOfEra := by
  obtain ⟨era, century, cycle, year, day, hcentury, hcycle, hyear, hday, hleap⟩ := p
  simp only [dayOfEra, yearOfEra]
  generalize hd : 36524 * century + 1461 * cycle + 365 * year + day = d
  -- the divisors tell the last day of the era from the others, which it alone makes up a longer century
  have hcenturies : d / 36524 = century + d / 146096 := by
    by_cases hlast : 1461 * cycle + 365 * year + day = 36524
    · have hcentury : century = 3 := by omega
      omega
    · have hlt : 1461 * cycle + 365 * year + day < 36524 := by omega
      have hera : d / 146096 = 0 := Nat.div_eq_of_lt (by omega)
      have hcentury : d / 36524 = century := Nat.div_eq_of_lt_le (by omega) (by omega)
      omega
  -- a cycle is a day longer than the divisor, so the quotient is one ahead at the end of the last year, and at a leap day
  obtain ⟨ahead, hcycles, hahead⟩ : ∃ ahead, d / 1460 = 25 * century + cycle + ahead ∧
      (ahead = 0 ∧ day < 365 ∨ ahead = 1 ∧ 0 < day) := by
    by_cases hend : 24 * century + cycle + 365 * year + day < 1460
    · exact ⟨0, by omega, by omega⟩
    · exact ⟨1, by omega, by omega⟩
  omega

/-- The days of the era are those of the years that have passed, leap days included, and those of the year. -/
lemma dayOfEra_eq (p : Place) : p.dayOfEra = 365 * p.yearOfEra + p.yearOfEra / 4 - p.yearOfEra / 100 + p.day := by
  obtain ⟨era, century, cycle, year, day, hcentury, hcycle, hyear, hday, hleap⟩ := p
  simp only [dayOfEra, yearOfEra]
  omega

lemma month_le (p : Place) : p.month ≤ 11 := by
  have hday := p.day_le
  rw [month]
  omega

lemma daysBefore_month_le (p : Place) : daysBefore p.month ≤ p.day := by
  rw [daysBefore, month]
  omega

lemma day_lt_daysBefore (p : Place) : p.day < daysBefore (p.month + 1) := by
  rw [daysBefore, month]
  omega

/-- The month is found from the days of the year. -/
lemma month_eq {p : Place} {n : ℕ} (hle : daysBefore n ≤ p.day) (hlt : p.day < daysBefore (n + 1)) : p.month = n := by
  rw [daysBefore] at hle hlt
  rw [month]
  omega

lemma yearOfEra_lt (p : Place) : p.yearOfEra < 400 := by
  obtain ⟨era, century, cycle, year, day, hcentury, hcycle, hyear, hday, hleap⟩ := p
  simp only [yearOfEra]
  omega

/-- The last day of a longer year stands before the first of March, in a leap year. -/
lemma isLeapYear_of_day_eq {p : Place} (h : p.day = 365) : isLeapYear (p.yearOfEra + p.era * 400 + 1) = true := by
  obtain ⟨era, century, cycle, year, day, hcentury, hcycle, hyear, hday, hleap⟩ := p
  obtain ⟨rfl, hlast⟩ := hleap h
  rw [isLeapYear_iff]
  simp only [yearOfEra]
  omega

/-- **Every day of every year has a place**, the leap day before the first of March included. -/
lemma exists_year_eq {year : ℤ} {day : ℕ} (hday : day ≤ 365) (hleap : day = 365 → isLeapYear (year + 1) = true) :
    ∃ p : Place, p.yearOfEra + p.era * 400 = year ∧ p.day = day := by
  obtain ⟨era, y, hy, rfl⟩ : ∃ (era : ℤ) (y : ℕ), y < 400 ∧ year = y + era * 400 :=
    ⟨year / 400, (year % 400).toNat, by omega, by omega⟩
  refine ⟨⟨era, y / 100, y % 100 / 4, y % 4, day, by omega, by omega, by omega, hday, fun h => ?_⟩, ?_, rfl⟩
  · have := isLeapYear_iff.mp (hleap h)
    omega
  · simp only [yearOfEra]
    omega

/-- **The day of a place has its date.** -/
lemma ofDay_index (p : Place) : Date.ofDay p.index = p.toDate := by
  have hlt := p.dayOfEra_lt
  have hshift : p.index + Date.epochShift = p.era * 146097 + p.dayOfEra := by
    rw [index]
    omega
  have hera : (p.era * 146097 + p.dayOfEra) / 146097 = p.era := by omega
  have hday : ((p.era * 146097 + p.dayOfEra) % 146097).toNat = p.dayOfEra := by omega
  have hpassed : p.dayOfEra - (365 * p.yearOfEra + p.yearOfEra / 4 - p.yearOfEra / 100) = p.day := by
    rw [dayOfEra_eq, Nat.add_sub_cancel_left]
  rw [Date.ofDay]
  simp only [hshift, hera, hday, p.yearOfEra_eq, hpassed]
  rfl

/-- **The date of a place has its day.** -/
lemma toDay_toDate (p : Place) : p.toDate.toDay = p.index := by
  have hmonth := p.month_le
  have hlt := p.yearOfEra_lt
  have hdays := p.dayOfEra_eq
  have hbefore := p.daysBefore_month_le
  have hera : ((p.yearOfEra : ℤ) + p.era * 400) / 400 = p.era := by omega
  have hyear : ((p.yearOfEra : ℤ) + p.era * 400) % 400 = p.yearOfEra := by omega
  rw [toDate, index]
  rw [daysBefore] at *
  split_ifs with hspring
  · have hlate : ¬ p.month + 3 ≤ 2 := by omega
    simp only [Date.toDay, hlate, if_false, hera, hyear]
    omega
  · have hearly : p.month - 9 ≤ 2 := by omega
    simp only [Date.toDay, hearly, if_true, add_sub_cancel_right, hera, hyear]
    omega

/-- The date of a place is one of the calendar. -/
lemma isValid_toDate (p : Place) : p.toDate.isValid = true := by
  have hle := p.daysBefore_month_le
  have hlt := p.day_lt_daysBefore
  rw [Date.isValid_iff, toDate]
  split_ifs with hspring
  · dsimp only
    rw [daysInMonth_of_lt hspring]
    omega
  · have hmonth := p.month_le
    obtain hjanuary | hfebruary : p.month = 10 ∨ p.month = 11 := by omega
    · have hnext : daysBefore (10 + 1) = daysBefore 11 := rfl
      dsimp only
      rw [hjanuary] at hle hlt ⊢
      rw [daysInMonth_january]
      omega
    · have hday := p.day_le
      have hbefore : daysBefore 11 = 337 := rfl
      dsimp only
      rw [hfebruary] at hle ⊢
      rw [daysInMonth_february]
      split_ifs with hleap
      · omega
      · have hne : p.day ≠ 365 := fun h => hleap (isLeapYear_of_day_eq h)
        omega

/-- Every day of every month has a place. -/
lemma exists_month_eq (year : ℤ) (n day : ℕ) (hlt : daysBefore n + day < daysBefore (n + 1))
    (hle : daysBefore n + day ≤ 365) (hleap : daysBefore n + day = 365 → isLeapYear (year + 1) = true) :
    ∃ p : Place, p.yearOfEra + p.era * 400 = year ∧ p.month = n ∧ p.day - daysBefore n = day := by
  obtain ⟨p, hyear, hday⟩ := exists_year_eq hle hleap
  exact ⟨p, hyear, month_eq (by omega) (by omega), by omega⟩

/-- **Every date of the calendar has a place.** -/
lemma exists_toDate_eq {d : Date} (h : d.isValid = true) : ∃ p : Place, p.toDate = d := by
  obtain ⟨⟨hmonth, hmonth'⟩, hday, hday'⟩ := Date.isValid_iff.mp h
  obtain ⟨year, month, day⟩ := d
  obtain ⟨day, rfl⟩ := Nat.exists_eq_add_of_le' hday
  have hjanuary : daysBefore 10 = 306 := rfl
  have hfebruary : daysBefore 11 = 337 ∧ daysBefore (10 + 1) = 337 := by decide
  have hend : daysBefore (11 + 1) = 367 := rfl
  dsimp only at hmonth hmonth' hday'
  obtain ⟨n, hn, rfl⟩ | rfl | rfl := month_cases hmonth hmonth'
  · rw [daysInMonth_of_lt hn] at hday'
    have hbound : daysBefore (n + 1) ≤ daysBefore 10 := daysBefore_mono hn
    obtain ⟨p, hyear, hpmonth, hpday⟩ := exists_month_eq year n day (by omega) (by omega) (by omega)
    refine ⟨p, ?_⟩
    rw [toDate, hpmonth, if_pos hn, hyear, hpday]
  · rw [daysInMonth_january] at hday'
    obtain ⟨p, hyear, hpmonth, hpday⟩ := exists_month_eq (year - 1) 10 day (by omega) (by omega) (by omega)
    refine ⟨p, ?_⟩
    rw [toDate, hpmonth, if_neg (by decide), hyear, hpday, sub_add_cancel]
  · rw [daysInMonth_february] at hday'
    have hle : daysBefore 11 + day ≤ 365 := by
      split_ifs at hday' <;> omega
    have hlt : daysBefore 11 + day < daysBefore (11 + 1) := by omega
    have hleap : daysBefore 11 + day = 365 → isLeapYear (year - 1 + 1) = true := by
      intro hlast
      rw [sub_add_cancel]
      by_contra hnot
      rw [if_neg hnot] at hday'
      omega
    obtain ⟨p, hyear, hpmonth, hpday⟩ := exists_month_eq (year - 1) 11 day hlt hle hleap
    refine ⟨p, ?_⟩
    rw [toDate, hpmonth, if_neg (by decide), hyear, hpday, sub_add_cancel]

end Place

/-! ### Days and dates -/

namespace Date

variable {d : Date}

/-- **Every day is the day of its date.** -/
theorem toDay_ofDay (n : ℤ) : (ofDay n).toDay = n := by
  obtain ⟨p, rfl⟩ := Place.exists_index_eq n
  rw [Place.ofDay_index, Place.toDay_toDate]

/-- **Every day has a date of the calendar.** -/
theorem isValid_ofDay (n : ℤ) : (ofDay n).isValid = true := by
  obtain ⟨p, rfl⟩ := Place.exists_index_eq n
  rw [Place.ofDay_index, Place.isValid_toDate]

/-- **Every date of the calendar is the date of its day.** -/
theorem ofDay_toDay (h : d.isValid = true) : ofDay d.toDay = d := by
  obtain ⟨p, rfl⟩ := Place.exists_toDate_eq h
  rw [Place.toDay_toDate, Place.ofDay_index]

/-- The date behind a date in the calendar. -/
def next (d : Date) : Date :=
  if d.day < daysInMonth d.year d.month then ⟨d.year, d.month, d.day + 1⟩
  else if d.month < 12 then ⟨d.year, d.month + 1, 1⟩
  else ⟨d.year + 1, 1, 1⟩

lemma isValid_next (h : d.isValid = true) : d.next.isValid = true := by
  rw [isValid_iff] at h
  rw [next]
  split_ifs
  · rw [isValid_iff]
    dsimp only
    omega
  · rw [isValid_iff]
    exact ⟨by dsimp only; omega, le_rfl, (daysInMonth_bounds _ _).1⟩
  · rfl

/-- The days from the first of March of the year 0 to that of another year. -/
def marchDay (year : ℤ) : ℤ := 365 * year + year / 4 - year / 100 + year / 400

/-- From one first of March to the next there is a leap day in a leap year. -/
lemma marchDay_eq (year : ℤ) : marchDay year = marchDay (year - 1) + if isLeapYear year then 366 else 365 := by
  have hfour : year / 4 - (year - 1) / 4 = if year % 4 = 0 then 1 else 0 := by
    split_ifs <;> omega
  have hhundred : year / 100 - (year - 1) / 100 = if year % 100 = 0 then 1 else 0 := by
    split_ifs <;> omega
  have hera : year / 400 - (year - 1) / 400 = if year % 400 = 0 then 1 else 0 := by
    split_ifs <;> omega
  simp only [marchDay, isLeapYear_iff]
  split_ifs at * <;> omega

lemma toDay_spring (year : ℤ) (month day : ℕ) :
    toDay ⟨year, month + 3, day⟩ = marchDay year + daysBefore month + day - 1 - epochShift := by
  have hlate : ¬ month + 3 ≤ 2 := by omega
  simp only [toDay, hlate, if_false, marchDay, daysBefore]
  omega

lemma toDay_january (year : ℤ) (day : ℕ) :
    toDay ⟨year, 1, day⟩ = marchDay (year - 1) + daysBefore 10 + day - 1 - epochShift := by
  simp only [toDay, marchDay, daysBefore, Nat.one_le_ofNat, if_true]
  omega

lemma toDay_february (year : ℤ) (day : ℕ) :
    toDay ⟨year, 2, day⟩ = marchDay (year - 1) + daysBefore 11 + day - 1 - epochShift := by
  simp only [toDay, marchDay, daysBefore, le_refl, if_true]
  omega

/-- **The next date is a day later.** -/
theorem toDay_next (h : d.isValid = true) : d.next.toDay = d.toDay + 1 := by
  obtain ⟨⟨hmonth, hmonth'⟩, hday, hday'⟩ := isValid_iff.mp h
  obtain ⟨year, month, day⟩ := d
  have hvalues := daysBefore_values
  dsimp only at hmonth hmonth' hday hday'
  rw [next]
  dsimp only
  split_ifs with hmiddle hyear
  · simp only [toDay]
    omega
  · have hlast : day = daysInMonth year month := by omega
    obtain ⟨n, hn, rfl⟩ | rfl | rfl := month_cases hmonth hmonth'
    · have hle : daysBefore n ≤ daysBefore (n + 1) := daysBefore_mono n.le_succ
      rw [hlast, toDay_spring, daysInMonth_of_lt hn, add_right_comm, toDay_spring]
      omega
    · rw [hlast, toDay_january, toDay_february, daysInMonth_january]
      omega
    · rw [hlast, toDay_february, toDay_spring year 0, marchDay_eq year, daysInMonth_february]
      split_ifs <;> omega
  · obtain rfl : month = 9 + 3 := by omega
    have hlast : day = daysInMonth year (9 + 3) := by omega
    have hjanuary : daysBefore (9 + 1) = 306 := rfl
    rw [hlast, toDay_january, toDay_spring, daysInMonth_of_lt (by decide), add_sub_cancel_right]
    omega

/-- **The dates follow one another as in the calendar.** -/
theorem ofDay_add_one (n : ℤ) : ofDay (n + 1) = (ofDay n).next := by
  have hvalid := isValid_ofDay n
  calc ofDay (n + 1) = ofDay (ofDay n).next.toDay := by rw [toDay_next hvalid, toDay_ofDay]
    _ = (ofDay n).next := ofDay_toDay (isValid_next hvalid)

/-- The day from which days are counted. -/
theorem ofDay_zero : ofDay 0 = ⟨1970, 1, 1⟩ := by decide

/-! ### Years -/

/-- The day on which a year begins. -/
def newYear (year : ℤ) : ℤ := toDay ⟨year, 1, 1⟩

lemma newYear_eq (year : ℤ) : newYear year = marchDay (year - 1) + 306 - epochShift := by
  rw [newYear, toDay_january, daysBefore_values.2.2.1]
  omega

lemma newYear_strictMono : StrictMono newYear := by
  refine strictMono_int_of_lt_succ fun year => ?_
  rw [newYear_eq, newYear_eq, add_sub_cancel_right, marchDay_eq year]
  split_ifs <;> omega

/-- The days of a year stand between its beginning and that of the next. -/
lemma newYear_le_toDay_and_lt (h : d.isValid = true) : newYear d.year ≤ d.toDay ∧ d.toDay < newYear (d.year + 1) := by
  obtain ⟨⟨hmonth, hmonth'⟩, hday, hday'⟩ := isValid_iff.mp h
  obtain ⟨year, month, day⟩ := d
  have hvalues := daysBefore_values
  have hyear := marchDay_eq year
  dsimp only at hmonth hmonth' hday hday'
  rw [newYear_eq, newYear_eq, add_sub_cancel_right]
  dsimp only
  obtain ⟨n, hn, rfl⟩ | rfl | rfl := month_cases hmonth hmonth'
  · have hbound : daysBefore (n + 1) ≤ daysBefore 10 := daysBefore_mono hn
    rw [daysInMonth_of_lt hn] at hday'
    rw [toDay_spring]
    split_ifs at hyear <;> omega
  · rw [daysInMonth_january] at hday'
    rw [toDay_january]
    split_ifs at hyear <;> omega
  · rw [daysInMonth_february] at hday'
    rw [toDay_february]
    split_ifs at hyear hday' <;> omega

/-- **The days before a year are those with earlier years.** -/
theorem year_ofDay_lt_iff (n year : ℤ) : (ofDay n).year < year ↔ n < newYear year := by
  have hbounds := newYear_le_toDay_and_lt (isValid_ofDay n)
  rw [toDay_ofDay] at hbounds
  constructor
  · intro h
    calc n < newYear ((ofDay n).year + 1) := hbounds.2
      _ ≤ newYear year := newYear_strictMono.monotone h
  · intro h
    exact newYear_strictMono.lt_iff_lt.mp (hbounds.1.trans_lt h)

end Date

end MonitorQuery.Calendar
