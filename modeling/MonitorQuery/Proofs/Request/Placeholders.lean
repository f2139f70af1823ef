import MonitorQuery.Proofs.Request.Agreement
import MonitorQuery.Proofs.Text.Encoding

/-!
What stands for a value in a search.

Only the placeholder of a null is put into a search as it is. All that a user gives is encoded, and the encoding has no U+0000.
So the placeholder cannot be had by giving a value that looks like it.

* `AsksForNull`: a null check without a value, or a comparison with nothing or with the word `null`, unless on a timestamp.
  `valueText_of_asksForNull` has the placeholder for those, `exists_encode_of_not_asksForNull` an encoded text for all others.
* `isFaithful_encodeWith`: **values are encoded faithfully, and none is taken for a null.**
-/

namespace MonitorQuery.Request.Fiql

open MonitorQuery.Query MonitorQuery.Text

/-- The restriction asks for the placeholder of a null. -/
def AsksForNull (properties : List Property) (r : Restriction) : Prop :=
  r.comparator.isNullCheck = true ∧ r.value = none
    ∨ r.comparator.isNullCheck = false ∧ (r.value = none ∨ r.value = some (.text "null"))
      ∧ (Property.find? properties r.attr).map (·.type) ≠ some .timestamp

instance (properties : List Property) (r : Restriction) : Decidable (AsksForNull properties r) :=
  inferInstanceAs (Decidable (_ ∨ _))

variable {properties : List Property} {r : Restriction}

/-- Who asks for the placeholder is given it. -/
lemma valueText_of_asksForNull (h : AsksForNull properties r) : valueText properties r = nullValue := by
  obtain ⟨hcheck, hnone⟩ | ⟨hcheck, hnull, htype⟩ := h
  · exact valueText_of_isNullCheck properties hcheck hnone
  · rw [valueText_of_null properties hcheck hnull, typedNull, if_neg htype]

/-- All others are given an encoded text. -/
lemma exists_encode_of_not_asksForNull (h : ¬ AsksForNull properties r) :
    ∃ s, valueText properties r = Percent.encode s := by
  obtain ⟨hnullCheck, hcomparison⟩ := not_or.mp h
  cases hcheck : r.comparator.isNullCheck with
  | true =>
      obtain ⟨v, hv⟩ := Option.ne_none_iff_exists'.mp fun hnone => hnullCheck ⟨hcheck, hnone⟩
      exact ⟨v.idForm, by simp [valueText, hv, hcheck, Value.encoded]⟩
  | false =>
      by_cases hnull : r.value = none ∨ r.value = some (.text "null")
      · have htype := not_not.mp fun htype => hcomparison ⟨hcheck, hnull, htype⟩
        rw [valueText_of_null properties hcheck hnull, typedNull, if_pos htype]
        exact ⟨nullDate, rfl⟩
      · obtain ⟨hsome, hword⟩ := not_or.mp hnull
        obtain ⟨v, hv⟩ := Option.ne_none_iff_exists'.mp hsome
        rw [hv, Option.some.injEq] at hword
        exact ⟨v.idForm, valueText_of_value properties hcheck hv hword⟩

/-- **U+0000 stands in no value but the placeholder.** -/
lemma nul_mem_valueText_iff : '\x00' ∈ (valueText properties r).toList ↔ AsksForNull properties r := by
  constructor
  · intro hmem
    by_contra hask
    obtain ⟨s, hs⟩ := exists_encode_of_not_asksForNull hask
    rw [hs] at hmem
    exact (Percent.isFaithful_encode.separated s _ hmem).2.2 rfl
  · intro hask
    rw [valueText_of_asksForNull hask]
    decide

/-- **Values are encoded faithfully, and none is taken for a null.** Take any encoder of texts that keeps the unreserved
characters and encodes every other byte. Then the encoding that goes through it character by character, and keeps the marks
besides, is the one of the values in a search. It consists of kept characters and of percent signs before two upper-case digits.
It is read back whatever the text, so different texts are encoded differently; it has neither a separator nor a blank nor U+0000;
and texts joined are encoded as they are alone. And U+0000 is in the text of a restriction exactly when the restriction asks for
the placeholder of a null, and then it is the whole of the text. -/
theorem isFaithful_encodeWith {escape : String → String} (h : Percent.EscapesReserved escape) :
    Percent.IsFaithful (Percent.encodeWith escape)
      ∧ (∀ v : Value, v.encoded = Percent.encodeWith escape v.idForm)
      ∧ ∀ properties r, ('\x00' ∈ (valueText properties r).toList ↔ AsksForNull properties r)
        ∧ (valueText properties r = nullValue ↔ AsksForNull properties r) := by
  have hsame : Percent.encodeWith escape = Percent.encode := funext (Percent.encodeWith_eq h)
  rw [hsame]
  refine ⟨Percent.isFaithful_encode, fun _ => rfl, fun properties r => ⟨nul_mem_valueText_iff, ?_, valueText_of_asksForNull⟩⟩
  intro hnull
  rw [← nul_mem_valueText_iff, hnull]
  decide

/-- A text of two bytes in one character, a blank, marks, U+0000 and a separator; and a value that is U+0000. -/
theorem isFaithful_encodeWith_escapeReserved :
    Percent.EscapesReserved Percent.escapeReserved
      ∧ Percent.encodeWith Percent.escapeReserved "é (x)\x00;" = "%C3%A9%20(x)%00%3B"
      ∧ Percent.decode? (Percent.encodeWith Percent.escapeReserved "é (x)\x00;") = some "é (x)\x00;"
      ∧ valueText [] ⟨"user", .eq, some (.text "\x00")⟩ = "%00"
      ∧ valueText [] ⟨"user", .eq, some (.text "null")⟩ = "\x00" := by
  obtain ⟨hfaithful, hencoded, hnull⟩ := isFaithful_encodeWith Percent.escapesReserved_escapeReserved
  refine ⟨Percent.escapesReserved_escapeReserved, ?_, hfaithful.reads _, ?_, ?_⟩
  · exact (hencoded (.text "é (x)\x00;")).symm.trans (by decide)
  · decide
  · exact (hnull [] _).2.mpr (by decide)

end MonitorQuery.Request.Fiql
