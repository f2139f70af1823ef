import MonitorQuery.Proofs.Fiql.Tree
import MonitorQuery.Proofs.Text.Rest

/-!
Terms that are read from their end.

Attributes are sent as they are. One that holds signs, joints or parentheses cannot be told from what stands behind it when the
term is read from the front. From its end every term can be read. No value has a `=` in it, and every sign ends in one; so the
value is what stands behind the last `=`. And no sign ends in another, so one sign alone ends there.

* `Sign.eq_of_isSuffix`: **no sign ends in another**, and so `Sign.atEnd?_eq_some_iff` that a text ends in one sign at most.
* `Comparison.ofLastSign?`: reads a term from its end. `Comparison.ofLastSign?_eq_some_iff`: **what is read is what has been
  written**, if the value has no `=`, and nothing else is read.
* `notMem_valueText`: no value that the compiler writes has one.
* `restrictionTerm_inj`: **terms with one text have one attribute, one sign and one value**, whatever the attributes.
-/

namespace MonitorQuery.Request.Fiql

open MonitorQuery.Query

/-! ### The sign at the end of a text -/

namespace Sign

/-- Every sign. -/
def all : List Sign := [equal, unequal, greater, less, atLeast, atMost]

lemma mem_all (s : Sign) : s ∈ all := by cases s <;> decide

/-- **No sign ends in another.** -/
lemma eq_of_isSuffix {s t : Sign} (h : s.chars <:+ t.chars) : s = t := by
  revert h
  cases s <;> cases t <;> decide

/-- The sign in which a text ends. -/
def atEnd? (cs : List Char) : Option Sign := all.find? fun s => s.chars.isSuffixOf cs

lemma isSuffix_of_atEnd? {cs : List Char} {s : Sign} (h : atEnd? cs = some s) : s.chars <:+ cs := by
  have hend : s.chars.isSuffixOf cs = true := List.find?_some (p := fun s : Sign => s.chars.isSuffixOf cs) h
  exact List.isSuffixOf_iff_suffix.mp hend

/-- **A text ends in one sign at most.** -/
lemma atEnd?_eq_some_iff {cs : List Char} {s : Sign} : atEnd? cs = some s ↔ s.chars <:+ cs := by
  constructor
  · exact isSuffix_of_atEnd?
  · intro h
    cases hfound : atEnd? cs with
    | none => exact absurd (List.isSuffixOf_iff_suffix.mpr h) (List.find?_eq_none.mp hfound s s.mem_all)
    | some t =>
        -- of two ends of a text one is an end of the other
        rcases List.suffix_or_suffix_of_suffix h (isSuffix_of_atEnd? hfound) with hst | hts
        · rw [eq_of_isSuffix hst]
        · rw [eq_of_isSuffix hts]

end Sign

/-! ### Terms from their end -/

namespace Comparison

/-- The character ends no sign. -/
def endsNoSign (c : Char) : Bool := c ≠ '='

/-- Reads a term from its end. The value is all that stands behind the last `=`, and the sign is the one that ends there. -/
def ofLastSign? (cs : List Char) : Option Comparison :=
  (Sign.atEnd? (cs.rdropWhile endsNoSign)).map fun sign =>
    ⟨String.ofList ((cs.rdropWhile endsNoSign).rdrop sign.chars.length), sign, String.ofList (cs.rtakeWhile endsNoSign)⟩

/-- Without the sign at its end, the text before a value is the attribute. -/
lemma rdrop_append_chars (attr : List Char) (s : Sign) : (attr ++ s.chars).rdrop s.chars.length = attr := by
  rw [List.rdrop, List.length_append, Nat.add_sub_cancel, List.take_left]

/-- What stands before a value ends in the last character of its sign. -/
lemma not_endsNoSign_getLast (attr : List Char) (s : Sign) : ∀ c ∈ (attr ++ s.chars).getLast?, endsNoSign c = false := by
  cases s <;> simp [Sign.chars, endsNoSign]

lemma endsNoSign_of_notMem {cs : List Char} (h : '=' ∉ cs) : ∀ c ∈ cs, endsNoSign c = true := by
  intro c hc
  have hne : c ≠ '=' := fun heq => h (heq ▸ hc)
  simpa [endsNoSign] using hne

/-- **What is read is what has been written.** From its end a text is read as a comparison just if it is the text of it and the
value has no `=`. -/
theorem ofLastSign?_eq_some_iff {cs : List Char} {c : Comparison} :
    ofLastSign? cs = some c ↔ c.chars = cs ∧ '=' ∉ c.value.toList := by
  constructor
  · intro h
    obtain ⟨sign, hsign, rfl⟩ := Option.map_eq_some_iff.mp h
    obtain ⟨attr, hattr⟩ := Sign.atEnd?_eq_some_iff.mp hsign
    constructor
    · rw [chars, String.toList_ofList, String.toList_ofList, ← hattr, rdrop_append_chars]
      conv_rhs => rw [← List.rdropWhile_append_rtakeWhile (p := endsNoSign) (l := cs), ← hattr]
    · intro hmem
      rw [String.toList_ofList] at hmem
      exact absurd (List.mem_rtakeWhile_imp hmem) (by decide)
  · rintro ⟨rfl, hvalue⟩
    have hlast := not_endsNoSign_getLast c.attr.toList c.sign
    have hall := endsNoSign_of_notMem hvalue
    have hfront : c.chars.rdropWhile endsNoSign = c.attr.toList ++ c.sign.chars := Text.rdropWhile_append_of_getLast hlast hall
    have hback : c.chars.rtakeWhile endsNoSign = c.value.toList := Text.rtakeWhile_append_of_getLast hlast hall
    have hsign : Sign.atEnd? (c.attr.toList ++ c.sign.chars) = some c.sign :=
      Sign.atEnd?_eq_some_iff.mpr (List.suffix_append _ _)
    rw [ofLastSign?, hfront, hback, hsign, Option.map_some, rdrop_append_chars, String.ofList_toList, String.ofList_toList]

end Comparison

/-! ### What the compiler writes -/

section Compiler

variable {P Q : List Property} {r s : Restriction} {text other : String}

/-- No value that the compiler writes has a `=` in it. -/
lemma notMem_valueText (properties : List Property) (r : Restriction) : '=' ∉ (valueText properties r).toList := by
  intro h
  have hkept := mem_valueText h
  revert hkept
  decide

/-- **Every term is read from its end**: the attribute, the sign of the comparator and the text of the value. -/
lemma ofLastSign?_of_restrictionTerm (h : restrictionTerm P r = .ok text) :
    ∃ c, Comparison.ofLastSign? text.toList = some c ∧ c.attr = r.attr
      ∧ signOf r.comparator = .ok (String.ofList c.sign.chars) ∧ c.value = valueText P r := by
  rw [restrictionTerm_eq] at h
  obtain ⟨c, hc, rfl⟩ := map_eq_ok.mp h
  obtain ⟨-, hsign, hattr, hvalue⟩ := Comparison.of_ofRestriction hc
  refine ⟨c, ?_, hattr, by rw [signOf_eq, hsign], hvalue⟩
  rw [String.toList_ofList, Comparison.ofLastSign?_eq_some_iff, hvalue]
  exact ⟨rfl, notMem_valueText P r⟩

/-- **Terms have one text just if they have one attribute, one sign and one value.** This holds of any two restrictions that are
taken, with any properties. Their attributes may have signs, joints and parentheses in them. -/
theorem restrictionTerm_inj (hr : restrictionTerm P r = .ok text) (hs : restrictionTerm Q s = .ok other) :
    text = other ↔
      r.attr = s.attr ∧ signOf r.comparator = signOf s.comparator ∧ valueText P r = valueText Q s := by
  obtain ⟨c, hc, hattr, hsign, hvalue⟩ := ofLastSign?_of_restrictionTerm hr
  obtain ⟨d, hd, hattr', hsign', hvalue'⟩ := ofLastSign?_of_restrictionTerm hs
  constructor
  · rintro rfl
    obtain rfl : c = d := Option.some.inj (hc.symm.trans hd)
    exact ⟨hattr.symm.trans hattr', hsign.trans hsign'.symm, hvalue.symm.trans hvalue'⟩
  · rintro ⟨hattrs, hsigns, hvalues⟩
    have hchars : c.sign.chars = d.sign.chars := by
      rw [hsign, hsign'] at hsigns
      exact String.ofList_injective (Except.ok.inj hsigns)
    apply String.toList_inj.mp
    calc text.toList = c.attr.toList ++ c.sign.chars ++ c.value.toList :=
          (Comparison.ofLastSign?_eq_some_iff.mp hc).1.symm
      _ = d.attr.toList ++ d.sign.chars ++ d.value.toList := by
          rw [hattr, hattrs, ← hattr', hchars, hvalue, hvalues, ← hvalue']
      _ = other.toList := (Comparison.ofLastSign?_eq_some_iff.mp hd).1

/-- A null check without a value and an equation with the word for a null have one text. The attribute has signs, a joint and a
parenthesis in it. -/
theorem restrictionTerm_inj_null :
    restrictionTerm [⟨"time", "Last event", true, .timestamp, []⟩] ⟨"(a=gt=1;b!", .null, none⟩ = .ok "(a=gt=1;b!==\x00"
      ∧ restrictionTerm [] ⟨"(a=gt=1;b!", .eq, some (.text "null")⟩ = .ok "(a=gt=1;b!==\x00"
      ∧ signOf .null = signOf .eq
      ∧ valueText [⟨"time", "Last event", true, .timestamp, []⟩] ⟨"(a=gt=1;b!", .null, none⟩
        = valueText [] ⟨"(a=gt=1;b!", .eq, some (.text "null")⟩ := by
  have hnull : restrictionTerm [⟨"time", "Last event", true, .timestamp, []⟩] ⟨"(a=gt=1;b!", .null, none⟩
      = .ok "(a=gt=1;b!==\x00" := by decide
  have heq : restrictionTerm [] ⟨"(a=gt=1;b!", .eq, some (.text "null")⟩ = .ok "(a=gt=1;b!==\x00" := by decide
  obtain ⟨-, hsign, hvalue⟩ := (restrictionTerm_inj hnull heq).mp rfl
  exact ⟨hnull, heq, hsign, hvalue⟩

end Compiler

end MonitorQuery.Request.Fiql
