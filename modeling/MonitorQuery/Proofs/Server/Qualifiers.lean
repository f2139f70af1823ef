import MonitorQuery.Proofs.Server.Grammar
import MonitorQuery.Proofs.Text.Component

/-!
The qualifier of a version, and the normal form of a version.

Behind the first hyphen of a version any text may stand. It is rewritten character by character and shown to a reader of
qualifiers. What the reader refuses is dropped, and the rest is the qualifier. The normal form of a version is its three numbers
and, behind a hyphen, its qualifier.

* `Rewrites`, `HasParts`: how one character is rewritten, and the parts between the points of a qualifier.
* `AcceptsParts`: what is asked of a reader of qualifiers. `ofTextWith` takes such a reader, and `ofTextWith_eq` says that
  **versions are read the same with every one of them**.
* `keep?_eq_some_iff`, `keep?_eq_none_iff`: what is kept of a text, and when nothing is.
* `keep?_self`: **a qualifier is kept as it is.**
* `ofText_normalForm`: **the normal form of a version is read as the version**, and is the normal form of what is read.
* `normalForm_and_qualifier_of_ofTextWith`: both of any version that has been read.
-/

namespace MonitorQuery.Server

open MonitorQuery.Decimal

/-! ### What is kept -/

namespace Qualifier

/-- One character of a qualifier as it is rewritten: an ASCII letter, a digit or a point stays, and anything else becomes a
hyphen. -/
inductive Rewrites : Char → Char → Prop
  | kept {c : Char} (h : c.isAlphanum = true ∨ c = '.') : Rewrites c c
  | hyphen {c : Char} (h : ¬ (c.isAlphanum = true ∨ c = '.')) : Rewrites c '-'

/-- A part of a qualifier: one character or more, and not two digits or more with a zero in front. -/
structure IsPart (cs : List Char) : Prop where
  ne_nil : cs ≠ []
  not_padded : ¬ (2 ≤ cs.length ∧ cs.head? = some '0' ∧ ∀ c ∈ cs, c.isDigit = true)

/-- What stands between the points of a text are parts of a qualifier. -/
def HasParts (cs : List Char) : Prop := ∀ part ∈ cs.splitOn '.', IsPart part

variable {c : Char} {cs ds : List Char} {q : String}

lemma isKept_iff : isKept c = true ↔ c.isAlphanum = true ∨ c = '.' := by
  simp [isKept]

lemma isPart_iff : isPart cs = true ↔ IsPart cs := by
  have hiff : isPart cs = true ↔ cs ≠ [] ∧ ¬ (2 ≤ cs.length ∧ cs.head? = some '0' ∧ ∀ c ∈ cs, c.isDigit = true) := by
    rw [isPart, Bool.and_eq_true, Bool.not_eq_true', Bool.not_eq_true', List.isEmpty_eq_false_iff, ← Bool.not_eq_true,
      Bool.and_eq_true, Bool.and_eq_true, List.all_eq_true, decide_eq_true_iff, beq_iff_eq]
    tauto
  exact hiff.trans ⟨fun h => ⟨h.1, h.2⟩, fun h => ⟨h.ne_nil, h.not_padded⟩⟩

lemma all_isPart_iff : (cs.splitOn '.').all isPart = true ↔ HasParts cs := by
  rw [List.all_eq_true, HasParts]
  exact forall₂_congr fun part _ => isPart_iff

/-- An empty text has an empty part. -/
lemma not_hasParts_nil : ¬ HasParts [] := by
  intro h
  exact (h [] (by simp)).ne_nil rfl

/-- What is written for a text is the text rewritten, and nothing else is. -/
lemma forall₂_rewrites_iff : List.Forall₂ Rewrites cs ds ↔ normalize cs = ds := by
  have hchar : ∀ c d, Rewrites c d ↔ (if isKept c then c else '-') = d := by
    intro c d
    constructor
    · rintro (h | h)
      · exact if_pos (isKept_iff.mpr h)
      · exact if_neg (mt isKept_iff.mp h)
    · rintro rfl
      split_ifs with h
      · exact .kept (isKept_iff.mp h)
      · exact .hyphen (mt isKept_iff.mpr h)
  rw [normalize, ← List.forall₂_eq_eq_eq, List.forall₂_map_left_iff]
  exact ⟨fun h => h.imp fun c d => (hchar c d).mp, fun h => h.imp fun c d => (hchar c d).mpr⟩

/-- **What is kept of a text** is the text rewritten, if it has proper parts. -/
lemma keep?_eq_some_iff : keep? cs = some q ↔ List.Forall₂ Rewrites cs q.toList ∧ HasParts q.toList := by
  rw [forall₂_rewrites_iff, keep?]
  by_cases h : HasParts (normalize cs)
  · rw [if_pos (all_isPart_iff.mpr h), Option.some.injEq, ← String.toList_inj, String.toList_ofList]
    exact ⟨fun heq => ⟨heq, heq ▸ h⟩, fun heq => heq.1⟩
  · rw [if_neg (mt all_isPart_iff.mp h)]
    exact iff_of_false (by simp) fun heq => h (heq.1 ▸ heq.2)

/-- **When nothing is kept of a text**: its rewritten form has an improper part. -/
lemma keep?_eq_none_iff : keep? cs = none ↔ ¬ HasParts (normalize cs) := by
  rw [keep?, ← all_isPart_iff]
  split_ifs with h <;> simp [h]

/-- The characters of a rewritten text are letters, digits, points and hyphens. -/
lemma isKept_or_eq_of_forall₂ (h : List.Forall₂ Rewrites cs ds) : ∀ d ∈ ds, isKept d = true ∨ d = '-' := by
  induction h with
  | nil => simp
  | cons hchar _ ih =>
      refine List.forall_mem_cons.mpr ⟨?_, ih⟩
      cases hchar with
      | kept h => exact .inl (isKept_iff.mpr h)
      | hyphen _ => exact .inr rfl

/-- **A qualifier is kept as it is**: to rewrite it changes nothing, hyphens included. -/
lemma keep?_self (h : keep? cs = some q) : keep? q.toList = some q := by
  obtain ⟨hrewrites, hparts⟩ := keep?_eq_some_iff.mp h
  refine keep?_eq_some_iff.mpr ⟨List.forall₂_same.mpr fun c hc => ?_, hparts⟩
  obtain hkept | rfl := isKept_or_eq_of_forall₂ hrewrites c hc
  · exact .kept (isKept_iff.mp hkept)
  · exact .hyphen (by decide)

/-- There are no blanks in a qualifier. -/
lemma isBlank_of_keep? (h : keep? cs = some q) : ∀ c ∈ q.toList, Text.isBlank c = false := by
  intro c hc
  obtain hkept | rfl := isKept_or_eq_of_forall₂ (keep?_eq_some_iff.mp h).1 c hc
  · obtain halphanum | rfl := isKept_iff.mp hkept
    · exact Text.isBlank_eq_false (Text.Percent.toNat_of_isAlphanum halphanum)
    · decide
  · decide

/-! ### Readers of qualifiers -/

/-- What is asked of a reader of qualifiers: of the texts of letters, digits, points and hyphens it accepts those with proper
parts. -/
def AcceptsParts (accepts : List Char → Bool) : Prop :=
  ∀ cs, cs ≠ [] → (∀ c ∈ cs, isKept c = true ∨ c = '-') → (accepts cs = true ↔ HasParts cs)

/-- What a reader leaves of the text behind a hyphen. If there is no text it is not asked. -/
def keepWith (accepts : List Char → Bool) (cs : List Char) : Option String :=
  if cs.isEmpty then none
  else if accepts (normalize cs) then some (String.ofList (normalize cs)) else none

/-- The reader that accepts a text if every one of its parts is proper. -/
def hasProperParts (cs : List Char) : Bool := (cs.splitOn '.').all isPart

lemma acceptsParts_hasProperParts : AcceptsParts hasProperParts := fun _ _ _ => all_isPart_iff

lemma keepWith_eq {accepts : List Char → Bool} (h : AcceptsParts accepts) : keepWith accepts = keep? := by
  funext cs
  rw [keepWith]
  split_ifs with hempty haccepts
  · rw [List.isEmpty_iff.mp hempty]
    rfl
  all_goals
    have hne : normalize cs ≠ [] := by simpa [normalize] using hempty
    have hiff := h _ hne (isKept_or_eq_of_forall₂ (forall₂_rewrites_iff.mpr rfl))
  · rw [keep?, if_pos (all_isPart_iff.mpr (hiff.mp haccepts))]
  · exact (keep?_eq_none_iff.mpr (mt hiff.mpr haccepts)).symm

end Qualifier

/-! ### The normal form -/

/-- A text stands behind the first hyphen of another. -/
def IsBehindHyphen (cs behind : List Char) : Prop := ∃ front, '-' ∉ front ∧ cs = front ++ '-' :: behind

section Hyphen

variable {cs behind : List Char}

lemma qualifierPart_of_notMem (h : '-' ∉ cs) : Version.qualifierPart cs = [] := by
  have hall : ∀ c ∈ cs, (c != '-') = true := fun c hc => by simpa using ne_of_mem_of_not_mem hc h
  rw [Version.qualifierPart, List.dropWhile_eq_nil_iff.mpr hall, List.drop_nil]

lemma IsBehindHyphen.qualifierPart_eq (h : IsBehindHyphen cs behind) : Version.qualifierPart cs = behind := by
  obtain ⟨front, hfront, rfl⟩ := h
  have hall : ∀ c ∈ front, (c != '-') = true := fun c hc => by simpa using ne_of_mem_of_not_mem hc hfront
  rw [Version.qualifierPart, Text.dropWhile_append_of_head hall (by simp), List.drop_one, List.tail_cons]

/-- Something stands behind the first hyphen of a text, if there is one. -/
lemma isBehindHyphen_qualifierPart (h : '-' ∈ cs) : IsBehindHyphen cs (Version.qualifierPart cs) := by
  obtain ⟨front, behind, hcs, hfront⟩ := List.eq_append_cons_of_mem h
  have hbehind : IsBehindHyphen cs behind := ⟨front, hfront, hcs⟩
  exact hbehind.qualifierPart_eq.symm ▸ hbehind

end Hyphen

/-- The digits of a number of 64 bits are a component. -/
lemma isComponent_toDigits {n : ℕ} (h : n ≤ 2 ^ 64 - 1) : IsComponent (Nat.toDigits 10 n) :=
  ⟨isDigits_toDigits n, by rwa [ofDigits_toDigits]⟩

/-- The numbers of a version fit in 64 bits. -/
lemma WritesTriple.le {cs : List Char} {t : Triple} (h : WritesTriple cs t) :
    t.major ≤ 2 ^ 64 - 1 ∧ t.minor ≤ 2 ^ 64 - 1 ∧ t.patch ≤ 2 ^ 64 - 1 := by
  cases h with
  | major ha => exact ⟨ha.value_le, Nat.zero_le _, Nat.zero_le _⟩
  | minor ha hb => exact ⟨ha.value_le, hb.value_le, Nat.zero_le _⟩
  | patch ha hb hc => exact ⟨ha.value_le, hb.value_le, hc.value_le⟩

lemma WritesVersion.exists_writesTriple {cs : List Char} {t : Triple} (h : WritesVersion cs t) : ∃ ds, WritesTriple ds t := by
  cases h with
  | release h | qualified h => exact ⟨_, h⟩

namespace Triple

/-- Three numbers with points between them. -/
def label (t : Triple) : String := renderNat t.major ++ "." ++ renderNat t.minor ++ "." ++ renderNat t.patch

lemma toList_label (t : Triple) : t.label.toList
    = Nat.toDigits 10 t.major ++ '.' :: (Nat.toDigits 10 t.minor ++ '.' :: Nat.toDigits 10 t.patch) := by
  simp [label]

lemma isDigit_or_eq_of_mem_label {t : Triple} : ∀ c ∈ t.label.toList, c.isDigit = true ∨ c = '.' := by
  intro c hc
  simp only [toList_label, List.mem_append, List.mem_cons] at hc
  obtain hc | rfl | hc | rfl | hc := hc
  · exact .inl (isDigit_toDigits _ c hc)
  · exact .inr rfl
  · exact .inl (isDigit_toDigits _ c hc)
  · exact .inr rfl
  · exact .inl (isDigit_toDigits _ c hc)

lemma isBlank_of_mem_label {t : Triple} : ∀ c ∈ t.label.toList, Text.isBlank c = false := by
  intro c hc
  obtain hdigit | rfl := isDigit_or_eq_of_mem_label c hc
  · have hbounds := toNat_of_isDigit hdigit
    exact Text.isBlank_eq_false (by omega)
  · decide

lemma hyphen_notMem_label (t : Triple) : '-' ∉ t.label.toList := by
  intro hc
  obtain hdigit | heq := isDigit_or_eq_of_mem_label _ hc
  · exact absurd hdigit (by decide)
  · exact absurd heq (by decide)

end Triple

/-- Three numbers that fit in 64 bits are written by their label. -/
lemma WritesTriple.writesTriple_label {cs : List Char} {t : Triple} (h : WritesTriple cs t) : WritesTriple t.label.toList t := by
  obtain ⟨hmajor, hminor, hpatch⟩ := h.le
  have hlabel := WritesTriple.patch (isComponent_toDigits hmajor) (isComponent_toDigits hminor) (isComponent_toDigits hpatch)
  simp only [ofDigits_toDigits] at hlabel
  rwa [Triple.toList_label]

namespace Version

variable {accepts : List Char → Bool} {text : String} {v : Version}

/-- The three numbers of a version and, behind a hyphen, its qualifier. -/
def normalForm (v : Version) : String :=
  match v.qualifier with
  | none => v.triple.label
  | some q => v.triple.label ++ "-" ++ q

/-- **The normal form of a version is read as the version**: with the same numbers and the same qualifier. -/
theorem ofText_normalForm (h : ofText text = .ok v) :
    ofText v.normalForm = .ok ⟨v.normalForm, v.triple, v.qualifier⟩ := by
  obtain ⟨hversion, -, hqualifier⟩ := ofText_eq_ok_iff.mp h
  obtain ⟨ds, hds⟩ := hversion.exists_writesTriple
  have hlabel := hds.writesTriple_label
  rw [normalForm]
  cases hq : v.qualifier with
  | none =>
      have htrim : Text.trimChars v.triple.label.toList = v.triple.label.toList :=
        Text.trimChars_eq_self_iff.mpr (Text.isTrimmed_of_forall Triple.isBlank_of_mem_label)
      refine ofText_eq_ok_iff.mpr ⟨?_, ?_, ?_⟩
      · rw [htrim]
        exact .release hlabel
      · rw [Text.trim, htrim, String.ofList_toList]
      · rw [htrim, qualifierPart_of_notMem (Triple.hyphen_notMem_label _)]
        rfl
  | some q =>
      rw [hq] at hqualifier
      have hchars : (v.triple.label ++ "-" ++ q).toList = v.triple.label.toList ++ '-' :: q.toList := by simp
      have hblank : ∀ c ∈ v.triple.label.toList ++ '-' :: q.toList, Text.isBlank c = false := by
        refine List.forall_mem_append.mpr ⟨Triple.isBlank_of_mem_label, List.forall_mem_cons.mpr ⟨by decide, ?_⟩⟩
        exact Qualifier.isBlank_of_keep? hqualifier.symm
      have htrim : Text.trimChars (v.triple.label ++ "-" ++ q).toList = v.triple.label.toList ++ '-' :: q.toList := by
        rw [hchars, Text.trimChars_eq_self_iff.mpr (Text.isTrimmed_of_forall hblank)]
      have hbehind : IsBehindHyphen (v.triple.label.toList ++ '-' :: q.toList) q.toList :=
        ⟨_, Triple.hyphen_notMem_label _, rfl⟩
      refine ofText_eq_ok_iff.mpr ⟨?_, ?_, ?_⟩
      · rw [htrim]
        exact .qualified hlabel _
      · rw [Text.trim, htrim, ← hchars, String.ofList_toList]
      · rw [htrim, hbehind.qualifierPart_eq, Qualifier.keep?_self hqualifier.symm]

/-- Reads a version with any reader of qualifiers. -/
def ofTextWith (accepts : List Char → Bool) (text : String) : Except VersionError Version :=
  let cs := Text.trimChars text.toList
  let parts := (numbersPart cs).splitOn '.'
  if 3 < parts.length then .error (.malformed text)
  else do
    let ns ← numbers text parts
    .ok ⟨String.ofList cs, tripleOf ns, Qualifier.keepWith accepts (qualifierPart cs)⟩

/-- **Versions are read the same** with every reader that accepts what has proper parts. -/
lemma ofTextWith_eq (h : Qualifier.AcceptsParts accepts) : ofTextWith accepts = ofText := by
  funext text
  rw [ofTextWith, ofText, Qualifier.keepWith_eq h]

/-- **The normal form of a version is read as the version.** Whatever reader of qualifiers is used that accepts what has proper
parts: the numbers of a version that has been read, with the qualifier behind a hyphen if there is one, are read as the same
numbers and the same qualifier, and are their own normal form. A qualifier is the text behind the first hyphen, character by
character, where all but ASCII letters, digits and points have become hyphens; it is as long as that text and has proper parts.
There is no qualifier just if there is no hyphen, or no text behind it, or if that text, rewritten, has an improper part. -/
theorem normalForm_and_qualifier_of_ofTextWith (haccepts : Qualifier.AcceptsParts accepts) (h : ofTextWith accepts text = .ok v) :
    ofTextWith accepts v.normalForm = .ok ⟨v.normalForm, v.triple, v.qualifier⟩
      ∧ (∀ q, v.qualifier = some q → ∃ behind, IsBehindHyphen (Text.trim text).toList behind
          ∧ List.Forall₂ Qualifier.Rewrites behind q.toList ∧ q.length = behind.length ∧ Qualifier.HasParts q.toList)
      ∧ (v.qualifier = none ↔ '-' ∉ (Text.trim text).toList
          ∨ ∃ behind, IsBehindHyphen (Text.trim text).toList behind
            ∧ (behind = [] ∨ ∃ ds, List.Forall₂ Qualifier.Rewrites behind ds ∧ ¬ Qualifier.HasParts ds)) := by
  rw [ofTextWith_eq haccepts] at h ⊢
  obtain ⟨-, -, hqualifier⟩ := ofText_eq_ok_iff.mp h
  rw [← Text.toList_trim] at hqualifier
  generalize (Text.trim text).toList = cs at hqualifier
  refine ⟨ofText_normalForm h, fun q hq => ?_, ?_⟩
  · rw [hqualifier] at hq
    obtain ⟨hrewrites, hparts⟩ := Qualifier.keep?_eq_some_iff.mp hq
    have hmem : '-' ∈ cs := by
      by_contra hnone
      rw [qualifierPart_of_notMem hnone] at hq
      cases hq
    exact ⟨_, isBehindHyphen_qualifierPart hmem, hrewrites, hrewrites.length_eq.symm, hparts⟩
  · rw [hqualifier, Qualifier.keep?_eq_none_iff]
    constructor
    · intro hbreaks
      by_cases hmem : '-' ∈ cs
      · exact .inr ⟨_, isBehindHyphen_qualifierPart hmem, .inr ⟨_, Qualifier.forall₂_rewrites_iff.mpr rfl, hbreaks⟩⟩
      · exact .inl hmem
    · rintro (hnone | ⟨behind, hbehind, rfl | ⟨ds, hds, hbreaks⟩⟩)
      · rw [qualifierPart_of_notMem hnone]
        exact Qualifier.not_hasParts_nil
      · rw [hbehind.qualifierPart_eq]
        exact Qualifier.not_hasParts_nil
      · rwa [hbehind.qualifierPart_eq, Qualifier.forall₂_rewrites_iff.mp hds]

/-- A qualifier with a hyphen, a character beyond ASCII and zeros in front of letters stays, once it is rewritten. -/
theorem normalForm_and_qualifier_of_ofTextWith_hyphen :
    Qualifier.AcceptsParts Qualifier.hasProperParts
      ∧ ofTextWith Qualifier.hasProperParts " 026.0-rc_1-é.00x " = .ok ⟨"026.0-rc_1-é.00x", ⟨26, 0, 0⟩, some "rc-1--.00x"⟩
      ∧ ofTextWith Qualifier.hasProperParts "26.0.0-rc-1--.00x" = .ok ⟨"26.0.0-rc-1--.00x", ⟨26, 0, 0⟩, some "rc-1--.00x"⟩ := by
  have hread : ofTextWith Qualifier.hasProperParts " 026.0-rc_1-é.00x "
      = .ok ⟨"026.0-rc_1-é.00x", ⟨26, 0, 0⟩, some "rc-1--.00x"⟩ := rfl
  exact ⟨Qualifier.acceptsParts_hasProperParts, hread,
    (normalForm_and_qualifier_of_ofTextWith Qualifier.acceptsParts_hasProperParts hread).1⟩

end Version

end MonitorQuery.Server
