import MonitorQuery.Proofs.Computation
import MonitorQuery.Proofs.Decimal.Integers
import MonitorQuery.Proofs.Text.Trimming
import MonitorQuery.Server.Metadata

/-!
The texts of versions.

A version is one to three components with points between them; behind a hyphen any text may follow, and blanks may stand around
all of it. A component is a run of digits, with as many zeros in front as one likes. It is its value that has to fit in 64 bits,
and not its length.

* `IsComponent`, `WritesTriple`, `WritesVersion`: the grammar, with the numbers that a text writes.
* `writesTriple_iff_splitOn`: the numbers are found between the points.
* `writesVersion_iff_numbersPart`: what stands behind a hyphen has no part in them.
* `numbers_eq_ok_iff`, `eq_of_numbers_eq_error`: the components, read in turn.
* `ofText_eq_ok_iff`: a version that is read has the numbers that its text writes.
* `exists_ofText_append_hyphen`: a version stays the same with any text behind a hyphen.
* `ofText_iff_writesVersion`: **the texts that are read as versions are those of the grammar.**
-/

namespace MonitorQuery.Server

open MonitorQuery.Decimal

/-! ### The grammar -/

/-- A component of a version: one or more digits, with a value that fits in 64 bits. -/
structure IsComponent (cs : List Char) : Prop extends IsDigits cs where
  value_le : ofDigits cs ≤ 2 ^ 64 - 1

/-- A text writes three numbers: one to three components with points between them, and zero for those left out. -/
inductive WritesTriple : List Char → Triple → Prop
  | major {a : List Char} (ha : IsComponent a) : WritesTriple a ⟨ofDigits a, 0, 0⟩
  | minor {a b : List Char} (ha : IsComponent a) (hb : IsComponent b) :
      WritesTriple (a ++ '.' :: b) ⟨ofDigits a, ofDigits b, 0⟩
  | patch {a b c : List Char} (ha : IsComponent a) (hb : IsComponent b) (hc : IsComponent c) :
      WritesTriple (a ++ '.' :: (b ++ '.' :: c)) ⟨ofDigits a, ofDigits b, ofDigits c⟩

/-- A text writes a version: three numbers, and behind them nothing, or a hyphen and any text. -/
inductive WritesVersion : List Char → Triple → Prop
  | release {cs : List Char} {t : Triple} (h : WritesTriple cs t) : WritesVersion cs t
  | qualified {cs : List Char} {t : Triple} (h : WritesTriple cs t) (q : List Char) : WritesVersion (cs ++ '-' :: q) t

variable {cs : List Char} {t : Triple}

lemma IsComponent.notMem {d : Char} (h : IsComponent cs) (hd : d.isDigit = false) : d ∉ cs := by
  intro hmem
  rw [h.isDigit d hmem] at hd
  cases hd

/-- Between the points of a text that writes three numbers there are components, and they are these numbers. -/
lemma writesTriple_iff_splitOn :
    WritesTriple cs t ↔ (cs.splitOn '.').length ≤ 3 ∧ (∀ part ∈ cs.splitOn '.', IsComponent part)
      ∧ Version.tripleOf ((cs.splitOn '.').map ofDigits) = t := by
  constructor
  · intro h
    obtain ⟨parts, hparts, hne, hlength, hcs, ht⟩ : ∃ parts : List (List Char), (∀ part ∈ parts, IsComponent part)
        ∧ parts ≠ [] ∧ parts.length ≤ 3 ∧ cs = ['.'].intercalate parts ∧ Version.tripleOf (parts.map ofDigits) = t := by
      cases h with
      | @major a ha => exact ⟨[cs], by simpa using ha, by simp, by simp, by simp, rfl⟩
      | @minor a b ha hb => exact ⟨[a, b], by simp [ha, hb], by simp, by simp, by simp, rfl⟩
      | @patch a b c ha hb hc => exact ⟨[a, b, c], by simp [ha, hb, hc], by simp, by simp, by simp, rfl⟩
    have hsplit : cs.splitOn '.' = parts := by
      rw [hcs, List.splitOn_intercalate '.' (fun part hpart => (hparts part hpart).notMem (by decide)) hne]
    rw [hsplit]
    exact ⟨hlength, hparts, ht⟩
  · rintro ⟨hlength, hparts, rfl⟩
    have hcs : ['.'].intercalate (cs.splitOn '.') = cs := List.intercalate_splitOn '.'
    have hne : cs.splitOn '.' ≠ [] := List.splitOn_ne_nil '.' cs
    generalize cs.splitOn '.' = parts at hlength hparts hcs hne
    subst hcs
    match parts with
    | [] => exact absurd rfl hne
    | [a] => simpa [Version.tripleOf] using WritesTriple.major (hparts a (by simp))
    | [a, b] => simpa [Version.tripleOf] using WritesTriple.minor (hparts a (by simp)) (hparts b (by simp))
    | [a, b, c] =>
        simpa [Version.tripleOf] using WritesTriple.patch (hparts a (by simp)) (hparts b (by simp)) (hparts c (by simp))
    | _ :: _ :: _ :: _ :: _ =>
        simp only [List.length_cons] at hlength
        omega

lemma WritesTriple.hyphen_notMem (h : WritesTriple cs t) : '-' ∉ cs := by
  cases h with
  | major ha => exact ha.notMem (by decide)
  | minor ha hb => simp [ha.notMem, hb.notMem]
  | patch ha hb hc => simp [ha.notMem, hb.notMem, hc.notMem]

/-- What stands behind the first hyphen has no part in the numbers. -/
lemma writesVersion_iff_numbersPart : WritesVersion cs t ↔ WritesTriple (Version.numbersPart cs) t := by
  have hkept : ∀ {ds : List Char}, '-' ∉ ds → ∀ c ∈ ds, (c != '-') = true := by
    intro ds hds c hc
    simpa using ne_of_mem_of_not_mem hc hds
  constructor
  · intro h
    cases h with
    | release h =>
        rwa [Version.numbersPart, List.takeWhile_eq_self_iff.mpr (hkept h.hyphen_notMem)]
    | qualified h q =>
        rwa [Version.numbersPart, Text.takeWhile_append_of_head (hkept h.hyphen_notMem) (by simp)]
  · intro h
    have hcs : Version.numbersPart cs ++ cs.dropWhile (· != '-') = cs := List.takeWhile_append_dropWhile
    rw [← hcs]
    cases hrest : cs.dropWhile (· != '-') with
    | nil => simpa using WritesVersion.release h
    | cons c q =>
        have hc : c = '-' := by
          have hhead := List.head?_dropWhile_not (· != '-') cs
          rw [hrest] at hhead
          simpa using hhead
        exact hc ▸ WritesVersion.qualified h q

lemma WritesVersion.writesTriple (h : WritesVersion cs t) (hhyphen : '-' ∉ cs) : WritesTriple cs t := by
  cases h with
  | release h => exact h
  | qualified h q => simp at hhyphen

/-! ### Reading -/

namespace Version

variable {text : String}

lemma contains_unsigned64_iff {n : ℕ} : Bounds.unsigned64.contains n = true ↔ n ≤ 2 ^ 64 - 1 := by
  simp [Bounds.contains, Bounds.unsigned64]

/-- **Numbers are read from components**, and as their values. -/
lemma numbers_eq_ok_iff {parts : List (List Char)} {ns : List ℕ} :
    numbers text parts = .ok ns ↔ (∀ part ∈ parts, IsComponent part) ∧ parts.map ofDigits = ns := by
  induction parts generalizing ns with
  | nil => simp [numbers]
  | cons part parts ih =>
      rw [numbers, List.forall_mem_cons, List.map_cons]
      cases hpart : natural? part with
      | none =>
          refine iff_of_false (by simp) fun h => ?_
          rw [natural?_eq_some_iff.mpr ⟨h.1.1.toIsDigits, rfl⟩] at hpart
          cases hpart
      | some n =>
          obtain ⟨hdigits, rfl⟩ := natural?_eq_some_iff.mp hpart
          by_cases hbound : ofDigits part ≤ 2 ^ 64 - 1
          · have hcomponent : IsComponent part := ⟨hdigits, hbound⟩
            simp only [if_pos (contains_unsigned64_iff.mpr hbound), bind_eq_ok, ih, Except.ok.injEq]
            constructor
            · rintro ⟨ms, ⟨hparts, rfl⟩, rfl⟩
              exact ⟨⟨hcomponent, hparts⟩, rfl⟩
            · rintro ⟨⟨-, hparts⟩, rfl⟩
              exact ⟨_, ⟨hparts, rfl⟩, rfl⟩
          · simp only [if_neg (mt contains_unsigned64_iff.mp hbound), reduceCtorEq, false_iff]
            exact fun h => hbound h.1.1.value_le

/-- Numbers that are not read are reported with the text of the version. -/
lemma eq_of_numbers_eq_error {parts : List (List Char)} {e : VersionError} (h : numbers text parts = .error e) :
    e = .malformed text ∨ e = .tooLarge text := by
  induction parts with
  | nil => cases h
  | cons part parts ih =>
      rw [numbers] at h
      cases hpart : natural? part with
      | none =>
          rw [hpart] at h
          exact .inl (Except.error.inj h).symm
      | some n =>
          simp only [hpart] at h
          split_ifs at h with hbound
          · obtain hrest | ⟨ns, -, h⟩ := bind_eq_error.mp h
            · exact ih hrest
            · cases h
          · exact .inr (Except.error.inj h).symm

/-- **A version that is read has the numbers that its text writes**, and the text without the blanks around it. -/
theorem ofText_eq_ok_iff {v : Version} :
    ofText text = .ok v ↔ WritesVersion (Text.trimChars text.toList) v.triple ∧ v.text = Text.trim text
      ∧ v.qualifier = Qualifier.keep? (qualifierPart (Text.trimChars text.toList)) := by
  rw [writesVersion_iff_numbersPart, writesTriple_iff_splitOn, ofText]
  by_cases hlength : 3 < ((numbersPart (Text.trimChars text.toList)).splitOn '.').length
  · simp only [if_pos hlength, reduceCtorEq, false_iff]
    exact fun h => absurd h.1.1 (Nat.not_le_of_lt hlength)
  · obtain ⟨vtext, triple, qualifier⟩ := v
    simp only [if_neg hlength, bind_eq_ok, numbers_eq_ok_iff, Except.ok.injEq, Version.mk.injEq]
    constructor
    · rintro ⟨ns, ⟨hparts, rfl⟩, rfl, rfl, rfl⟩
      exact ⟨⟨Nat.le_of_not_lt hlength, hparts, rfl⟩, rfl, rfl⟩
    · rintro ⟨⟨-, hparts, rfl⟩, rfl, rfl⟩
      exact ⟨_, ⟨hparts, rfl⟩, rfl, rfl, rfl⟩

/-- **What the grammar has is read.** -/
lemma exists_ofText_iff : (∃ v, ofText text = .ok v ∧ v.triple = t) ↔ WritesVersion (Text.trimChars text.toList) t := by
  constructor
  · rintro ⟨v, hv, rfl⟩
    exact (ofText_eq_ok_iff.mp hv).1
  · intro h
    exact ⟨⟨_, t, _⟩, ofText_eq_ok_iff.mpr ⟨h, rfl, rfl⟩, rfl⟩

lemma eq_of_ofText_eq_error {e : VersionError} (h : ofText text = .error e) : e = .malformed text ∨ e = .tooLarge text := by
  rw [ofText] at h
  split_ifs at h
  · exact .inl (Except.error.inj h).symm
  · obtain hnumbers | ⟨ns, -, h⟩ := bind_eq_error.mp h
    · exact eq_of_numbers_eq_error hnumbers
    · cases h

/-- **A version with any text behind a hyphen is read**, and has the same numbers. -/
lemma exists_ofText_append_hyphen {v : Version} (h : ofText text = .ok v) (hhyphen : '-' ∉ text.toList)
    (htrimmed : Text.IsTrimmed text.toList) (q : String) : ∃ w, ofText (text ++ "-" ++ q) = .ok w ∧ w.triple = v.triple := by
  have hversion := (ofText_eq_ok_iff.mp h).1
  rw [Text.trimChars_eq_self_iff.mpr htrimmed] at hversion
  have hwrites := hversion.writesTriple hhyphen
  have htrim : Text.trimChars (text ++ "-" ++ q).toList = text.toList ++ '-' :: Text.trimEnd q.toList := by
    rw [← htrimmed.trimChars_append_cons (by decide)]
    simp
  rw [exists_ofText_iff, htrim]
  exact .qualified hwrites _

end Version

/-! ### What is known of a server -/

lemma Metadata.ofText_eq_ok_iff {text : String} {m : Metadata} :
    ofText text = .ok m ↔ ∃ v, Version.ofText text = .ok v ∧ ofVersion v = m := by
  rw [ofText]
  cases Version.ofText text <;> simp [Except.map]

/-- The product line is told by the numbers. -/
lemma ProductLine.detect_congr {v w : Version} (h : w.triple = v.triple) : detect w = detect v := by
  rw [detect, detect, h]

/-- What a server can do is told by the numbers. -/
lemma Metadata.horizonTriple_ofVersion_congr {v w : Version} (h : w.triple = v.triple) :
    (ofVersion w).horizonTriple = (ofVersion v).horizonTriple := by
  rw [horizonTriple, horizonTriple, ofVersion, ofVersion, ProductLine.detect_congr h, h]

/-- The order of versions is that of their numbers, the first of them first. -/
lemma Triple.atLeast_iff_le (t : Triple) (a b c : ℕ) :
    t.atLeast a b c = true ↔ toLex (a, toLex (b, c)) ≤ toLex (t.major, toLex (t.minor, t.patch)) := by
  rw [atLeast_iff, Prod.Lex.toLex_le_toLex, Prod.Lex.toLex_le_toLex]

/-- **The texts that are read as versions are those of the grammar.** Without the blanks around it a text is read as a version with
three given numbers exactly if it is one to three components with points between them that write these numbers, with or without a
hyphen and any text behind it. The version shows as the text without the blanks around it, and it is at least another exactly if
the numbers of the other come no later, compared one after the other. Every other text is reported as an invalid version, as it was
given. A text that is a version, with neither a hyphen in it nor blanks around it, may have a hyphen and any text put behind it: it
stays a version with the same numbers, and the server behind it has the same product line, interface and capabilities. -/
theorem ofText_iff_writesVersion (text : String) :
    (∀ t, (∃ v, Version.ofText text = .ok v ∧ v.triple = t) ↔ WritesVersion (Text.trim text).toList t)
      ∧ (∀ v, Version.ofText text = .ok v → v.text = Text.trim text
          ∧ ∀ a b c, v.triple.atLeast a b c = true
              ↔ toLex (a, toLex (b, c)) ≤ toLex (v.triple.major, toLex (v.triple.minor, v.triple.patch)))
      ∧ ((¬ ∃ t, WritesVersion (Text.trim text).toList t) → ∃ e, Version.ofText text = .error e
          ∧ (e.message = "Invalid server version: " ++ text
            ∨ e.message = "Invalid server version: " ++ text ++ ": number too large to fit in target type"))
      ∧ ∀ m, Metadata.ofText text = .ok m → '-' ∉ text.toList → Text.IsTrimmed text.toList → ∀ q,
          ∃ m', Metadata.ofText (text ++ "-" ++ q) = .ok m' ∧ m'.version.triple = m.version.triple
            ∧ (∀ a b c, m'.version.triple.atLeast a b c = m.version.triple.atLeast a b c)
            ∧ m'.line = m.line ∧ m'.api = m.api ∧ ∀ c, m'.has c = m.has c := by
  have hread : ∀ t, (∃ v, Version.ofText text = .ok v ∧ v.triple = t) ↔ WritesVersion (Text.trim text).toList t := by
    intro t
    rw [Text.toList_trim]
    exact Version.exists_ofText_iff
  refine ⟨hread, fun v hv => ⟨(Version.ofText_eq_ok_iff.mp hv).2.1, v.triple.atLeast_iff_le⟩, fun hnone => ?_, ?_⟩
  · cases h : Version.ofText text with
    | ok v => exact absurd ⟨v.triple, (hread _).mp ⟨v, h, rfl⟩⟩ hnone
    | error e =>
        obtain rfl | rfl := Version.eq_of_ofText_eq_error h
        · exact ⟨_, rfl, .inl rfl⟩
        · exact ⟨_, rfl, .inr rfl⟩
  · intro m hm hhyphen htrimmed q
    obtain ⟨v, hv, rfl⟩ := Metadata.ofText_eq_ok_iff.mp hm
    obtain ⟨w, hw, htriple⟩ := Version.exists_ofText_append_hyphen hv hhyphen htrimmed q
    have hhorizon := Metadata.horizonTriple_ofVersion_congr htriple
    refine ⟨.ofVersion w, Metadata.ofText_eq_ok_iff.mpr ⟨w, hw, rfl⟩, htriple, ?_, ProductLine.detect_congr htriple, ?_, ?_⟩
    · intro a b c
      exact congrArg (·.atLeast a b c) htriple
    · rw [Metadata.api, Metadata.api, hhorizon]
    · intro c
      rw [Metadata.has, Metadata.has, hhorizon]

/-- Zeros in front do not count for the bound, one more than the largest value does; and a qualifier that is no word. -/
theorem ofText_iff_writesVersion_bound :
    WritesVersion "00000000000000000000021.18446744073709551615".toList ⟨21, 18446744073709551615, 0⟩
      ∧ (¬ ∃ t, WritesVersion "21.18446744073709551616".toList t)
      ∧ ∃ m, Metadata.ofText ("2019.01" ++ "-" ++ " r;c-1 \n") = .ok m ∧ m.version.triple = ⟨2019, 1, 0⟩ ∧ m.api = .v2 := by
  refine ⟨((ofText_iff_writesVersion "\t00000000000000000000021.18446744073709551615 ").1 _).mp ⟨_, rfl, rfl⟩, ?_, ?_⟩
  · rintro ⟨t, h⟩
    obtain ⟨v, hv, -⟩ := ((ofText_iff_writesVersion "21.18446744073709551616").1 t).mpr h
    cases hv
  · obtain ⟨m, hm, htriple, -, -, hapi, -⟩ := (ofText_iff_writesVersion "2019.01").2.2.2 _ rfl (by decide) (by decide) " r;c-1 \n"
    exact ⟨m, hm, htriple, hapi⟩

end MonitorQuery.Server
