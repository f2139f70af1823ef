import MonitorQuery.Proofs.Server.Grammar

/-!
What the servers of a product line can do, from version to version.

Every capability is a least Horizon release, and a release is known from its first number. So what a server can do is told by one
number: the release of a Horizon server, and the release behind the year of a Meridian server. That number grows with the version.

* `Metadata.release`: that number. `release_mono` says that it **grows with the version**, within one line.
* `has_iff`, `api_eq_v2_iff`: capabilities and interface are thresholds on it, and so a later capability brings the earlier ones
  (`has_of_since_le`).
* `capabilities_grow`: **no capability is lost from a version to a later one of the same line.**
-/

namespace MonitorQuery.Server

/-- The numbers of a version in the order in which versions are compared. -/
def Triple.key (t : Triple) : ℕ ×ₗ ℕ ×ₗ ℕ := toLex (t.major, toLex (t.minor, t.patch))

variable {t u : Triple}

lemma Triple.atLeast_iff_key_le {a b c : ℕ} : t.atLeast a b c = true ↔ (Triple.mk a b c).key ≤ t.key := t.atLeast_iff_le a b c

/-- A first release of a number comes before all versions of that number and of later ones, and before no others. -/
lemma Triple.key_release_le_iff {n : ℕ} : (Triple.mk n 0 0).key ≤ t.key ↔ n ≤ t.major := by
  rw [key, key, Prod.Lex.toLex_le_toLex, Prod.Lex.toLex_le_toLex]
  dsimp only
  omega

lemma Triple.major_le_of_key_le (h : t.key ≤ u.key) : t.major ≤ u.major := by
  rw [key, key, Prod.Lex.toLex_le_toLex] at h
  dsimp only at h
  omega

namespace Metadata

variable {v w : Version} {line : ProductLine} {m : Metadata}

/-- The number of the Horizon release that can do what the server can. -/
def release (m : Metadata) : ℕ := m.horizonTriple.major

/-- The releases behind later years are later ones. -/
lemma horizonRelease_mono : Monotone horizonRelease := by
  intro year year' h
  rw [horizonRelease, horizonRelease]
  split_ifs <;> omega

/-- **Within a line, a later version has a later release behind it.** -/
lemma release_mono (line : ProductLine) (h : v.triple.major ≤ w.triple.major) : release ⟨v, line⟩ ≤ release ⟨w, line⟩ := by
  cases line with
  | horizon => exact h
  | meridian => exact horizonRelease_mono h

/-- A server can do what the release behind it can. -/
lemma has_iff {c : Capability} : m.has c = true ↔ c.since ≤ m.release := by
  rw [has, Triple.atLeast_iff_key_le, Triple.key_release_le_iff, release]

lemma api_eq_v2_iff : m.api = .v2 ↔ searchSince ≤ m.release := by
  rw [api, release, ← Triple.key_release_le_iff, ← Triple.atLeast_iff_key_le]
  split_ifs with h <;> simp [h]

/-- **A capability brings those that came no later.** -/
lemma has_of_since_le {c d : Capability} (hsince : c.since ≤ d.since) (h : m.has d = true) : m.has c = true :=
  has_iff.mpr (hsince.trans (has_iff.mp h))

/-- **No capability is lost with a later version** of the same line, however the line numbers its versions: what the earlier one
can do the later one can, and if the earlier one has the second interface so has the later one. The capabilities come one after
the other, the last of them with the second interface. For Meridian only the year counts. -/
theorem capabilities_grow :
    (∀ line v w, v.triple.key ≤ w.triple.key →
        (∀ c, (Metadata.mk v line).has c = true → (Metadata.mk w line).has c = true)
          ∧ ((Metadata.mk v line).api = .v2 → (Metadata.mk w line).api = .v2))
      ∧ (∀ m : Metadata, (m.has .ackFlow = true → m.has .setNodeLocation = true)
          ∧ (m.has .setNodeLocation = true → m.has .useJson = true)
          ∧ (m.has .useJson = true → m.has .tickets = true)
          ∧ (m.has .tickets = true → m.has .graphs = true)
          ∧ (m.has .graphs = true → m.has .outageSummaries = true)
          ∧ (m.api = .v2 ↔ m.has .ackFlow = true))
      ∧ ∀ v w, v.triple.major = w.triple.major →
          (∀ c, (Metadata.mk v .meridian).has c = (Metadata.mk w .meridian).has c)
            ∧ (Metadata.mk v .meridian).api = (Metadata.mk w .meridian).api := by
  refine ⟨fun line v w h => ?_, fun m => ?_, fun v w h => ?_⟩
  · have hrelease := release_mono line (Triple.major_le_of_key_le h)
    exact ⟨fun c hc => has_iff.mpr ((has_iff.mp hc).trans hrelease),
      fun hapi => api_eq_v2_iff.mpr ((api_eq_v2_iff.mp hapi).trans hrelease)⟩
  · refine ⟨has_of_since_le (by decide), has_of_since_le (by decide), has_of_since_le (by decide),
      has_of_since_le (by decide), has_of_since_le (by decide), ?_⟩
    rw [api_eq_v2_iff, has_iff]
    rfl
  · have htriple : (Metadata.mk v .meridian).horizonTriple = (Metadata.mk w .meridian).horizonTriple := by
      rw [horizonTriple, horizonTriple, h]
    constructor
    · intro c
      rw [has, has, htriple]
    · rw [api, api, htriple]

/-- A year that is taken for a Horizon release has everything, and keeps it; a Meridian year gains with the next one. -/
theorem capabilities_grow_years :
    (Triple.mk 1999 3 0).key ≤ (Triple.mk 2000 0 0).key
      ∧ (Metadata.mk ⟨"1999.3", ⟨1999, 3, 0⟩, none⟩ .horizon).api = .v2
      ∧ (Metadata.mk ⟨"2000", ⟨2000, 0, 0⟩, none⟩ .horizon).api = .v2
      ∧ (Metadata.mk ⟨"2016.9", ⟨2016, 9, 0⟩, none⟩ .meridian).has .tickets = true
      ∧ (Metadata.mk ⟨"2017", ⟨2017, 0, 0⟩, none⟩ .meridian).has .tickets = true := by
  have hyears : (Triple.mk 1999 3 0).key ≤ (Triple.mk 2000 0 0).key := by decide
  exact ⟨hyears, rfl, (capabilities_grow.1 .horizon ⟨"1999.3", ⟨1999, 3, 0⟩, none⟩ ⟨"2000", ⟨2000, 0, 0⟩, none⟩ hyears).2 rfl, rfl,
    (capabilities_grow.1 .meridian ⟨"2016.9", ⟨2016, 9, 0⟩, none⟩ ⟨"2017", ⟨2017, 0, 0⟩, none⟩ (by decide)).1 .tickets rfl⟩

end Metadata

end MonitorQuery.Server
