import MonitorQuery.Proofs.Cli.Results
import MonitorQuery.Proofs.Flat.Layout
import MonitorQuery.Proofs.Text.Component

/-!
Parameters as lines.

Every parameter is printed as a line of its own. Control characters in its value are made visible, those in its key are not. The
keys of the second interface are fixed words, but those of the first are attributes, and an attribute may be any text. So a
request has a line for every parameter, without control characters, just if no attribute that became a key has one.

* `Text.IsVisible`: a text has no control character; `isVisible_revealControls`: **a text that is made visible has none.**
* `linesOf`: a text, cut at its line feeds; `linesOf_linesText` undoes `linesText`.
* `ShowsPairs`: a line for every pair, with no control character; `showsPairs_iff`: **it is a matter of the keys.**
* `showsPairs_output_iff`: **when what is printed has a line for every parameter**, for any command line that compiles.
-/

namespace MonitorQuery

/-! ### Control characters -/

namespace Text

open Percent

/-- A text without control characters. -/
def IsVisible (s : String) : Prop := ∀ c ∈ s.toList, isControl c = false

instance (s : String) : Decidable (IsVisible s) :=
  decidable_of_iff (s.toList.all fun c => !isControl c) (by simp [IsVisible])

lemma isVisible_append {s t : String} : IsVisible (s ++ t) ↔ IsVisible s ∧ IsVisible t := by
  simp only [IsVisible, String.toList_append, List.mem_append, or_imp, forall_and]

/-- A line feed is a control character. -/
lemma IsVisible.lineFeed_notMem {s : String} (h : IsVisible s) : '\n' ∉ s.toList := by
  intro hmem
  have hcontrol := h '\n' hmem
  revert hcontrol
  decide

/-- What a component keeps is no control character. -/
lemma Percent.isControl_of_isKept {c : Char} (h : isKept c = true) : isControl c = false := by
  have hrange := toNat_of_isKept h
  simp only [isControl, Bool.or_eq_false_iff, Bool.and_eq_false_iff, decide_eq_false_iff_not]
  omega

/-- **A text that is made visible has no control character.** -/
lemma isVisible_revealControls (s : String) : IsVisible (revealControls s) := by
  intro c hc
  rw [revealControls, String.toList_ofList, List.mem_flatMap] at hc
  obtain ⟨d, -, hc⟩ := hc
  split at hc
  · obtain ⟨b, -, hc⟩ := List.mem_flatMap.mp hc
    obtain hkept | rfl := mem_encodeByte hc
    · exact isControl_of_isKept hkept
    · decide
  · next hd =>
      rw [List.mem_singleton.mp hc]
      exact Bool.eq_false_of_not_eq_true hd

end Text

/-! ### The keys of a request -/

namespace Request

open MonitorQuery.Query MonitorQuery.Server

namespace Params

variable {p : Params}

/-- The keys of the pairs are the keys. -/
lemma exists_mem_pairs_iff {key : String} : (∃ pair ∈ p.pairs, pair.1 = key) ↔ key ∈ p.keys := by
  simp only [pairs, keys, List.mem_flatMap, List.mem_map]
  constructor
  · rintro ⟨_, ⟨e, he, text, -, rfl⟩, rfl⟩
    exact ⟨e, he, rfl⟩
  · rintro ⟨e, he, rfl⟩
    exact ⟨(e.1, e.2.first), ⟨e, he, e.2.first, List.mem_cons_self, rfl⟩, rfl⟩

end Params

/-- The keys that are words of the interfaces. -/
def ownKeys : List String := [Flat.limitKey, Flat.comparatorKey, Fiql.searchKey, orderKey, orderByKey]

variable {f : Filter} {p : Params}

/-- The keys of a flat request: the attributes, and words of the interface. -/
lemma Flat.mem_keys_of_compile (h : Flat.compile f = .ok p) {key : String} (hkey : key ∈ p.keys) :
    key ∈ ownKeys ∨ ∃ r ∈ Flat.restrictionsOf f.clauses, r.attr = key := by
  rw [(Flat.of_compile h).2, Params.keys_foldl_perform_empty, List.mem_eraseDups, Flat.filterCalls, List.map_append,
    List.map_append, List.mem_append, List.mem_append] at hkey
  rcases hkey with (hkey | hkey) | hkey
  · rw [Flat.mem_map_key_limitCalls hkey]
    exact .inl (by decide)
  · obtain rfl | hr := Flat.mem_map_key_restrictionCalls hkey
    · exact .inl (by decide)
    · exact .inr hr
  · obtain rfl | rfl := Flat.mem_map_key_sortCalls hkey
    · exact .inl (by decide)
    · exact .inl (by decide)

/-- Every attribute is a key of a flat request. -/
lemma Flat.attr_mem_keys_of_compile (h : Flat.compile f = .ok p) {r : Restriction} (hr : r ∈ Flat.restrictionsOf f.clauses) :
    r.attr ∈ p.keys := by
  rw [(Flat.of_compile h).2, Params.keys_foldl_perform_empty, List.mem_eraseDups, Flat.filterCalls, List.map_append,
    List.map_append, Flat.map_key_restrictionCalls]
  have hattr : r.attr ∈ (Flat.leading (Flat.restrictionsOf f.clauses)).map (·.attr)
      ∨ r.attr ∈ (Flat.remaining (Flat.restrictionsOf f.clauses)).map (·.attr) := by
    rw [← List.mem_append, ← List.map_append, Flat.leading_append_remaining]
    exact List.mem_map_of_mem hr
  simp only [List.mem_append]
  tauto

/-- The keys of a request with a search are words of the interface. -/
lemma Fiql.mem_keys_of_compile {properties : List Property} (h : Fiql.compile properties f = .ok p) {key : String}
    (hkey : key ∈ p.keys) : key ∈ ownKeys := by
  obtain ⟨search, -, hsort⟩ := bind_eq_ok.mp h
  have hstart : ∀ n : String, (Params.empty.set limitKey n).keys = [limitKey]
      ∧ ((Params.empty.set limitKey n).set searchKey search).keys = [limitKey, searchKey] := fun n => ⟨rfl, rfl⟩
  obtain ⟨hlimit, hsearch⟩ := hstart (Decimal.renderNat (f.limit.getD 0))
  rw [of_addSortKeys hsort, Params.keys_foldl_perform, List.mem_eraseDups, List.mem_append] at hkey
  · obtain hkey | hkey := hkey
    · have hwords : ∀ key ∈ [limitKey, searchKey], key ∈ ownKeys := by decide
      split at hkey
      · rw [hlimit, List.mem_singleton] at hkey
        exact hwords key (hkey ▸ List.mem_cons_self)
      · exact hwords key (hsearch ▸ hkey)
    · obtain rfl | rfl := Flat.mem_map_key_sortCalls hkey
      · decide
      · decide
  · split
    · exact hlimit ▸ List.nodup_singleton _
    · rw [hsearch]
      decide

/-- **The keys of a request that are no words of the interface** are the attributes, and only the first interface has such keys. -/
lemma forall_keys_iff {api : Api} {properties : List Property} (h : compile api properties f = .ok p) {P : String → Prop}
    (hown : ∀ key ∈ ownKeys, P key) :
    (∀ key ∈ p.keys, P key) ↔ (api = .v1 → ∀ r ∈ Flat.restrictionsOf f.clauses, P r.attr) := by
  cases api with
  | v1 =>
      constructor
      · intro hkeys _ r hr
        exact hkeys _ (Flat.attr_mem_keys_of_compile h hr)
      · intro hattrs key hkey
        obtain hkey | ⟨r, hr, rfl⟩ := Flat.mem_keys_of_compile h hkey
        · exact hown key hkey
        · exact hattrs rfl r hr
  | v2 =>
      refine iff_of_true (fun key hkey => hown key (Fiql.mem_keys_of_compile h hkey)) ?_
      intro hapi
      cases hapi

end Request

/-! ### Lines -/

namespace Cli

open MonitorQuery.Server MonitorQuery.Query MonitorQuery.Text

/-- The lines of a text, cut at its line feeds. What stands behind the last line feed is a line too. -/
def linesOf (text : String) : List String := (text.toList.splitOn '\n').map String.ofList

lemma linesText_cons (line : String) (lines : List String) : linesText (line :: lines) = line ++ "\n" ++ linesText lines := by
  rw [linesText, List.map_cons, String.join_cons]
  rfl

/-- **Lines that are written are read**, if none has a line feed in it. -/
lemma linesOf_linesText {lines : List String} (h : ∀ line ∈ lines, '\n' ∉ line.toList) :
    linesOf (linesText lines) = lines ++ [""] := by
  induction lines with
  | nil => rfl
  | cons line lines ih =>
      obtain ⟨hline, hlines⟩ := List.forall_mem_cons.mp h
      have hsplit : (line.toList ++ '\n' :: (linesText lines).toList).splitOn '\n'
          = line.toList :: (linesText lines).toList.splitOn '\n' := by
        have hnone : ∀ c ∈ line.toList, (c == '\n') = false := by
          intro c hc
          simpa using ne_of_mem_of_not_mem hc hline
        rw [List.splitOn_eq_splitOnP, List.splitOnP_append_cons (p := fun c => c == '\n') _ _ (beq_self_eq_true '\n'),
          List.splitOnP_eq_singleton hnone]
        rfl
      have htext : (linesText (line :: lines)).toList = line.toList ++ '\n' :: (linesText lines).toList := by
        rw [linesText_cons, String.toList_append, String.toList_append, List.append_assoc]
        rfl
      rw [linesOf, htext, hsplit, List.map_cons, String.ofList_toList]
      exact congrArg _ (ih hlines)

/-- A text is a line for every pair, its key and its value, and no line has a control character. -/
structure ShowsPairs (text : String) (pairs : List (String × String)) : Prop where
  lines : linesOf text = pairs.map Command.paramLine ++ [""]
  visible : ∀ line ∈ linesOf text, IsVisible line

lemma isVisible_paramLine (pair : String × String) : IsVisible (Command.paramLine pair) ↔ IsVisible pair.1 := by
  have heq : IsVisible "=" := by decide
  rw [Command.paramLine, isVisible_append, isVisible_append]
  exact ⟨fun h => h.1.1, fun h => ⟨⟨h, heq⟩, isVisible_revealControls _⟩⟩

/-- **Pairs that are printed are shown just if no key has a control character.** -/
lemma showsPairs_iff {pairs : List (String × String)} :
    ShowsPairs (linesText (pairs.map Command.paramLine)) pairs ↔ ∀ pair ∈ pairs, IsVisible pair.1 := by
  constructor
  · intro h pair hpair
    refine (isVisible_paramLine pair).mp (h.visible _ ?_)
    rw [h.lines]
    exact List.mem_append_left _ (List.mem_map_of_mem hpair)
  · intro h
    have hvisible : ∀ line ∈ pairs.map Command.paramLine, IsVisible line := by
      intro line hline
      obtain ⟨pair, hpair, rfl⟩ := List.mem_map.mp hline
      exact (isVisible_paramLine pair).mpr (h pair hpair)
    have hlines := linesOf_linesText fun line hline => (hvisible line hline).lineFeed_notMem
    refine ⟨hlines, fun line hline => ?_⟩
    rw [hlines, List.mem_append, List.mem_singleton] at hline
    obtain hline | rfl := hline
    · exact hvisible line hline
    · intro c hc
      cases hc

/-! ### Runs -/

variable {log : LogChoice} {d : Disk} {args : List String} {o : CompileOptions}

/-- **What a run prints that compiles a filter and succeeds.** -/
lemma run_of_compile (hargs : Invocation.ofArguments args = .ok (.compile o)) (hformat : o.format = "query")
    (hexit : (run log d args).exit = 0) :
    ∃ p, (Command.requested d o).value = .ok p ∧ (run log d args).output = linesText (p.pairs.map Command.paramLine) := by
  have hshows := (shows_run log d hargs).1
  rw [Command.compiled] at hshows
  cases hrequested : (Command.requested d o).value with
  | error failure =>
      rw [hrequested] at hshows
      cases hexit.symm.trans hshows.1
  | ok p =>
      rw [hrequested, ok_bind, Command.formatted, if_neg (by rw [hformat]; decide), if_pos hformat] at hshows
      exact ⟨p, rfl, hshows.2⟩

/-- **When every parameter has a line of its own.** A run that compiles a filter and succeeds prints the parameters, and what it
prints is a line for every parameter, with no control character in it, always for the second interface; for the first just if no
attribute of the filter has a control character. -/
theorem showsPairs_output_iff (hargs : Invocation.ofArguments args = .ok (.compile o)) (hformat : o.format = "query")
    (hexit : (run log d args).exit = 0) :
    ∃ s api f ps p, (Command.settings d).value = .ok s
      ∧ (Command.api d s o.api).value = .ok api
      ∧ (Command.filter s o).value = .ok f
      ∧ (Command.givenProperties d o.properties).value = .ok ps
      ∧ Request.compile api ps f = .ok p
      ∧ (run log d args).output = linesText (p.pairs.map Command.paramLine)
      ∧ (ShowsPairs (run log d args).output p.pairs
          ↔ (api = .v1 → ∀ r ∈ Request.Flat.restrictionsOf f.clauses, IsVisible r.attr)) := by
  obtain ⟨p, hrequested, houtput⟩ := run_of_compile hargs hformat hexit
  rw [Command.value_requested] at hrequested
  obtain ⟨s, hs, hrequested⟩ := bind_eq_ok.mp hrequested
  obtain ⟨api, hapi, hrequested⟩ := bind_eq_ok.mp hrequested
  obtain ⟨f, hf, hrequested⟩ := bind_eq_ok.mp hrequested
  obtain ⟨ps, hps, hrequested⟩ := bind_eq_ok.mp hrequested
  have hcompile := mapError_eq_ok.mp hrequested
  refine ⟨s, api, f, ps, p, hs, hapi, hf, hps, hcompile, houtput, ?_⟩
  have hkeys : (∀ pair ∈ p.pairs, IsVisible pair.1) ↔ ∀ key ∈ p.keys, IsVisible key := by
    constructor
    · intro h key hkey
      obtain ⟨pair, hpair, rfl⟩ := Request.Params.exists_mem_pairs_iff.mpr hkey
      exact h pair hpair
    · intro h pair hpair
      exact h _ (Request.Params.exists_mem_pairs_iff.mp ⟨pair, hpair, rfl⟩)
  rw [houtput, showsPairs_iff, hkeys]
  exact Request.forall_keys_iff hcompile (by decide)

/-- For the second interface an attribute with a line feed stands in a value, and the parameters keep their lines. -/
theorem showsPairs_output_iff_search :
    (run {} { root := "/srv" } ["compile", "--api", "2", "a\nb", "eq", "1"]).output = "limit=1000\n_s=a%0Ab==1\n"
      ∧ ∃ p : Request.Params, p.pairs.length = 2
        ∧ ShowsPairs (run {} { root := "/srv" } ["compile", "--api", "2", "a\nb", "eq", "1"]).output p.pairs := by
  have hargs : Invocation.ofArguments ["compile", "--api", "2", "a\nb", "eq", "1"]
      = .ok (.compile ⟨some "2", none, false, [], "asc", none, "query", ["a\nb", "eq", "1"]⟩) := by decide +kernel
  have hexit : (run {} { root := "/srv" } ["compile", "--api", "2", "a\nb", "eq", "1"]).exit = 0 := by decide +kernel
  have houtput : (run {} { root := "/srv" } ["compile", "--api", "2", "a\nb", "eq", "1"]).output
      = "limit=1000\n_s=a%0Ab==1\n" := by decide +kernel
  obtain ⟨s, api, f, ps, p, -, hapi, -, -, -, -, hiff⟩ := showsPairs_output_iff hargs rfl hexit
  have hshown : ShowsPairs _ p.pairs := hiff.mpr fun hone => by
    rw [hone] at hapi
    cases hapi
  refine ⟨houtput, p, ?_, hshown⟩
  have hlines := congrArg List.length hshown.lines
  rw [houtput, List.length_append, List.length_map] at hlines
  have hthree : (linesOf "limit=1000\n_s=a%0Ab==1\n").length = 3 := by decide +kernel
  rw [hthree, List.length_singleton] at hlines
  omega

/-- **A parameter can have two lines.** An attribute with a line feed is a key of the first interface, and is printed as it is. -/
theorem not_showsPairs_output :
    ¬ ∀ (log : LogChoice) (d : Disk) (args : List String) (o : CompileOptions) (p : Request.Params),
      Invocation.ofArguments args = .ok (.compile o) → o.format = "query" → (run log d args).exit = 0 →
        (Command.requested d o).value = .ok p → ShowsPairs (run log d args).output p.pairs := by
  intro h
  have hshown := h {} { root := "/srv" } ["compile", "--api", "1", "a\nb", "eq", "1"]
    ⟨some "1", none, false, [], "asc", none, "query", ["a\nb", "eq", "1"]⟩
    ⟨[("limit", ⟨"1000", []⟩), ("comparator", ⟨"eq", []⟩), ("a\nb", ⟨"1", []⟩)]⟩
    (by decide +kernel) rfl (by decide +kernel) (by decide +kernel)
  have hlines := hshown.lines
  revert hlines
  decide +kernel

end Cli

end MonitorQuery
