import MonitorQuery.Proofs.Json.Writing
import MonitorQuery.Proofs.Request.History

/-!
A request as a JSON text, read back.

Nothing in the text says whether a key has one value or several but its form: a string, or an array. That is enough where a list has
two texts or more and no key comes twice, as calls see to it.

* `textsToJson`, `toJson_eq`: what is written for the texts at a key, and for a request; `toJson_eq_stored`: the same from the form in
  which it is kept.
* `objectOf_proper`: a request can be read as JSON.
* `ReadsAs`, `readsAs_toChars`: **the text is that of one object**, by whatever the grammar allows.
* `toJson_lossless`: **requests with one text are the same**, and each is read back.
-/

namespace MonitorQuery

/-! ### Texts of one value -/

namespace Json

/-- The text is one of this value: it is read as that, and the grammar gives it no other. -/
structure ReadsAs (text : String) (v : Value) : Prop where
  read : Value.ofText text = .ok v
  writes : ∃ d : Document, Writes text.toList d.tokens
  only : ∀ d : Document, Writes text.toList d.tokens → d.value? = some v

/-- **What is written for a value is a text of it alone**, unless it is too deep. -/
lemma readsAs_toChars {v : Value} (hv : v.IsProper) (hdepth : v.depth ≤ Progress.greatestDepth) {layout : Layout}
    (hwhite : layout.IsWhite) : ReadsAs (String.ofList (v.toChars layout 0)) v := by
  have hleading := leading_toChars hv hdepth hwhite 0
  refine ⟨?_, ?_, fun d hwrites => ?_⟩
  · rw [Value.ofText, hleading]
    rfl
  · obtain ⟨d, -, hwrites⟩ := v.exists_document hv
    refine ⟨d, ?_⟩
    rw [String.toList_ofList]
    exact (hwrites layout hwhite 0).writes
  · rw [Document.leading_of_writes hwrites] at hleading
    cases hwithin : within d.depth Progress.greatestDepth d.value? with
    | none =>
        rw [hwithin] at hleading
        cases hleading
    | some w =>
        rw [hwithin] at hleading
        cases hleading
        rw [within] at hwithin
        split at hwithin
        · exact hwithin
        · cases hwithin

lemma ReadsAs.unique {text : String} {v w : Value} (hv : ReadsAs text v) (hw : ReadsAs text w) : v = w :=
  Except.ok.inj (hv.read.symm.trans hw.read)

end Json

namespace Request.Params

variable {p q : Params}

/-! ### What is written -/

/-- What is written for the texts at a key: one by itself, or the array of several. -/
def textsToJson : List String → Json.Value
  | [text] => .string text
  | texts => .array (texts.map .string)

/-- What is written for what is kept at a key. -/
def Stored.toJson : Stored → Json.Value
  | single text => .string text
  | multi texts => .array (texts.map .string)

/-- What is written for what is kept. -/
def Store.toJson (m : Store) : Json.Value := .object (m.map fun (key, s) => (key, s.toJson))

/-- The object of a request. -/
def objectOf (p : Params) : Json.Value := .object (p.keys.map fun key => (key, textsToJson (p.getAll key)))

lemma toJson_eq_stored (p : Params) : p.toJson = p.stored.toJson := by
  have hvalues : ∀ v : Values, v.toJson = (storedOf v).toJson := by
    rintro ⟨first, more⟩
    cases more <;> rfl
  simp [Params.toJson, Store.toJson, stored, hvalues]

/-- **A request is written as its keys with the texts at each.** -/
lemma toJson_eq (hp : p.keys.Nodup) : p.toJson = p.objectOf := by
  have hvalues : ∀ v : Values, v.toJson = textsToJson v.toList := by
    rintro ⟨first, more⟩
    cases more <;> rfl
  have htable : p.toJson = .object (p.table.map fun entry => (entry.1, textsToJson entry.2)) := by
    simp [Params.toJson, table, hvalues]
  rw [htable, table_eq_map_keys hp, List.map_map, objectOf]
  rfl

/-- Texts are written without numbers, and one container is enough for them. -/
lemma textsToJson_proper (texts : List String) : (textsToJson texts).IsProper ∧ (textsToJson texts).depth ≤ 1 := by
  have harray : ∀ texts : List String, Json.Value.AreProper (texts.map .string) ∧ Json.Value.itemDepth (texts.map .string) = 0 := by
    intro texts
    induction texts with
    | nil => exact ⟨trivial, rfl⟩
    | cons text texts ih =>
        rw [List.map_cons, Json.Value.AreProper, Json.Value.itemDepth, ih.2]
        exact ⟨⟨trivial, ih.1⟩, rfl⟩
  cases texts with
  | nil => exact ⟨trivial, le_refl 1⟩
  | cons first more =>
      cases more with
      | nil => exact ⟨trivial, Nat.zero_le 1⟩
      | cons second more =>
          rw [textsToJson, Json.Value.IsProper, Json.Value.depth, (harray _).2]
          · exact ⟨(harray _).1, le_refl 1⟩
          · rintro text heq
            cases heq

/-- **A request can be read as JSON**: there are no numbers in it, and two containers stand in one another at most. -/
lemma objectOf_proper (p : Params) : p.objectOf.IsProper ∧ p.objectOf.depth ≤ 2 := by
  rw [objectOf, Json.Value.IsProper, Json.Value.depth]
  induction p.keys with
  | nil => exact ⟨trivial, Nat.le_succ 1⟩
  | cons key keys ih =>
      obtain ⟨hproper, hdepth⟩ := textsToJson_proper (p.getAll key)
      rw [List.map_cons, Json.Value.MembersProper, Json.Value.memberDepth]
      exact ⟨⟨hproper, ih.1⟩, by omega⟩

/-! ### Back from the text -/

/-- The form tells the texts of a key. -/
lemma textsToJson_injective : Function.Injective textsToJson := by
  have hstring : Function.Injective Json.Value.string := fun _ _ h => by cases h; rfl
  intro texts texts' h
  rcases texts with _ | ⟨first, _ | ⟨second, more⟩⟩ <;> rcases texts' with _ | ⟨first', _ | ⟨second', more'⟩⟩ <;>
    simp_all [textsToJson, (List.map_injective_iff.mpr hstring).eq_iff]

lemma getAll_of_notMem_keys {key : String} (h : key ∉ p.keys) : p.getAll key = [] := by
  have hnone : p.get? key = none := by
    refine List.lookup_eq_none_iff.mpr fun e he => bne_iff_ne.mpr ?_
    rintro rfl
    exact h (List.mem_map_of_mem he)
  rw [getAll, hnone]
  rfl

/-- **The object of a request tells its keys in order, and the values at each.** -/
lemma objectOf_eq_iff : p.objectOf = q.objectOf ↔ p.keys = q.keys ∧ ∀ key, p.getAll key = q.getAll key := by
  constructor
  · intro h
    rw [objectOf, objectOf, Json.Value.object.injEq] at h
    have hkeys : p.keys = q.keys := by
      simpa [Function.comp_def] using congrArg (List.map Prod.fst) h
    refine ⟨hkeys, fun key => ?_⟩
    by_cases hkey : key ∈ p.keys
    · rw [← hkeys] at h
      exact textsToJson_injective (Prod.mk.inj (List.map_inj_left.mp h key hkey)).2
    · rw [getAll_of_notMem_keys hkey, getAll_of_notMem_keys (hkeys ▸ hkey)]
  · rintro ⟨hkeys, hvalues⟩
    rw [objectOf, objectOf, hkeys]
    simp only [hvalues]

/-- **Requests with one text are the same**, on one line or on many: their keys are, in order, and the values at each. The text is
written in the form in which the values are kept, and it is one of the object alone in which each key, in order, has its one value
as a string or the array of its values. -/
theorem toJson_lossless (calls calls' : List Call) :
    ((ofCalls calls).toJson.compact = (ofCalls calls').toJson.compact
        ↔ (ofCalls calls).keys = (ofCalls calls').keys ∧ ∀ key, (ofCalls calls).getAll key = (ofCalls calls').getAll key)
      ∧ ((ofCalls calls).toJson.pretty = (ofCalls calls').toJson.pretty
        ↔ (ofCalls calls).keys = (ofCalls calls').keys ∧ ∀ key, (ofCalls calls).getAll key = (ofCalls calls').getAll key)
      ∧ (ofCalls calls).toJson = (Store.ofCalls calls).toJson
      ∧ Json.ReadsAs (ofCalls calls).toJson.compact (ofCalls calls).objectOf
      ∧ Json.ReadsAs (ofCalls calls).toJson.pretty (ofCalls calls).objectOf := by
  have hobject : ∀ calls, (ofCalls calls).toJson = (ofCalls calls).objectOf := fun calls =>
    toJson_eq (nodup_keys_foldl_perform calls)
  have hreads : ∀ (calls : List Call) {layout : Json.Layout}, layout.IsWhite →
      Json.ReadsAs (String.ofList ((ofCalls calls).toJson.toChars layout 0)) (ofCalls calls).objectOf := by
    intro calls layout hwhite
    obtain ⟨hproper, hdepth⟩ := objectOf_proper (ofCalls calls)
    rw [hobject]
    exact Json.readsAs_toChars hproper (hdepth.trans (by decide)) hwhite
  have hsame : ∀ {layout : Json.Layout}, layout.IsWhite →
      (String.ofList ((ofCalls calls).toJson.toChars layout 0) = String.ofList ((ofCalls calls').toJson.toChars layout 0)
        ↔ (ofCalls calls).keys = (ofCalls calls').keys ∧ ∀ key, (ofCalls calls).getAll key = (ofCalls calls').getAll key) := by
    intro layout hwhite
    rw [← objectOf_eq_iff]
    constructor
    · intro htext
      exact (hreads calls hwhite).unique (htext ▸ hreads calls' hwhite)
    · intro heq
      rw [hobject, hobject, heq]
  refine ⟨hsame Json.Layout.isWhite_compact, hsame Json.Layout.isWhite_pretty, ?_, hreads calls Json.Layout.isWhite_compact,
    hreads calls Json.Layout.isWhite_pretty⟩
  rw [toJson_eq_stored, stored_ofCalls]

end Request.Params

end MonitorQuery
