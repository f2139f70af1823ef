import MonitorQuery.Cli.Run
import MonitorQuery.Proofs.Toml.Lines

/-!
Settings, saved and loaded.

The settings are written as lines of a TOML document, and those that are not set have no line. Read back, each line is the
entry that it was written for, and what has no entry is not set.

* `entriesOf`: the entries of settings.
* `ofText?_toText_eq_entriesOf`: **the text of settings is a document with their entries.**
* `ofEntries?_entriesOf`: settings are read from their entries.
* `settings_saveSettings`: **saved settings are loaded unchanged**, and saving them again changes nothing.
-/

namespace MonitorQuery.Settings

open MonitorQuery.Server MonitorQuery.Cli

/-- The entries of settings, as they are written. -/
def entriesOf (s : Settings) : Toml.Entries :=
  [("url", .string s.url), ("version", .string s.version)]
    ++ (s.line.map fun l => ("server_type", .string l.label)).toList
    ++ (s.username.map fun u => ("username", .string u)).toList
    ++ [("default_limit", .integer s.limit)]

variable {s : Settings}

/-- The keys of the file need no quotation marks. -/
lemma isBareKey_of_mem {key : String} (h : key ∈ ["url", "version", "server_type", "username", "default_limit"]) :
    Toml.IsBareKey key.toList := by
  fin_cases h <;> exact ⟨by decide, List.all_eq_true.mp rfl⟩

/-- A line for what need not be set. -/
lemma all_optionalLine {α : Type} {key : String} (hkey : Toml.IsBareKey key.toList) (textOf : α → String) (o : Option α)
    (rest : List Char) :
    Toml.Line.all ((o.map fun a => Toml.stringLine key (textOf a)).getD [] ++ rest)
      = (Toml.Line.all rest).map ((o.map fun a => Toml.Line.entry ⟨[], key⟩ (.string (textOf a))).toList ++ ·) := by
  cases o with
  | none => simp
  | some a => exact Toml.all_stringLine hkey (textOf a) rest

/-- **The lines of the file are the entries of the settings.** -/
lemma all_toText (hs : s.limit < 2 ^ 32) :
    Toml.Line.all s.toText.toList = some ((entriesOf s).map fun (key, v) => .entry ⟨[], key⟩ v) := by
  have hlimit : (s.limit : ℤ) ≤ Decimal.Bounds.signed64.highest := by
    show (s.limit : ℤ) ≤ 9223372036854775807
    omega
  have hlast : Toml.Line.all (Toml.naturalLine "default_limit" s.limit)
      = some [.entry ⟨[], "default_limit"⟩ (.integer s.limit)] := by
    have hkey : Toml.IsBareKey "default_limit".toList := isBareKey_of_mem (by decide)
    have hline := Toml.all_naturalLine hkey hlimit []
    rwa [List.append_nil, Toml.all_nil] at hline
  rw [toText, String.toList_ofList, List.append_assoc, List.append_assoc, List.append_assoc,
    Toml.all_stringLine (isBareKey_of_mem (by decide)), Toml.all_stringLine (isBareKey_of_mem (by decide)),
    all_optionalLine (isBareKey_of_mem (by decide)), all_optionalLine (isBareKey_of_mem (by decide)) fun u => u, hlast]
  rw [entriesOf]
  cases s.line <;> cases s.username <;> rfl

/-- **The text of settings is a document with their entries.** -/
lemma ofText?_toText_eq_entriesOf (hs : s.limit < 2 ^ 32) : Toml.ofText? s.toText = some (entriesOf s) := by
  have hnodup : ((entriesOf s).map (·.1)).Nodup := by
    rw [entriesOf]
    cases s.line <;> cases s.username <;> simp
  have hmark : Toml.withoutMark s.toText.toList = s.toText.toList := by
    rw [toText, String.toList_ofList]
    rfl
  rw [Toml.ofText?, hmark, all_toText hs, Option.bind_some, Toml.ofLines_map_entry hnodup]

/-- A limit of 32 bits is read back. -/
lemma asLimit?_integer (hs : s.limit < 2 ^ 32) : asLimit? (.integer s.limit) = some s.limit := by
  have hcontains : Decimal.Bounds.unsigned32.contains s.limit = true := by
    have hhighest : (s.limit : ℤ) ≤ 4294967295 := by omega
    simpa [Decimal.Bounds.contains, Decimal.Bounds.unsigned32] using hhighest
  rw [asLimit?, Decimal.Bounds.only, if_pos hcontains]
  rfl

/-- A product line is read back from its name. -/
lemma asLine?_label (l : ProductLine) : asLine? (.string l.label) = some l := by
  cases l <;> rfl

/-- **Settings are read from their entries.** What has no entry is not set. -/
lemma ofEntries?_entriesOf (hs : s.limit < 2 ^ 32) : ofEntries? (entriesOf s) = some s := by
  have hlimit := asLimit?_integer hs
  obtain ⟨url, version, line, username, limit⟩ := s
  cases line <;> cases username <;>
    simp [ofEntries?, entriesOf, entry, List.lookup_cons, asString?, asLine?_label, hlimit]

/-- Settings that are written are read back. -/
lemma ofText?_toText (hs : s.limit < 2 ^ 32) : ofText? s.toText = some s := by
  rw [ofText?, ofText?_toText_eq_entriesOf hs, Option.bind_some, ofEntries?_entriesOf hs]

/-- **Saved settings are loaded unchanged.** Whatever characters the texts have, whatever is set and whatever is on the disk: where
settings with a limit of 32 bits are saved, they are what is loaded next, from the same root directory and without an event or a
failure. Saving what was loaded once more leaves the file and the disk as they are. -/
theorem settings_saveSettings {s : Settings} (hs : s.limit < 2 ^ 32) (d : Disk) (events : List Log.Event) :
    ∃ loaded, (Command.settings (d.saveSettings s.toText)).run.run events = (.ok loaded, events)
      ∧ loaded = s
      ∧ (d.saveSettings s.toText).root = d.root
      ∧ (d.saveSettings s.toText).saveSettings loaded.toText = d.saveSettings s.toText := by
  refine ⟨s, ?_, rfl, rfl, rfl⟩
  have hread : Command.settings (d.saveSettings s.toText)
      = Logged.ofExcept .unreadable (.ok s.toText) >>= fun text => Logged.ofOption .malformedSettings (ofText? text) := rfl
  rw [hread, Logged.ofExcept, pure_bind, ofText?_toText hs]
  rfl

/-- Settings with four texts in four forms: plain, with an apostrophe and a backslash, with marks of both sorts, and with much that
needs an escape. -/
def manyForms : Settings where
  url := "it's\\"
  version := "it's \"quoted\""
  line := some .meridian
  username := some "\n\"\"\"\\'''\r\x7f"
  limit := 4294967295

theorem settings_saveSettings_manyForms :
    ∃ loaded, (Command.settings (({ root := "/srv" } : Disk).saveSettings manyForms.toText)).run.run [] = (.ok loaded, [])
      ∧ loaded = manyForms
      ∧ manyForms.toText
          = "url = '''it's\\'''\n"
            ++ "version = \"\"\"it's \"quoted\"\"\"\"\n"
            ++ "server_type = \"meridian\"\n"
            ++ "username = \"\"\"\n\n\"\"\\\"\\\\'''\\r\\u007F\"\"\"\n"
            ++ "default_limit = 4294967295\n" := by
  obtain ⟨loaded, hread, hsame, -⟩ := settings_saveSettings (s := manyForms) (by decide) { root := "/srv" } []
  exact ⟨loaded, hread, hsame, by decide +kernel⟩

end MonitorQuery.Settings
