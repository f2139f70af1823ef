import MonitorQuery.Settings.Basic
import MonitorQuery.Toml.Reader
import MonitorQuery.Toml.Writer

/-!
The file of the settings.

The file is a TOML document. Every key may be left out, and keys that mean nothing here are passed over. The
settings are written with all their keys but those that are not set.
-/

namespace MonitorQuery.Settings

open MonitorQuery.Server

/-- Reads the value at a key, which may be left out. -/
def entry {α : Type} (read : Toml.Value → Option α) (missing : α) (key : String) (entries : Toml.Entries) :
    Option α :=
  match entries.lookup key with
  | none => some missing
  | some v => read v

/-- Reads a string. -/
def asString? : Toml.Value → Option String
  | .string s => some s
  | _ => none

/-- Reads a natural number of 32 bits. -/
def asLimit? : Toml.Value → Option Nat
  | .integer n => (Decimal.Bounds.unsigned32.only n).map Int.toNat
  | _ => none

/-- A container that holds nothing. -/
def isEmptyContainer : Toml.Value → Bool
  | .array [] | .table _ [] => true
  | _ => false

/-- Reads a product line: its name, or a table with that name over nothing. -/
def asLine? : Toml.Value → Option ProductLine
  | .string name => ProductLine.ofLabel? name
  | .table _ [(name, v)] => if isEmptyContainer v then ProductLine.ofLabel? name else none
  | _ => none

/-- Reads the settings from the entries of a document. -/
def ofEntries? (entries : Toml.Entries) : Option Settings := do
  let initial : Settings := {}
  let url ← entry asString? initial.url "url" entries
  let version ← entry asString? initial.version "version" entries
  let line ← entry (fun v => (asLine? v).map some) none "server_type" entries
  let username ← entry (fun v => (asString? v).map some) none "username" entries
  let limit ← entry asLimit? initial.limit "default_limit" entries
  some ⟨url, version, line, username, limit⟩

/-- Reads the settings from the text of the file. -/
def ofText? (text : String) : Option Settings := (Toml.ofText? text).bind ofEntries?

/-- The text of the file. -/
def toText (s : Settings) : String :=
  String.ofList <|
    Toml.stringLine "url" s.url ++ Toml.stringLine "version" s.version ++
      (s.line.map fun l => Toml.stringLine "server_type" l.label).getD [] ++
      (s.username.map fun u => Toml.stringLine "username" u).getD [] ++
      Toml.naturalLine "default_limit" s.limit

end MonitorQuery.Settings
