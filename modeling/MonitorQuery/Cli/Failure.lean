import MonitorQuery.Cli.Disk
import MonitorQuery.Property.Document
import MonitorQuery.Query.Reading
import MonitorQuery.Request.Rejection

/-!
Why a command fails.
-/

namespace MonitorQuery.Cli

open MonitorQuery.Server MonitorQuery.Query

/-- Why a command fails. -/
inductive Failure
  /-- The file of the settings is no document of settings. -/
  | malformedSettings
  /-- No product line has this name. -/
  | unknownLine (name : String)
  /-- No interface has this number. -/
  | unknownApi (number : String)
  /-- The text is no version. -/
  | version (e : VersionError)
  /-- There is no file of settings at the path. -/
  | notConfigured (path : String)
  /-- The tokens write no filter. -/
  | tokens (e : TokenError)
  /-- The filter cannot be asked of the interface. -/
  | rejected (r : Request.Rejection)
  /-- A file cannot be read. -/
  | unreadable (e : ReadError)
  /-- A file holds no document of properties. -/
  | document (e : DocumentError)
  /-- No sort direction has this name. -/
  | unknownOrder (name : String)
  /-- Parameters are not printed in this format. -/
  | unknownFormat (name : String)
  /-- The document has no property of the attribute. -/
  | unknownAttr (attr : String)
  deriving DecidableEq, Repr

namespace Failure

/-- The complaint about a name that a server type should have. -/
def unknownLineText (name : String) : String := "Configuration error: Unknown server type: " ++ name

/-- The complaint about a number that an interface should have. -/
def unknownApiText (number : String) : String := "Configuration error: Unknown API version: " ++ number

/-- The complaint about the file of the settings. -/
def malformedSettingsText : String := "Configuration error: Failed to parse config"

/-- The wording of a failure. -/
def message : Failure → String
  | malformedSettings => malformedSettingsText
  | unknownLine name => unknownLineText name
  | unknownApi number => unknownApiText number
  | version e => e.message
  | notConfigured path => "No server configured: " ++ path ++ " does not exist"
  | tokens e => "Parse error: " ++ e.message
  | rejected r => r.message
  | unreadable e => "IO error: " ++ e.message
  | document .ended => "JSON error: the document ends too early"
  | document .malformed => "JSON error: the document is malformed"
  | document .misshapen => "JSON error: the document does not list properties"
  | unknownOrder name => "Unknown sort order: " ++ name
  | unknownFormat name => "Unknown format: " ++ name ++ " (expected query or json)"
  | unknownAttr attr => "No such property: " ++ attr

end Failure

end MonitorQuery.Cli
