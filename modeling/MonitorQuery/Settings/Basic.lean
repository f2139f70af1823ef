import MonitorQuery.Query.Filter
import MonitorQuery.Server.Metadata

/-!
The settings of a client: which server it talks to and as whom.

The settings live in a file of the root directory, whose place the environment decides (`rootOf`).
-/

namespace MonitorQuery

open MonitorQuery.Server

/-- The settings of a client for one server. -/
structure Settings where
  url : String := "http://localhost:8980/opennms"
  version : String := "21.0.0"
  /-- The product line; without one, that of the version. -/
  line : Option ProductLine := none
  username : Option String := none
  /-- The limit of filters for which nobody chose one. -/
  limit : Nat := Query.defaultLimit
  deriving DecidableEq, Repr

namespace Settings

/-- What is known of the server. A product line that is set wins over the version. -/
def metadata (s : Settings) : Except VersionError Metadata := do
  let v ← Version.ofText s.version
  .ok ⟨v, s.line.getD (ProductLine.detect v)⟩

/-- The server that the settings name. -/
def identity (s : Settings) : Except VersionError Identity := s.metadata.map fun m => m.identity s.url

/-- A path below another. -/
def joinPath (base below : String) : String :=
  if base.isEmpty then below
  else if base.toList.getLast? = some '/' then base ++ below
  else base ++ "/" ++ below

/-- The name of the file in the root directory. -/
def fileName : String := "config.toml"

/-- The file of the settings below a root directory. -/
def filePath (root : String) : String := joinPath root fileName

/-- What the environment says of directories. -/
structure Places where
  root : Option String
  dataHome : Option String
  home : String

/-- The path begins at the top of the file system. -/
def isAbsolute (path : String) : Bool := path.toList.head? == some '/'

/-- The root directory: the one that is set, or else the client's own below the directory for data. -/
def rootOf (p : Places) : String :=
  match p.root with
  | some root => root
  | none =>
    match p.dataHome.filter isAbsolute with
    | some dataHome => joinPath dataHome "onms"
    | none => joinPath p.home ".local/share/onms"

end Settings

end MonitorQuery
