import MonitorQuery.Server.Api
import MonitorQuery.Server.Version
import MonitorQuery.Text.Fold

/-!
What is known of a server from its version: its product line, what it can do, and its identity.

Horizon is numbered by release and Meridian by year; a Meridian server can do what the Horizon release behind it can
(`Metadata.horizonTriple`). Every capability is a least Horizon release, so all are thresholds on one scale.
-/

namespace MonitorQuery.Server

/-- The product lines. -/
inductive ProductLine
  | horizon | meridian
  deriving DecidableEq, Repr

namespace ProductLine

/-- The line that is taken when nothing is known. -/
def default : ProductLine := horizon

/-- The name of a line. -/
def label : ProductLine → String
  | horizon => "horizon"
  | meridian => "meridian"

/-- The line with exactly this name. -/
def ofLabel? (name : String) : Option ProductLine := [horizon, meridian].find? fun l => l.label == name

/-- The form of a text in which lines are looked up: without blanks around it and in lower case. -/
def nameOf (s : String) : String := Text.fold (Text.trim s)

/-- The line that a text names. -/
def ofText? (s : String) : Option ProductLine := ofLabel? (nameOf s)

/-- The line that numbers its releases like this: the numbers of Meridian are years. -/
def detect (v : Version) : ProductLine := if 2000 ≤ v.triple.major then meridian else horizon

end ProductLine

/-- What can be asked of a server beyond the basic interface. -/
inductive Capability
  | outageSummaries | graphs | tickets | useJson | setNodeLocation | ackFlow
  deriving DecidableEq, Repr

/-- The first Horizon release with a capability. -/
def Capability.since : Capability → Nat
  | outageSummaries => 14
  | graphs => 15
  | tickets => 17
  | useJson => 19
  | setNodeLocation => 20
  | ackFlow => 21

/-- A version and a product line. -/
structure Metadata where
  version : Version
  line : ProductLine
  deriving DecidableEq, Repr

/-- One server as its data is kept apart from that of others. -/
structure Identity where
  url : String
  version : String
  line : ProductLine
  deriving DecidableEq, Repr

/-- An identity in words. -/
def Identity.label (i : Identity) : String := i.url ++ " (" ++ i.line.label ++ " " ++ i.version ++ ")"

namespace Metadata

/-- A version with the line that its numbers show. -/
def ofVersion (v : Version) : Metadata := ⟨v, ProductLine.detect v⟩

/-- Reads a version and detects its line. -/
def ofText (text : String) : Except VersionError Metadata := (Version.ofText text).map ofVersion

/-- The Horizon release behind a year of Meridian. -/
def horizonRelease (year : Nat) : Nat :=
  if year ≤ 2014 then 16 else if year ≤ 2016 then 17 else if year = 2017 then 19 else 21

/-- The Horizon version that can do what the server can. -/
def horizonTriple (m : Metadata) : Triple :=
  match m.line with
  | .horizon => m.version.triple
  | .meridian => ⟨horizonRelease m.version.triple.major, 0, 0⟩

/-- The server can do this. -/
def has (m : Metadata) (c : Capability) : Bool := m.horizonTriple.atLeast c.since 0 0

/-- The first Horizon release with the second interface. -/
def searchSince : Nat := 21

/-- The interface that filters are compiled for. -/
def api (m : Metadata) : Api := if m.horizonTriple.atLeast searchSince 0 0 then .v2 else .v1

/-- The address of a server without slashes at its end. -/
def baseUrl (url : String) : String :=
  String.ofList ((url.toList.reverse.dropWhile (· == '/')).reverse)

/-- The server at an address. -/
def identity (m : Metadata) (url : String) : Identity := ⟨baseUrl url, m.version.text, m.line⟩

end Metadata

end MonitorQuery.Server
