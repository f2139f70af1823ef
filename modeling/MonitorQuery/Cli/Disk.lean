import MonitorQuery.Settings.Basic
import MonitorQuery.Text.Extent

/-!
The files that a run of the program can see.

A disk holds the file of the settings and any number of other files and directories, each under its place: the
parts of its path from the top of the file system or from the working directory. A directory exists if it is
listed or if anything below it is. Reading a path follows its parts one after the other, as an operating system
does, and fails as that does: every part but the last has to be a directory, no part and no path may be too long,
and what is read has to be a file that holds a text.
-/

namespace MonitorQuery.Cli

/-- What stands at a place. -/
inductive Entry
  | text (s : String)
  /-- A file that holds no text. -/
  | binary
  | directory
  deriving DecidableEq, Repr

/-- Why a path could not be read. -/
inductive ReadError
  | missing | isDirectory | notDirectory | nameTooLong | notText
  deriving DecidableEq, Repr

/-- The wording of a failure to read. -/
def ReadError.message : ReadError → String
  | missing => "No such file or directory (os error 2)"
  | isDirectory => "Is a directory (os error 21)"
  | notDirectory => "Not a directory (os error 20)"
  | nameTooLong => "File name too long (os error 36)"
  | notText => "stream did not contain valid UTF-8"

/-- The text of an entry. -/
def Entry.read : Entry → Except ReadError String
  | text s => .ok s
  | binary => .error .notText
  | directory => .error .isDirectory

/-- A place, as the parts of its path from the top of the file system or from the working directory. -/
structure Place where
  absolute : Bool
  parts : List String
  deriving DecidableEq, Repr

namespace Place

/-- Where paths of a kind begin. -/
def origin (path : String) : Place := ⟨Settings.isAbsolute path, []⟩

/-- The parts of a path. Two slashes have nothing between them. -/
def steps (path : String) : List String :=
  ((path.toList.splitOn '/').map String.ofList).filter fun part => part != ""

/-- The place that a part of a path leads to: the same, the one above, or one below. -/
def step (p : Place) (part : String) : Place :=
  if part = "." then p
  else if part = ".." then { p with parts := p.parts.dropLast }
  else { p with parts := p.parts ++ [part] }

/-- The place of a path, if every part leads somewhere. -/
def ofPath (path : String) : Place := (steps path).foldl step (origin path)

/-- The place is at or below another. -/
def isBelow (p q : Place) : Bool := p.absolute == q.absolute && q.parts.isPrefixOf p.parts

end Place

/-- The files that a run of the program can see. -/
structure Disk where
  /-- The root directory of the client. -/
  root : String
  /-- What stands where the settings are saved. -/
  settings : Option Entry := none
  /-- Everything else. -/
  others : List (Place × Entry) := []
  deriving DecidableEq, Repr

namespace Disk

/-- The path of the settings. -/
def settingsPath (d : Disk) : String := Settings.filePath d.root

/-- The place of the settings. -/
def settingsPlace (d : Disk) : Place := Place.ofPath d.settingsPath

/-- Everything with its place. -/
def entries (d : Disk) : List (Place × Entry) :=
  (d.settings.map fun e => (d.settingsPlace, e)).toList ++ d.others

/-- What stands at a place. -/
def entryAt (d : Disk) (place : Place) : Option Entry :=
  if place.parts.isEmpty then some .directory
  else
    match d.entries.lookup place with
    | some e => some e
    | none => if d.entries.any fun e => e.1.isBelow place then some .directory else none

/-- The bytes that a part of a path may have. -/
def longestPart : Nat := 255

/-- The bytes that a path may have. -/
def longestPath : Nat := 4095

/-- What stands where the parts of a path lead to, from a place on. -/
def follow (d : Disk) (place : Place) : List String → Except ReadError Entry
  | [] =>
    match d.entryAt place with
    | some e => .ok e
    | none => .error .missing
  | part :: parts =>
    match d.entryAt place with
    | none => .error .missing
    | some .directory =>
      if longestPart < Text.extent part.toList then .error .nameTooLong else d.follow (place.step part) parts
    | some _ => .error .notDirectory

/-- Reads the text at a path. A slash at its end asks for a directory. -/
def read (d : Disk) (path : String) : Except ReadError String :=
  if path.isEmpty then .error .missing
  else if longestPath < Text.extent path.toList then .error .nameTooLong
  else
    match d.follow (Place.origin path) (Place.steps path) with
    | .error e => .error e
    | .ok e =>
      if path.toList.getLast? == some '/' && e != .directory then .error .notDirectory else e.read

/-- The disk with something at a path, in place of what stood there. Where the settings are saved, a directory takes
their place when something is put below it. -/
def put (d : Disk) (path : String) (e : Entry) : Disk :=
  let place := Place.ofPath path
  if place = d.settingsPlace then { d with settings := some e }
  else
    { d with
      settings := if place.isBelow d.settingsPlace then some .directory else d.settings
      others := (place, e) :: d.others.filter fun other => other.1 != place }

/-- The disk with other settings. -/
def saveSettings (d : Disk) (text : String) : Disk := { d with settings := some (.text text) }

end Disk

end MonitorQuery.Cli
