import MonitorQuery.Cli.Failure
import MonitorQuery.Cli.Log.Choice
import MonitorQuery.Cli.Invocation
import MonitorQuery.Request.Compile
import MonitorQuery.Settings.Document
import MonitorQuery.Text.Quoted

/-!
Running a command line.

A command acts step by step: it looks at the disk, notes events, prints lines and saves settings, and may fail at any of its
steps. What it has printed and saved by then stays. `run` turns that into what the program leaves behind: its exit code, its
two outputs and the disk.
-/

namespace MonitorQuery.Cli

open MonitorQuery.Server MonitorQuery.Query

/-- A computation that notes events and may fail. -/
abbrev Logged := ExceptT Failure (StateM (List Log.Event))

namespace Logged

/-- Notes an event. -/
def note (e : Log.Event) : Logged Unit := ExceptT.lift (modify (· ++ [e]))

/-- Fails if something did, for a reason of one's own. -/
def ofExcept {ε α : Type} (reason : ε → Failure) : Except ε α → Logged α
  | .ok a => pure a
  | .error e => throw (reason e)

/-- Fails if there is nothing. -/
def ofOption {α : Type} (reason : Failure) : Option α → Logged α
  | some a => pure a
  | none => throw reason

end Logged

/-- What a command acts on: the disk, the lines that are printed so far, and the events that are noted so far. -/
structure Session where
  disk : Disk
  printed : List String := []
  events : List Log.Event := []

/-- A computation that prints and saves besides. What it did before it fails is done. -/
abbrev Acting := ExceptT Failure (StateM Session)

namespace Acting

/-- A computation that only notes events, among actions. -/
def ofLogged {α : Type} (m : Logged α) : Acting α := fun s =>
  let (result, events) := m.run.run s.events
  (result, { s with events := events })

instance : MonadLift Logged Acting := ⟨ofLogged⟩

/-- The disk as it is. -/
def disk : Acting Disk := fun s => (.ok s.disk, s)

/-- Prints a line. -/
def print (line : String) : Acting Unit := fun s => (.ok (), { s with printed := s.printed ++ [line] })

/-- Prints lines, one after the other. -/
def printAll : List String → Acting Unit
  | [] => pure ()
  | line :: lines => do
    print line
    printAll lines

/-- Saves settings. -/
def save (saved : Settings) : Acting Unit := fun s => (.ok (), { s with disk := s.disk.saveSettings saved.toText })

end Acting

namespace Command

open Acting

/-- A truth value as it is printed. -/
def truthText (b : Bool) : String := if b then "true" else "false"

/-- Reads the settings, those of the start if none are saved. -/
def settings (d : Disk) : Logged Settings :=
  match d.settings with
  | none => pure {}
  | some e => do
    let text ← Logged.ofExcept .unreadable e.read
    Logged.ofOption .malformedSettings (Settings.ofText? text)

/-- Notes that the qualifier of a version is dropped, if it is. -/
def noteQualifier (v : Version) : Logged Unit :=
  let qualifier := Version.qualifierPart v.text.toList
  if Qualifier.isDropped qualifier then
    Logged.note ⟨.debug, .versions, "dropping unrepresentable version qualifier",
      [("qualifier", Text.quoted (String.ofList qualifier))]⟩
  else pure ()

/-- What is known of the server of some settings. -/
def metadata (s : Settings) : Logged Metadata := do
  let m ← Logged.ofExcept .version s.metadata
  noteQualifier m.version
  pure m

/-- The product line to save: the one that is named, or else the one that is set. -/
def line (s : Settings) : Option String → Logged (Option ProductLine)
  | none => pure s.line
  | some name => do
    let l ← Logged.ofOption (.unknownLine (ProductLine.nameOf name)) (ProductLine.ofText? name)
    pure (some l)

/-- Settings with a product line and with all that is given. What is not given they keep. -/
def updated (s : Settings) (line : Option ProductLine) (o : InitOptions) : Settings where
  url := o.url.getD s.url
  version := o.version
  line := line
  username := o.username.or s.username
  limit := o.limit.getD s.limit

/-- Saves settings. Those that are not given keep what they were. -/
def init (o : InitOptions) : Acting Unit := do
  let d ← disk
  let s ← settings d
  let line ← line s o.line
  let s := updated s line o
  let m ← metadata s
  save s
  printAll
    ["Wrote " ++ d.settingsPath,
      "Server: " ++ m.line.label ++ " " ++ m.version.text ++ " (API " ++ m.api.label ++ ")"]

/-- The lines that show settings and what the server can do. -/
def settingsLines (d : Disk) (s : Settings) (m : Metadata) : List String :=
  ["config:            " ++ d.settingsPath] ++
    (if d.settings.isSome then [] else ["                   (not saved, showing defaults)"]) ++
    ["url:               " ++ s.url,
      "version:           " ++ m.version.text,
      "type:              " ++ m.line.label] ++
    (s.username.map fun u => "username:          " ++ u).toList ++
    ["default limit:     " ++ Decimal.renderNat s.limit,
      "api:               " ++ m.api.label,
      "json:              " ++ truthText (m.has .useJson),
      "graphs:            " ++ truthText (m.has .graphs),
      "outage summaries:  " ++ truthText (m.has .outageSummaries),
      "tickets:           " ++ truthText (m.has .tickets),
      "set node location: " ++ truthText (m.has .setNodeLocation),
      "ack flow api:      " ++ truthText (m.has .ackFlow)]

/-- Shows the settings and what the server can do. -/
def showSettings : Acting Unit := do
  let d ← disk
  let s ← settings d
  let m ← metadata s
  printAll (settingsLines d s m)

/-- Reads the properties in a file. -/
def properties (d : Disk) (path : String) : Logged (List Property) := do
  let text ← Logged.ofExcept .unreadable (d.read path)
  Logged.ofExcept .document (Property.ofDocument text)

/-- Reads a sort direction. -/
def order (name : String) : Logged Order := Logged.ofOption (.unknownOrder name) (Order.find name)

/-- A text around its last colon. -/
def splitLastColon (s : String) : Option (String × String) :=
  let cs := s.toList.reverse
  match cs.dropWhile (· != ':') with
  | [] => none
  | _ :: front => some (String.ofList front.reverse, String.ofList (cs.takeWhile (· != ':')).reverse)

/-- Reads a sort key: an attribute, and a direction behind its last colon unless it has none. -/
def sortKey (usual : Order) (s : String) : Logged SortKey :=
  match splitLastColon s with
  | none => pure ⟨s, usual⟩
  | some (attr, direction) => do
    let o ← order direction
    pure ⟨attr, o⟩

/-- The interface to compile for: the one that is asked for, or else that of the saved settings. -/
def api (d : Disk) (s : Settings) : Option String → Logged Api
  | some number => Logged.ofOption (.unknownApi (Api.numberPart number)) (Api.ofText? number)
  | none =>
    if d.settings.isSome then do
      let m ← metadata s
      pure m.api
    else throw (.notConfigured (d.settingsPath))

/-- Compiles a filter, and notes how. -/
def params (api : Api) (properties : List Property) (f : Filter) : Logged Request.Params := do
  Logged.note ⟨.debug, .requests, "compiling filter",
    [("api", api.label), ("clauses", Decimal.renderNat f.clauses.length),
      ("properties", Decimal.renderNat properties.length)]⟩
  match Request.compile api properties f with
  | .ok p => pure p
  | .error r => do
    Logged.note ⟨.debug, .requests, "filter rejected", [("api", api.label), ("error", r.message)]⟩
    throw (.rejected r)

/-- The filter that is asked for. Without a limit of its own it has that of the settings, unless it is to have none. -/
def filter (s : Settings) (o : CompileOptions) : Logged Filter := do
  let limit := if o.noLimit then none else some (o.limit.getD s.limit)
  let clauses ← Logged.ofExcept .tokens (clausesOf o.tokens)
  let usual ← order o.order
  let sortKeys ← o.sortKeys.mapM (sortKey usual)
  pure { limit := limit, clauses := clauses, sortKeys := sortKeys }

/-- The properties to compile with: those in the file that is named, if one is. -/
def givenProperties (d : Disk) : Option String → Logged (List Property)
  | some path => properties d path
  | none => pure []

/-- Notes that properties are given and not used, if it is so. -/
def noteUnused (api : Api) (properties : List Property) : Logged Unit :=
  if api = .v1 ∧ properties ≠ [] then
    Logged.note ⟨.debug, .commands, "search properties are only used by the V2 API, ignoring them", []⟩
  else pure ()

/-- The parameters that are asked for. -/
def requested (d : Disk) (o : CompileOptions) : Logged Request.Params := do
  let s ← settings d
  let api ← api d s o.api
  let f ← filter s o
  let ps ← givenProperties d o.properties
  noteUnused api ps
  params api ps f

/-- The line of a parameter. Control characters in its value are made visible. -/
def paramLine (p : String × String) : String := p.1 ++ "=" ++ Text.Percent.revealControls p.2

/-- Prints parameters in a format. -/
def printParams (format : String) (p : Request.Params) : Acting Unit :=
  if format = "json" then print p.toJson.pretty
  else if format = "query" then printAll (p.pairs.map paramLine)
  else throw (.unknownFormat format)

/-- Compiles a filter and prints its parameters. -/
def compile (o : CompileOptions) : Acting Unit := do
  let d ← disk
  let p ← requested d o
  printParams o.format p

/-- A text with blanks behind it up to a width. -/
def padTo (width : Nat) (s : String) : String := s ++ String.ofList (List.replicate (width - s.length) ' ')

/-- The lines of a property: its id, its type, whether results may be sorted by it, its comparators, and its
allowed values. -/
def propertyLines (p : Property) : List String :=
  (padTo 28 p.id ++ " " ++ p.type.label ++ " " ++ padTo 5 (if p.sortable then "sort" else "") ++ " " ++
      String.intercalate "," (p.comparators.map Comparator.label)) ::
    p.values.map fun v => "    " ++ v.1 ++ " = " ++ v.2

/-- Lists the properties in a file, all or those of one attribute. -/
def listProperties (file : String) (attr : Option String) : Acting Unit := do
  let d ← disk
  let ps ← properties d file
  let chosen := ps.filter fun p => attr.all (p.id == ·)
  if chosen.isEmpty then
    match attr with
    | some a => throw (.unknownAttr a)
    | none => print "No search properties"
  else printAll (chosen.flatMap propertyLines)

/-- Does what is asked. -/
def perform : Invocation → Acting Unit
  | .init o => init o
  | .showSettings => showSettings
  | .compile o => compile o
  | .listProperties file attr => listProperties file attr

end Command

/-- What the environment says of the log. -/
structure LogChoice where
  own : Option String := none
  common : Option String := none

/-- The choice of events that the environment makes. -/
def LogChoice.choice (c : LogChoice) : Log.Choice := Log.Choice.ofText ((c.own.or c.common).getD Log.usualChoice)

/-- What a run of the program leaves behind. -/
structure Outcome where
  exit : Nat
  output : String
  complaints : String
  disk : Disk

/-- Lines with an end each. -/
def linesText (lines : List String) : String := String.join (lines.map fun l => l ++ "\n")

/-- The version of the program. -/
def programVersion : String := "onmsq 0.3.2"

/-- The lines of the log: complaints about the choice of events, and the events chosen. -/
def loggedText (choice : Log.Choice) (events : List Log.Event) : String :=
  linesText (choice.complaints ++ (events.filter choice.shows).map Log.Event.line)

/-- What a command leaves behind, with a complaint behind the log if it has failed. -/
def Outcome.ofResult (choice : Log.Choice) : Except Failure Unit × Session → Outcome
  | (.ok (), s) => ⟨0, linesText s.printed, loggedText choice s.events, s.disk⟩
  | (.error failure, s) =>
    ⟨1, linesText s.printed, loggedText choice s.events ++ linesText ["Error: " ++ failure.message], s.disk⟩

/-- Runs a command line: exit code 0 for success, 1 for a command that fails, 2 for arguments that name
none. -/
def run (log : LogChoice) (d : Disk) (args : List String) : Outcome :=
  let choice := log.choice
  match Invocation.ofArguments args with
  | .error .misuse => ⟨2, "", loggedText choice [], d⟩
  | .error .help => ⟨0, "", loggedText choice [], d⟩
  | .error .version => ⟨0, linesText [programVersion], loggedText choice [], d⟩
  | .ok invocation => .ofResult choice ((Command.perform invocation).run.run { disk := d })

end MonitorQuery.Cli
