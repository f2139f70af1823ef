import MonitorQuery.Cli.Run

/-!
The program on a real file system.

Of all files only those that the invocation may read are looked at: the settings and, for the commands that
have one, the file of properties. Everything is decided by `run`; here the disk is filled beforehand, and what the run
leaves behind is written and printed.
-/

namespace MonitorQuery.Cli.Host

/-- The files that an invocation may read besides the settings. -/
def filesOf : Invocation → List String
  | .compile o => o.properties.toList
  | .listProperties file _ => [file]
  | _ => []

/-- The paths that lead to a path, itself included, one part after the other. -/
def pathsTo (path : String) : List String :=
  let start := if Settings.isAbsolute path then "/" else ""
  let parts := Place.steps path
  (List.range parts.length).map fun n => start ++ String.intercalate "/" (parts.take (n + 1))

/-- What stands at a path, if it can be looked at. -/
def look (path : String) : IO (Option Entry) := do
  try
    let bytes ← IO.FS.readBinFile path
    return some ((String.fromUTF8? bytes).elim .binary .text)
  catch
    | .inappropriateType _ 21 _ => return some .directory
    | _ => return none

/-- The disk with what stands at the paths that an invocation may read and on the way to them. -/
def diskFor (root : String) (args : List String) : IO Disk := do
  let mut disk : Disk := { root := root, settings := ← look (Settings.filePath root) }
  for file in ((Invocation.ofArguments args).toOption.map filesOf).getD [] do
    for path in pathsTo file do
      if let some e ← look path then
        disk := disk.put path e
  return disk

/-- The directories that the environment names. -/
def places : IO Settings.Places := do
  return ⟨← IO.getEnv "ONMS_ROOT", ← IO.getEnv "XDG_DATA_HOME", (← IO.getEnv "HOME").getD ""⟩

end MonitorQuery.Cli.Host

open MonitorQuery MonitorQuery.Cli in
/-- Runs the command line. -/
def main (args : List String) : IO UInt32 := do
  let root := Settings.rootOf (← Host.places)
  let log : LogChoice := ⟨← IO.getEnv "ONMSQ_LOG", ← IO.getEnv "RUST_LOG"⟩
  let disk ← Host.diskFor root args
  let outcome := run log disk args
  if outcome.disk.settings != disk.settings then
    if let some (.text text) := outcome.disk.settings then
      IO.FS.createDirAll root
      IO.FS.writeFile outcome.disk.settingsPath text
  IO.eprint outcome.complaints
  IO.print outcome.output
  return outcome.exit.toUInt32
