import Mathlib.Tactic
import MonitorQuery.Cli.Run

/-!
Commands that check before they act.

A command may fail at any of its steps, and what it printed or saved before stays. All commands here first find out whether they
can do what is asked, and only look at the disk and note events meanwhile; from the first line that is printed on nothing can
fail any more.

* `Acting.result_bind`: what steps lead to; `Acting.result_printAll` and its like, what the single ones do.
* `Acting.Quiet`, `Acting.Sure`, `Acting.Keeps`: what prints and saves nothing, what does not fail, and what saves nothing.
* `Acting.Clean`: what fails leaves the disk and the output as they were. `Acting.Clean.bind`: **quiet steps in front keep it so.**
* `Command.clean_perform`, `Command.keeps_perform`: every command is clean, and saves nothing but for the one that is to.
* `run_failed_or_changed`: **a run that fails leaves no trace, and a run that changes the disk has saved settings.**
-/

namespace MonitorQuery.Cli

open MonitorQuery.Server MonitorQuery.Query

namespace Acting

variable {α β : Type} {s s' : Session}

/-- What an action leads to: its result, and the session after it. -/
def result (m : Acting α) (s : Session) : Except Failure α × Session := m.run.run s

/-- Actions in two steps. The second is only taken if the first has succeeded. -/
lemma result_bind (m : Acting α) (f : α → Acting β) (s : Session) :
    (m >>= f).result s = match m.result s with
      | (.ok a, s') => (f a).result s'
      | (.error failure, s') => (.error failure, s') := by
  have hstep : (m >>= f).result s
      = (ExceptT.bindCont (fun a => f a) (m.result s).1).run (m.result s).2 := rfl
  rw [hstep]
  cases m.result s with
  | mk r s' => cases r <;> rfl

lemma result_liftM (m : Logged α) (s : Session) :
    (liftM m : Acting α).result s = ((m.run.run s.events).1, { s with events := (m.run.run s.events).2 }) := rfl

lemma result_disk (s : Session) : disk.result s = (.ok s.disk, s) := rfl

lemma result_print (line : String) (s : Session) :
    (print line).result s = (.ok (), { s with printed := s.printed ++ [line] }) := rfl

/-- Neither the disk nor the output changes. -/
def Quiet (m : Acting α) : Prop :=
  ∀ s, (m.result s).2.disk = s.disk ∧ (m.result s).2.printed = s.printed

/-- The disk does not change. -/
def Keeps (m : Acting α) : Prop := ∀ s, (m.result s).2.disk = s.disk

/-- It does not fail. -/
def Sure (m : Acting α) : Prop := ∀ s, ∃ a, (m.result s).1 = .ok a

/-- If it fails, neither the disk nor the output has changed. -/
def Clean (m : Acting α) : Prop :=
  ∀ s failure, (m.result s).1 = .error failure → (m.result s).2.disk = s.disk ∧ (m.result s).2.printed = s.printed

variable {m : Acting α} {f : α → Acting β}

lemma quiet_liftM (m : Logged α) : Quiet (liftM m : Acting α) := fun _ => ⟨rfl, rfl⟩

lemma quiet_disk : Quiet disk := fun _ => ⟨rfl, rfl⟩

lemma quiet_throw (failure : Failure) : Quiet (throw failure : Acting α) := fun _ => ⟨rfl, rfl⟩

lemma sure_print (line : String) : Sure (print line) := fun _ => ⟨(), rfl⟩

lemma sure_save (saved : Settings) : Sure (save saved) := fun _ => ⟨(), rfl⟩

lemma keeps_print (line : String) : Keeps (print line) := fun _ => rfl

lemma Sure.bind (hm : Sure m) (hf : ∀ a, Sure (f a)) : Sure (m >>= f) := by
  intro s
  obtain ⟨a, ha⟩ := hm s
  rw [result_bind]
  cases hr : m.result s with
  | mk r s' =>
      rw [hr] at ha
      obtain rfl : r = .ok a := ha
      exact hf a s'

lemma Keeps.bind (hm : Keeps m) (hf : ∀ a, Keeps (f a)) : Keeps (m >>= f) := by
  intro s
  have hdisk := hm s
  rw [result_bind]
  cases hr : m.result s with
  | mk r s' =>
      rw [hr] at hdisk
      cases r with
      | error failure => exact hdisk
      | ok a => exact (hf a s').trans hdisk

lemma Quiet.keeps (hm : Quiet m) : Keeps m := fun s => (hm s).1

lemma Quiet.clean (hm : Quiet m) : Clean m := fun s _ _ => hm s

/-- What does not fail leaves nothing behind that a failure would have to take back. -/
lemma Sure.clean (hm : Sure m) : Clean m := by
  intro s failure hfailure
  obtain ⟨a, ha⟩ := hm s
  rw [hfailure] at ha
  cases ha

/-- **Quiet steps in front of what is clean.** If they fail, nothing has happened; else the failure is that of the rest. -/
lemma Clean.bind (hm : Quiet m) (hf : ∀ a, Clean (f a)) : Clean (m >>= f) := by
  intro s failure hfailure
  obtain ⟨hdisk, hprinted⟩ := hm s
  rw [result_bind] at hfailure ⊢
  cases hr : m.result s with
  | mk r s' =>
      rw [hr] at hfailure hdisk hprinted
      cases r with
      | error _ => exact ⟨hdisk, hprinted⟩
      | ok a =>
          obtain ⟨hdisk', hprinted'⟩ := hf a s' failure hfailure
          exact ⟨hdisk'.trans hdisk, hprinted'.trans hprinted⟩

lemma result_printAll (lines : List String) (s : Session) :
    (printAll lines).result s = (.ok (), { s with printed := s.printed ++ lines }) := by
  induction lines generalizing s with
  | nil => rw [List.append_nil]; rfl
  | cons line lines ih =>
      rw [printAll, result_bind, result_print]
      dsimp only
      rw [ih, List.append_assoc, List.singleton_append]

lemma sure_printAll (lines : List String) : Sure (printAll lines) := fun s => ⟨(), by rw [result_printAll]⟩

lemma keeps_printAll (lines : List String) : Keeps (printAll lines) := fun s => by rw [result_printAll]

end Acting

/-! ### The commands -/

namespace Command

open Acting

/-- Once the settings can be saved, nothing fails any more. -/
lemma clean_init (o : InitOptions) : Clean (init o) := by
  refine .bind quiet_disk fun d => .bind (quiet_liftM _) fun s => .bind (quiet_liftM _) fun line => ?_
  refine .bind (quiet_liftM _) fun m => Sure.clean ?_
  exact (sure_save _).bind fun _ => sure_printAll _

lemma clean_showSettings : Clean showSettings :=
  .bind quiet_disk fun _ => .bind (quiet_liftM _) fun _ => .bind (quiet_liftM _) fun _ => (sure_printAll _).clean

lemma keeps_showSettings : Keeps showSettings :=
  .bind quiet_disk.keeps fun _ => .bind (quiet_liftM _).keeps fun _ => .bind (quiet_liftM _).keeps fun _ => keeps_printAll _

/-- An unknown format is found out before a parameter is printed. -/
lemma clean_printParams (format : String) (p : Request.Params) : Clean (printParams format p) := by
  rw [printParams]
  split
  · exact (sure_print _).clean
  · split
    · exact (sure_printAll _).clean
    · exact (quiet_throw _).clean

lemma keeps_printParams (format : String) (p : Request.Params) : Keeps (printParams format p) := by
  rw [printParams]
  split
  · exact keeps_print _
  · split
    · exact keeps_printAll _
    · exact (quiet_throw _).keeps

lemma clean_compile (o : CompileOptions) : Clean (compile o) :=
  .bind quiet_disk fun _ => .bind (quiet_liftM _) fun _ => clean_printParams _ _

lemma keeps_compile (o : CompileOptions) : Keeps (compile o) :=
  .bind quiet_disk.keeps fun _ => .bind (quiet_liftM _).keeps fun _ => keeps_printParams _ _

/-- Whether there is anything to list is found out before it is listed. -/
lemma clean_listProperties (file : String) (attr : Option String) : Clean (listProperties file attr) := by
  refine .bind quiet_disk fun d => .bind (quiet_liftM _) fun ps => ?_
  dsimp only
  split
  · cases attr with
    | none => exact (sure_print _).clean
    | some a => exact (quiet_throw _).clean
  · exact (sure_printAll _).clean

lemma keeps_listProperties (file : String) (attr : Option String) : Keeps (listProperties file attr) := by
  refine .bind quiet_disk.keeps fun d => .bind (quiet_liftM _).keeps fun ps => ?_
  dsimp only
  split
  · cases attr with
    | none => exact keeps_print _
    | some a => exact (quiet_throw _).keeps
  · exact keeps_printAll _

/-- **Every command checks before it acts.** -/
lemma clean_perform (invocation : Invocation) : Clean (perform invocation) := by
  cases invocation with
  | init o => exact clean_init o
  | showSettings => exact clean_showSettings
  | compile o => exact clean_compile o
  | listProperties file attr => exact clean_listProperties file attr

/-- **One command alone saves anything.** -/
lemma keeps_perform {invocation : Invocation} (h : ∀ o, invocation ≠ .init o) : Keeps (perform invocation) := by
  cases invocation with
  | init o => exact absurd rfl (h o)
  | showSettings => exact keeps_showSettings
  | compile o => exact keeps_compile o
  | listProperties file attr => exact keeps_listProperties file attr

end Command

/-! ### Runs -/

variable {log : LogChoice} {d : Disk} {args : List String}

/-- A run of a command leaves behind what the command leads to. -/
lemma run_of_ofArguments {invocation : Invocation} (h : Invocation.ofArguments args = .ok invocation) :
    run log d args = .ofResult log.choice ((Command.perform invocation).result { disk := d }) := by
  rw [run, h]
  rfl

/-- Where the arguments name no command, the disk stays, and the exit code is not that of a command that fails. -/
lemma run_of_stop {stop : Stop} (log : LogChoice) (d : Disk) (h : Invocation.ofArguments args = .error stop) :
    (run log d args).exit ≠ 1 ∧ (run log d args).disk = d := by
  rw [run, h]
  cases stop <;> exact ⟨by simp, rfl⟩

/-- **A run that fails leaves no trace, and a run that changes the disk has saved settings.** Whatever the arguments are, and
whatever is on the disk, with the settings missing, unreadable or a directory: a command that fails has printed nothing and left the
disk as it was, and only one that is to save settings, and succeeds, leaves another disk. -/
theorem run_failed_or_changed (log : LogChoice) (d : Disk) (args : List String) :
    ((run log d args).exit = 1 → (run log d args).output = "" ∧ (run log d args).disk = d)
      ∧ ((run log d args).disk ≠ d →
          (run log d args).exit = 0 ∧ ∃ o, Invocation.ofArguments args = .ok (.init o)) := by
  cases hargs : Invocation.ofArguments args with
  | error stop =>
      obtain ⟨hexit, hdisk⟩ := run_of_stop log d hargs
      exact ⟨fun h => absurd h hexit, fun h => absurd hdisk h⟩
  | ok invocation =>
      have hclean := Command.clean_perform invocation { disk := d }
      rw [run_of_ofArguments hargs]
      cases hresult : (Command.perform invocation).result { disk := d } with
      | mk r s =>
          rw [hresult] at hclean
          cases r with
          | error failure =>
              obtain ⟨hdisk, hprinted⟩ := hclean failure rfl
              dsimp only at hdisk hprinted
              refine ⟨fun _ => ⟨?_, hdisk⟩, fun h => absurd hdisk h⟩
              rw [Outcome.ofResult, hprinted]
              rfl
          | ok u =>
              refine ⟨fun h => absurd h (by simp [Outcome.ofResult]), fun h => ⟨rfl, ?_⟩⟩
              by_contra hinit
              have hkeeps := Command.keeps_perform (fun o heq => hinit ⟨o, congrArg Except.ok heq⟩) { disk := d }
              rw [hresult] at hkeeps
              exact h hkeeps

/-- A version that cannot be read is found out before anything is saved; one that can be read is saved. -/
theorem run_failed_or_changed_init :
    (run {} { root := "/srv" } ["init", "-s", "banana"]).exit = 1
      ∧ (run {} { root := "/srv" } ["init", "-s", "banana"]).disk = { root := "/srv" }
      ∧ (run {} { root := "/srv" } ["init", "-s", "21"]).disk ≠ { root := "/srv" }
      ∧ (run {} { root := "/srv" } ["init", "-s", "21"]).exit = 0 := by
  have hfails : (run {} { root := "/srv" } ["init", "-s", "banana"]).exit = 1 := by decide +kernel
  have hsaves : (run {} { root := "/srv" } ["init", "-s", "21"]).disk ≠ { root := "/srv" } := by decide +kernel
  exact ⟨hfails, ((run_failed_or_changed _ _ _).1 hfails).2, hsaves, ((run_failed_or_changed _ _ _).2 hsaves).1⟩

end MonitorQuery.Cli
