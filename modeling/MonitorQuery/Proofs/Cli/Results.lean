import MonitorQuery.Proofs.Cli.Actions
import MonitorQuery.Proofs.Computation

/-!
Results without the log.

What a computation gives does not depend on the events that were noted before it. So it can be told from computations that note
nothing, step by step.

* `Logged.value`: what a computation gives, the events aside; `Logged.Steady`: it gives the same whatever was noted before.
* `Logged.value_bind`: **steps give what the second gives for what the first gives.**
* `Command.value_requested`: the parameters that a command line asks for, from those of its parts.
* `Acting.result_liftM_bind`, `Command.result_compile`: what an action leads to, from the values.
* `Command.compiled`: the lines that a command line asks for; `shows_run`: **a run that compiles a filter shows them.**
-/

namespace MonitorQuery.Cli

open MonitorQuery.Server MonitorQuery.Query

namespace Logged

variable {α β ε : Type}

/-- What a computation gives where no event was noted before it. -/
def value (m : Logged α) : Except Failure α := (m.run.run []).1

/-- It gives the same whatever was noted before it. -/
def Steady (m : Logged α) : Prop := ∀ events, (m.run.run events).1 = m.value

/-- Computations in two steps. The second is only taken if the first has succeeded. -/
lemma run_run_bind (m : Logged α) (f : α → Logged β) (events : List Log.Event) :
    (m >>= f).run.run events = match m.run.run events with
      | (.ok a, events) => (f a).run.run events
      | (.error failure, events) => (.error failure, events) := by
  have hstep : (m >>= f).run.run events
      = (ExceptT.bindCont (fun a => f a) (m.run.run events).1).run (m.run.run events).2 := rfl
  rw [hstep]
  generalize m.run.run events = r
  obtain ⟨r, _⟩ := r
  cases r <;> rfl

variable {m : Logged α} {f : α → Logged β}

lemma steady_pure (a : α) : Steady (pure a : Logged α) := fun _ => rfl

lemma steady_throw (failure : Failure) : Steady (throw failure : Logged α) := fun _ => rfl

lemma steady_note (e : Log.Event) : Steady (note e) := fun _ => rfl

lemma steady_ofExcept (reason : ε → Failure) (x : Except ε α) : Steady (ofExcept reason x) := by
  cases x <;> exact fun _ => rfl

lemma steady_ofOption (reason : Failure) (o : Option α) : Steady (ofOption reason o) := by
  cases o <;> exact fun _ => rfl

lemma value_ofExcept (reason : ε → Failure) (x : Except ε α) : (ofExcept reason x).value = x.mapError reason := by
  cases x <;> rfl

/-- What is left of a step behind another, from any events. -/
lemma fst_run_run_bind (hm : Steady m) (hf : ∀ a, Steady (f a)) (events : List Log.Event) :
    ((m >>= f).run.run events).1 = m.value >>= fun a => (f a).value := by
  have hvalue := hm events
  rw [run_run_bind]
  generalize m.run.run events = r at hvalue
  obtain ⟨r, events'⟩ := r
  obtain rfl : r = m.value := hvalue
  cases m.value with
  | error failure => rfl
  | ok a => exact hf a events'

/-- **Steps give what the second gives for what the first gives.** -/
lemma value_bind (hm : Steady m) (hf : ∀ a, Steady (f a)) : (m >>= f).value = m.value >>= fun a => (f a).value :=
  fst_run_run_bind hm hf []

lemma Steady.bind (hm : Steady m) (hf : ∀ a, Steady (f a)) : Steady (m >>= f) :=
  fun events => (fst_run_run_bind hm hf events).trans (value_bind hm hf).symm

lemma steady_mapM {f : α → Logged β} (hf : ∀ a, Steady (f a)) (as : List α) : Steady (as.mapM f) := by
  induction as with
  | nil => exact steady_pure []
  | cons a as ih =>
      rw [List.mapM_cons]
      exact (hf a).bind fun _ => ih.bind fun _ => steady_pure _

end Logged

/-! ### The computations of the commands -/

namespace Command

open Logged

lemma steady_settings (d : Disk) : Steady (settings d) := by
  rw [settings]
  split
  · exact steady_pure _
  · exact (steady_ofExcept _ _).bind fun _ => steady_ofOption _ _

lemma steady_noteQualifier (v : Version) : Steady (noteQualifier v) := by
  rw [noteQualifier]
  split
  · exact steady_note _
  · exact steady_pure _

lemma value_noteQualifier (v : Version) : (noteQualifier v).value = .ok () := by
  rw [noteQualifier]
  split <;> rfl

lemma steady_metadata (s : Settings) : Steady (metadata s) :=
  (steady_ofExcept _ _).bind fun _ => (steady_noteQualifier _).bind fun _ => steady_pure _

/-- A qualifier that is dropped is noted, and changes nothing. -/
lemma value_metadata (s : Settings) : (metadata s).value = s.metadata.mapError .version := by
  rw [metadata, value_bind (steady_ofExcept _ _) fun _ => (steady_noteQualifier _).bind fun _ => steady_pure _,
    value_ofExcept]
  cases s.metadata with
  | error e => rfl
  | ok m =>
      show ((noteQualifier m.version) >>= fun _ => pure m).value = .ok m
      rw [value_bind (steady_noteQualifier _) fun _ => steady_pure _, value_noteQualifier]
      rfl

lemma steady_api (d : Disk) (s : Settings) (o : Option String) : Steady (api d s o) := by
  cases o with
  | some number => exact steady_ofOption _ _
  | none =>
      rw [api]
      split
      · exact (steady_metadata _).bind fun _ => steady_pure _
      · exact steady_throw _

lemma steady_order (name : String) : Steady (order name) := steady_ofOption _ _

lemma steady_sortKey (usual : Order) (key : String) : Steady (sortKey usual key) := by
  rw [sortKey]
  split
  · exact steady_pure _
  · exact (steady_order _).bind fun _ => steady_pure _

lemma steady_filter (s : Settings) (o : CompileOptions) : Steady (filter s o) :=
  (steady_ofExcept _ _).bind fun _ => (steady_order _).bind fun _ =>
    (steady_mapM (steady_sortKey _) _).bind fun _ => steady_pure _

lemma steady_properties (d : Disk) (path : String) : Steady (properties d path) :=
  (steady_ofExcept _ _).bind fun _ => steady_ofExcept _ _

lemma steady_givenProperties (d : Disk) (o : Option String) : Steady (givenProperties d o) := by
  cases o with
  | none => exact steady_pure _
  | some path => exact steady_properties d path

lemma steady_noteUnused (api : Api) (ps : List Property) : Steady (noteUnused api ps) := by
  rw [noteUnused]
  split
  · exact steady_note _
  · exact steady_pure _

lemma value_noteUnused (api : Api) (ps : List Property) : (noteUnused api ps).value = .ok () := by
  rw [noteUnused]
  split <;> rfl

lemma steady_params (api : Api) (ps : List Property) (f : Filter) : Steady (params api ps f) := by
  refine (steady_note _).bind fun _ => ?_
  cases Request.compile api ps f with
  | ok p => exact steady_pure _
  | error r => exact (steady_note _).bind fun _ => steady_throw _

lemma value_params (api : Api) (ps : List Property) (f : Filter) :
    (params api ps f).value = (Request.compile api ps f).mapError .rejected := by
  rw [params]
  cases Request.compile api ps f <;> rfl

/-- **The parameters that are asked for**, from the settings, the interface, the filter and the properties. -/
lemma value_requested (d : Disk) (o : CompileOptions) :
    (requested d o).value
      = (settings d).value >>= fun s => (api d s o.api).value >>= fun api => (filter s o).value >>= fun f =>
          (givenProperties d o.properties).value >>= fun ps => (Request.compile api ps f).mapError .rejected := by
  have hparams : ∀ api ps f, Steady (noteUnused api ps >>= fun _ => params api ps f) :=
    fun api ps f => (steady_noteUnused api ps).bind fun _ => steady_params api ps f
  have hproperties : ∀ api f, Steady (givenProperties d o.properties >>= fun ps => noteUnused api ps >>= fun _ => params api ps f) :=
    fun api f => (steady_givenProperties d _).bind fun ps => hparams api ps f
  rw [requested, value_bind (steady_settings d) fun s => (steady_api d s _).bind fun api =>
    (steady_filter s o).bind fun f => hproperties api f]
  refine congrArg _ (funext fun s => ?_)
  rw [value_bind (steady_api d s _) fun api => (steady_filter s o).bind fun f => hproperties api f]
  refine congrArg _ (funext fun api => ?_)
  rw [value_bind (steady_filter s o) fun f => hproperties api f]
  refine congrArg _ (funext fun f => ?_)
  rw [value_bind (steady_givenProperties d _) fun ps => hparams api ps f]
  refine congrArg _ (funext fun ps => ?_)
  rw [value_bind (steady_noteUnused api ps) fun _ => steady_params api ps f, value_noteUnused, ok_bind, value_params]

lemma steady_requested (d : Disk) (o : CompileOptions) : Steady (requested d o) :=
  (steady_settings d).bind fun _ => (steady_api d _ _).bind fun _ => (steady_filter _ o).bind fun _ =>
    (steady_givenProperties d _).bind fun _ => (steady_noteUnused _ _).bind fun _ => steady_params _ _ _

end Command

/-! ### Actions -/

/-- Behind a computation that notes events an action goes on with what that gives, if it gives anything. -/
lemma Acting.result_liftM_bind {α β : Type} {m : Logged α} (hm : m.Steady) (f : α → Acting β) (s : Session) :
    (liftM m >>= f).result s = match m.value with
      | .ok a => (f a).result { s with events := (m.run.run s.events).2 }
      | .error failure => (.error failure, { s with events := (m.run.run s.events).2 }) := by
  rw [result_bind, result_liftM, hm s.events]
  cases m.value <;> rfl

/-- **A filter is compiled and then printed**, if it can be. -/
lemma Command.result_compile (o : CompileOptions) (s : Session) :
    (compile o).result s = match (requested s.disk o).value with
      | .ok p => (printParams o.format p).result { s with events := ((requested s.disk o).run.run s.events).2 }
      | .error failure => (.error failure, { s with events := ((requested s.disk o).run.run s.events).2 }) := by
  rw [compile, Acting.result_bind, Acting.result_disk]
  refine (Acting.result_liftM_bind (steady_requested s.disk o) _ s).trans ?_
  cases (requested s.disk o).value <;> rfl

/-! ### What is printed -/

/-- The lines of parameters in a format, if there is such a format. -/
def Command.formatted (format : String) (p : Request.Params) : Except Failure (List String) :=
  if format = "json" then .ok [p.toJson.pretty]
  else if format = "query" then .ok (p.pairs.map paramLine)
  else .error (.unknownFormat format)

/-- Parameters are printed as their lines. -/
lemma Command.result_printParams (format : String) (p : Request.Params) (s : Session) :
    (printParams format p).result s = match formatted format p with
      | .ok lines => (.ok (), { s with printed := s.printed ++ lines })
      | .error failure => (.error failure, s) := by
  rw [printParams, formatted]
  split
  · rfl
  · split
    · exact Acting.result_printAll _ s
    · rfl

/-- The lines that a command line asks for. -/
def Command.compiled (d : Disk) (o : CompileOptions) : Except Failure (List String) :=
  (requested d o).value >>= formatted o.format

/-- **A filter is compiled to lines**, and nothing is saved. -/
lemma Command.exists_result_compile (d : Disk) (o : CompileOptions) :
    ∃ events, (compile o).result { disk := d } = match compiled d o with
      | .ok lines => (.ok (), { disk := d, printed := lines, events := events })
      | .error failure => (.error failure, { disk := d, events := events }) := by
  refine ⟨((requested d o).run.run []).2, ?_⟩
  rw [result_compile, compiled]
  cases (requested d o).value with
  | error failure => rfl
  | ok p =>
      rw [ok_bind]
      dsimp only
      rw [result_printParams]
      cases formatted o.format p <;> rfl

/-- A run shows lines and succeeds, or it shows none, fails and says why. -/
def Outcome.Shows (out : Outcome) : Except Failure (List String) → Prop
  | .ok lines => out.exit = 0 ∧ out.output = linesText lines
  | .error failure =>
    out.exit = 1 ∧ out.output = "" ∧ ∃ logged, out.complaints = logged ++ linesText ["Error: " ++ failure.message]

/-- **A run that compiles a filter shows the lines that it is asked for**, and leaves the disk as it is. -/
lemma shows_run (log : LogChoice) (d : Disk) {args : List String} {o : CompileOptions}
    (hargs : Invocation.ofArguments args = .ok (.compile o)) :
    (run log d args).Shows (Command.compiled d o) ∧ (run log d args).disk = d := by
  obtain ⟨events, hresult⟩ := Command.exists_result_compile d o
  rw [run_of_ofArguments hargs, Command.perform, hresult]
  cases Command.compiled d o with
  | ok lines => exact ⟨⟨rfl, rfl⟩, rfl⟩
  | error failure => exact ⟨⟨rfl, rfl, _, rfl⟩, rfl⟩

end MonitorQuery.Cli
