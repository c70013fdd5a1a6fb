import ProcTrace.Launcher.Basic
import ProcTrace.Proofs.Settings.Beside
import ProcTrace.Proofs.Settings.Precedence

/-!
# What the end of the launcher is due to

Whoever starts the launcher sees two things of it: how it ends, and the output of the program. Both
should be **due** to the program alone (`due`): what the configuration says, whether it can be
loaded, where the service is, what it replies and what the log shows should have no part in them.

This is so if the launcher **can trace** (`Context.CanTrace`), and only then. Where the loading of
the configuration crashes, or no client can be made, the launcher ends without having started the
program. It is an index in a name that crashes a launcher (`canTrace_of_isUnindexed`): a single
variable with one too large is enough (`not_due_of_farVariable`). The main statement, `end_of_run`,
says for every end of a program which code it is that runs have in common.
-/

namespace ProcTrace.Launcher

open Settings (Environment exists_loadFrom fileLayer fileLayer_of_contents_eq_nil
  loadFrom_of_fileLayer_eq_nil)

/-- What starting a program comes to, for every program and its arguments. -/
abbrev Starter := String → List String → Except StartFailure Child

/-- What is seen of a run from outside. -/
def Run.seen (r : Run) : ExitStatus × List Char :=
  (r.status, r.output)

/-- The end and the output that are due to the program, and to it alone. -/
def due (start : Starter) : List String → ExitStatus × List Char
  | [] => (.code 0, [])
  | program :: rest =>
    match start program rest with
    | .error _ => (.code notStartedCode, [])
    | .ok child => (.code (exitCodeOf child.status), child.output)

/-- The launcher **can trace**: its configuration does not crash it, and it can have a client. -/
structure Context.CanTrace (x : Context) : Prop where
  loads : ∃ loaded, Settings.load x.room x.host = .ok loaded
  client : x.clientFailure? = none

section

variable {x : Context}

/-- Without an index in the names of the configuration the launcher is not crashed by it. -/
theorem canTrace_of_isUnindexed (hclient : x.clientFailure? = none)
    (hfile : ∀ l, fileLayer x.host.files (Settings.configPath x.host) = .ok l → l.IsUnindexed)
    (henv : x.host.environment.IsUnindexed) : x.CanTrace :=
  ⟨exists_loadFrom hfile henv, hclient⟩

/-! ### Runs that trace -/

/-- A program that cannot be started has nothing to show but the code that says so. -/
private theorem due_of_error {start : Starter} {program : String} {rest : List String}
    {f : StartFailure} (h : start program rest = .error f) :
    due start (program :: rest) = (.code notStartedCode, []) := by
  simp only [due, h]

/-- A program that was started is due its own end and its own output. -/
private theorem due_of_ok {start : Starter} {program : String} {rest : List String} {child : Child}
    (h : start program rest = .ok child) :
    due start (program :: rest) = (.code (exitCodeOf child.status), child.output) := by
  simp only [due, h]

/-- Tracing a program adds nothing to what is due to it, whatever becomes of the requests. -/
private theorem runTraced_seen (c : Client) (program : String) (rest : List String) :
    (runTraced x c program rest).seen = due x.start (program :: rest) := by
  cases h : x.start program rest with
  | error f => simp only [runTraced, Run.seen, due, h]
  | ok child => simp only [runTraced, Run.seen, due, h]

/-- The launcher on its own ends well, whatever is entered and whatever becomes of the requests. -/
private theorem traceSelf_seen (c : Client) : (traceSelf x c).seen = due x.start [] := by
  simp only [traceSelf, Run.seen, due]

/-- Once something has been loaded, nothing but what is reported depends on what it was. -/
private theorem run_seen_of_load {loaded : Except Settings.Fault TracerConfig}
    (h : Settings.load x.room x.host = .ok loaded) (args : List String) :
    (run x args).seen = (runConfigured x (configure loaded).1 args).seen := by
  simp only [run, h, Run.seen]

/-- **A launcher that can trace shows what is due**, whatever the configuration comes to. -/
theorem run_seen_of_canTrace (h : x.CanTrace) (args : List String) :
    (run x args).seen = due x.start args := by
  obtain ⟨loaded, hload⟩ := h.loads
  rw [run_seen_of_load hload]
  simp only [runConfigured, h.client]
  cases args with
  | nil => exact traceSelf_seen _
  | cons program rest => exact runTraced_seen _ program rest

/-! ### Runs that do not -/

/-- A crash is the end of the run, of which nothing else is seen. -/
theorem run_of_crash {crash : Settings.Crash} (h : Settings.load x.room x.host = .error crash)
    (args : List String) : run x args = ⟨crashStatus crash, [], [], []⟩ := by
  simp only [run, h]

/-- Without a client nothing is done but to report that. -/
theorem run_of_noClient {loaded : Except Settings.Fault TracerConfig} {f : Http.Failure}
    (hload : Settings.load x.room x.host = .ok loaded) (hclient : x.clientFailure? = some f)
    (args : List String) : run x args = ⟨.code ExitStatus.failureCode, [], [],
      (configure loaded).2 ++ [.noClient (.http f)]⟩ := by
  simp only [run, hload, runConfigured, hclient]

/-- A launcher that cannot trace is crashed, or has no client. -/
theorem cases_of_not_canTrace (h : ¬ x.CanTrace) :
    (∃ crash, Settings.load x.room x.host = .error crash) ∨
      ∃ loaded f, Settings.load x.room x.host = .ok loaded ∧ x.clientFailure? = some f := by
  cases hload : Settings.load x.room x.host with
  | error crash => exact .inl ⟨crash, rfl⟩
  | ok loaded =>
    cases hclient : x.clientFailure? with
    | none => exact absurd ⟨⟨loaded, hload⟩, hclient⟩ h
    | some f => exact .inr ⟨loaded, f, rfl, rfl⟩

/-- A crash is no good end. -/
private theorem crashStatus_ne_zero (crash : Settings.Crash) : crashStatus crash ≠ .code 0 := by
  cases crash <;> simp [crashStatus, panicCode]

/-- **A launcher that cannot trace does not show what is due**: without a program it should end
well. -/
theorem run_seen_ne_due (h : ¬ x.CanTrace) : (run x []).seen ≠ due x.start [] := by
  obtain ⟨crash, hload⟩ | ⟨loaded, f, hload, hclient⟩ := cases_of_not_canTrace h
  · rw [run_of_crash hload]
    exact fun heq => crashStatus_ne_zero crash (congrArg Prod.fst heq)
  · rw [run_of_noClient hload hclient]
    intro heq
    have hcode : ExitStatus.code ExitStatus.failureCode = .code 0 := congrArg Prod.fst heq
    simp [ExitStatus.failureCode] at hcode

end

/-! ### The main statement -/

/-- How a run of the launcher ends. -/
structure EndOfRun (x : Context) : Prop where
  /-- What is seen is due to the program alone, exactly if the launcher can trace. -/
  due_iff : (∀ args, (run x args).seen = due x.start args) ↔ x.CanTrace
  /-- Two runs that trace, and in which the same programs can be started, end alike, whatever else
  they are started in: the network, the configuration, the environment, the input and the
  replies. -/
  alike (y : Context) (hstart : x.start = y.start) (hx : x.CanTrace) (hy : y.CanTrace)
    (args : List String) :
    (run x args).status = (run y args).status ∧ (run x args).output = (run y args).output
  /-- Without a program the launcher ends well. -/
  alone (hx : x.CanTrace) : (run x []).status = .code 0
  /-- If the program cannot be started, there is a code that says so. -/
  notStarted (hx : x.CanTrace) (program : String) (rest : List String) (f : StartFailure)
    (hstart : x.start program rest = .error f) : (run x (program :: rest)).status = .code 127
  /-- A program that was started decides with its code, and every other end of it is a failure. -/
  started (hx : x.CanTrace) (program : String) (rest : List String) (child : Child)
    (hstart : x.start program rest = .ok child) :
    (run x (program :: rest)).output = child.output ∧
      (∀ n, child.status = .ok (.code n) → (run x (program :: rest)).status = .code n) ∧
      (∀ n, child.status = .ok (.signal n) → (run x (program :: rest)).status = .code 1) ∧
      ∀ f, child.status = .error f → (run x (program :: rest)).status = .code 1
  /-- A crash comes before everything else. -/
  crashed (crash : Settings.Crash) (hload : Settings.load x.room x.host = .error crash)
    (args : List String) : run x args = ⟨crashStatus crash, [], [], []⟩
  /-- Without a client, too, the program is not started. -/
  noClient (hload : ∃ loaded, Settings.load x.room x.host = .ok loaded)
    (hclient : x.clientFailure? ≠ none) (args : List String) :
    (run x args).status = .code 1 ∧ (run x args).output = [] ∧ (run x args).turns = []
  /-- No configuration crashes the launcher that has no index in its names. -/
  canTrace (hclient : x.clientFailure? = none)
    (hfile : ∀ l, fileLayer x.host.files (Settings.configPath x.host) = .ok l → l.IsUnindexed)
    (henv : x.host.environment.IsUnindexed) : x.CanTrace

/-- **Tracing never changes the end of a launcher that can trace**, and no other launcher shows what
is due to the program. -/
theorem end_of_run (x : Context) : EndOfRun x where
  due_iff := by
    refine ⟨fun hdue => ?_, run_seen_of_canTrace⟩
    by_contra h
    exact run_seen_ne_due h (hdue [])
  alike y hstart hx hy args := by
    have hseen : (run x args).seen = (run y args).seen := by
      rw [run_seen_of_canTrace hx, run_seen_of_canTrace hy, hstart]
    exact Prod.mk.inj hseen
  alone hx := congrArg Prod.fst (run_seen_of_canTrace hx [])
  notStarted hx program rest f hstart := by
    have hseen := run_seen_of_canTrace hx (program :: rest)
    rw [due_of_error hstart] at hseen
    exact congrArg Prod.fst hseen
  started hx program rest child hstart := by
    have hseen := run_seen_of_canTrace hx (program :: rest)
    rw [due_of_ok hstart] at hseen
    obtain ⟨hstatus, houtput⟩ := Prod.mk.inj hseen
    refine ⟨houtput, fun n hn => ?_, fun n hn => ?_, fun f hf => ?_⟩
    · rw [hstatus, hn]
      rfl
    · rw [hstatus, hn]
      rfl
    · rw [hstatus, hf]
      rfl
  crashed crash hload args := run_of_crash hload args
  noClient := by
    rintro ⟨loaded, hload⟩ hclient args
    obtain ⟨f, hf⟩ := Option.ne_none_iff_exists'.mp hclient
    rw [run_of_noClient hload hf]
    exact ⟨rfl, rfl, rfl⟩
  canTrace := canTrace_of_isUnindexed

/-- A machine on which a signal ends every program. -/
def killing : Starter := fun _ _ => .ok ⟨7, ['>'], .ok (.signal 9)⟩

/-- A run without files in which the service answers. -/
def contextWith (env : Environment) (start : Starter) : Context :=
  ⟨.addressable, none, .service, ⟨⟨[], []⟩, env, "/root"⟩, 41, [], [], start⟩

/-- A machine on which every program does well. -/
def succeeding : Starter := fun _ _ => .ok ⟨7, [], .ok (.code 0)⟩

/-- A run in which no request gets through, the URL is of no use and the input is no text. -/
def disturbed : Context :=
  { contextWith [("WRITE_TRACER_SERVICE_URL", "no url"), ("RUST_LOG", "trace")] killing with
    net := .down, input := [0xFF], replies := [{ status := 500 }] }

/-- Without files there is no index in a file. -/
theorem unindexed_of_contents_eq_nil {fs : Settings.Files} (h : fs.contents = [])
    {path : String} (l : Settings.Layer) (hl : fileLayer fs path = .ok l) : l.IsUnindexed := by
  rw [fileLayer_of_contents_eq_nil h, Except.ok.injEq] at hl
  subst hl
  exact List.forall_mem_nil _

/-- Nothing and nobody keeps these two launchers from ending as the program did. -/
theorem end_of_run_killing :
    (contextWith [] killing).CanTrace ∧ disturbed.CanTrace ∧
      (run (contextWith [] killing) ["sleep", "9"]).status = (run disturbed ["sleep", "9"]).status ∧
      (run (contextWith [] killing) ["sleep", "9"]).output =
        (run disturbed ["sleep", "9"]).output ∧
      (run disturbed ["sleep", "9"]).status = .code 1 ∧
      (run disturbed ["sleep", "9"]).output = ['>'] := by
  have hx : (contextWith [] killing).CanTrace :=
    (end_of_run _).canTrace rfl (unindexed_of_contents_eq_nil rfl) (List.forall_mem_nil _)
  have hy : disturbed.CanTrace := by
    refine (end_of_run _).canTrace rfl (unindexed_of_contents_eq_nil rfl) ?_
    unfold Environment.IsUnindexed
    decide
  obtain ⟨hstatus, houtput⟩ :=
    (end_of_run (contextWith [] killing)).alike disturbed rfl hx hy ["sleep", "9"]
  obtain ⟨houtput', -, hsignal, -⟩ :=
    (end_of_run disturbed).started hy "sleep" ["9"] ⟨7, ['>'], .ok (.signal 9)⟩ rfl
  exact ⟨hx, hy, hstatus, houtput, hsignal 9 rfl, houtput'⟩

/-- A variable whose name has the largest index but one. -/
def farVariable : String × String :=
  ("WRITE_TRACER_A[9223372036854775806]", "x")

/-- There is no room for a list of this length. -/
theorem load_farVariable (start : Starter) :
    Settings.load (contextWith [farVariable] start).room (contextWith [farVariable] start).host =
      .error .panic := by
  rw [Settings.load, loadFrom_of_fileLayer_eq_nil (fileLayer_of_contents_eq_nil rfl _)]
  change Settings.configWithout .addressable [farVariable] = .error .panic
  decide +kernel

/-- **A single variable changes the end of the launcher**: of two runs in which the same programs
can be started, and that differ in nothing but a variable that is not about the service, one ends as
the program did, and the other with the code of a panic, without the program having been started. -/
theorem not_due_of_farVariable :
    (run (contextWith [] succeeding) ["true"]).status = .code 0 ∧
      (run (contextWith [farVariable] succeeding) ["true"]).status = .code 101 ∧
      (run (contextWith [farVariable] succeeding) ["true"]).seen ≠ due succeeding ["true"] := by
  have hx : (contextWith [] succeeding).CanTrace :=
    canTrace_of_isUnindexed rfl (unindexed_of_contents_eq_nil rfl) (List.forall_mem_nil _)
  refine ⟨congrArg Prod.fst (run_seen_of_canTrace hx ["true"]), ?_, ?_⟩
  · rw [run_of_crash (load_farVariable succeeding)]
    rfl
  · rw [run_of_crash (load_farVariable succeeding)]
    exact fun heq => crashStatus_ne_zero .panic (congrArg Prod.fst heq)

end ProcTrace.Launcher
