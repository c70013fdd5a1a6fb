import ProcTrace.Proofs.Client.Supply
import ProcTrace.Proofs.Launcher.ExitCode

/-!
# The launcher does what a short program of its client does

What a service sees of the launcher, and what the client reports of it in the log, is that of a
**script** (`script`): of a program that was started, a registration and an unregistration; without
a program to start, a session in which nothing is done. The script is run by a client of the URL
that the launcher finds in its configuration, and its steps are given the replies that the launcher
has, in their order.

The main statement, `script_of_run`, says for which runs this is so: those of a launcher that can
trace, and those in which there is nothing to trace, since the program cannot be started. It does
not matter whether the registration succeeds, how the program ends, what is entered, and whether
the configuration is a fault. A launcher that is crashed by its configuration, or has no client,
sends nothing.
-/

namespace ProcTrace.Launcher

open Client (Program)
open Http (AnsweredFrom)

/-! ### The script -/

/-- The URL under which the launcher should look for the service: the one of the configuration, or
the default one if there is no configuration to be had. -/
def serviceUrl (room : Settings.Room) (host : Settings.Host) : String :=
  match Settings.load room host with
  | .ok (.ok config) => config.service.url
  | _ => defaultServiceUrl

/-- The program of the client that the launcher amounts to, without any replies. -/
def script (start : Starter) : List String → Program
  | [] => .scope ⟨.session, false, [], []⟩ .finish .finish
  | program :: rest =>
    match start program rest with
    | .ok child => .call (.register (some child.pid)) []
        (.call (.unregister (some child.pid)) [] .finish)
    | .error _ => .finish

/-- The client of the service that the configuration names. -/
def Context.client (x : Context) : Client :=
  .new (serviceUrl x.room x.host) x.ownPid

/-- The run of the script on the supply of replies that the launcher has. -/
def scriptRun (x : Context) (args : List String) : Client.Run :=
  ((script x.start args).supplied x.net x.client x.replies).1.run x.net x.client

/-! ### The log of the client -/

/-- What the client reports, among all that is reported. -/
def Event.byClient? : Event → Option Client.Event
  | .client e => some e
  | _ => none

/-- The part of the program that the client is. -/
def clientTarget : String := "write_tracer_client::client"

/-- The lines of a log that are about what the client reports. -/
def clientLines (log : List Line) : List Line :=
  log.filter (·.target = clientTarget)

private theorem byClient?_eq_some {e : Event} {e' : Client.Event} (h : e.byClient? = some e') :
    e = .client e' := by
  cases e <;> cases h
  rfl

/-- All of what the client reports is by the client. -/
@[simp] theorem filterMap_byClient (es : List Client.Event) :
    (es.map Event.client).filterMap Event.byClient? = es := by
  rw [List.filterMap_map]
  exact List.filterMap_some

private theorem target_of_byClient {e : Event} (h : e.byClient? = none) :
    e.target ≠ clientTarget := by
  cases e with
  | client e => cases h
  | _ => simp only [Event.target, clientTarget, ne_eq, String.reduceEq, not_false_eq_true]

/-- **The log shows what the client reports**, in its order and as far as the filter lets it
through. -/
theorem clientLines_log (r : Run) (filter : Log.Filter) :
    clientLines (r.log filter) =
      ((r.events.filterMap Event.byClient?).filter (filter.shows clientTarget ·.level)).map
        fun e => (Event.client e).line := by
  simp only [Run.log, clientLines]
  -- The log filters first and then keeps the lines of the client; the other order comes to the
  -- same, since it is the target of an event that both go by.
  induction r.events with
  | nil => rfl
  | cons e es ih =>
    cases h : e.byClient? with
    | none =>
      rw [List.filterMap_cons_none h, ← ih, List.filter_cons]
      split
      · rw [List.map_cons, List.filter_cons_of_neg]
        simpa [Event.line] using target_of_byClient h
      · rfl
    | some e' =>
      obtain rfl : e = .client e' := byClient?_eq_some h
      rw [List.filterMap_cons_some h, List.filter_cons, List.filter_cons]
      split
      · rw [if_pos ‹_›, List.map_cons, List.map_cons, ← ih, List.filter_cons_of_pos]
        rfl
      · rw [if_neg ‹_›, ih]

/-- The default filter lets everything through that the client reports. -/
private theorem shows_default (level : Level) :
    Log.Filter.default.shows clientTarget level = true := by
  cases level <;> rfl

/-! ### The launcher -/

/-- The launcher looks for the service under the URL of the configuration. -/
private theorem configure_url {x : Context} {loaded : Except Settings.Fault TracerConfig}
    (h : Settings.load x.room x.host = .ok loaded) :
    Client.new (configure loaded).1.service.url x.ownPid = x.client := by
  simp only [Context.client, serviceUrl, h]
  cases loaded <;> rfl

/-- The client has no part in the configuration. -/
private theorem configure_byClient (loaded : Except Settings.Fault TracerConfig) :
    (configure loaded).2.filterMap Event.byClient? = [] := by
  cases loaded <;> rfl

/-- The client does not report the end of a program. -/
private theorem endEvent_byClient (program : String) (status : Except WaitFailure ExitStatus) :
    (endEvent program status).byClient? = none := by
  cases status <;> rfl

/-- A program that was started is registered and unregistered, and the client does nothing else. -/
private theorem runTraced_script {x : Context} {program : String} {rest : List String}
    {child : Child} (h : x.start program rest = .ok child) (c : Client) :
    let r := ((script x.start (program :: rest)).supplied x.net c x.replies).1.run x.net c
    (runTraced x c program rest).turns = r.allTurns ∧
      (runTraced x c program rest).events.filterMap Event.byClient? = r.allEvents := by
  simp only [runTraced, script, h, Program.supplied, Client.Run.allTurns, Client.Run.allEvents]
  constructor
  · simp [Program.run, Client.perform, Client.Note.ofReport]
  · have huntraced : (if (c.register x.net (some child.pid) x.replies).2.result then []
        else [Event.untraced program child.pid]).filterMap Event.byClient? = [] := by
      split <;> rfl
    simp only [List.filterMap_append, filterMap_byClient, huntraced]
    simp [Program.run, Client.perform, Client.Note.ofReport, endEvent_byClient]

/-- Without a program the launcher does what a session does. -/
private theorem traceSelf_script (x : Context) (c : Client) :
    let r := ((script x.start []).supplied x.net c x.replies).1.run x.net c
    (traceSelf x c).turns = r.allTurns ∧
      (traceSelf x c).events.filterMap Event.byClient? = r.allEvents := by
  simp only [traceSelf, script, Program.supplied, Client.Run.allTurns, Client.Run.allEvents,
    Client.Scope.escaping?, Program.run, Client.enter, Client.exit, Client.Note.ofReport]
  constructor
  · simp
  · have hunreadable : (if isReadable x.input then []
        else [Event.unreadableInput]).filterMap Event.byClient? = [] := by
      split <;> rfl
    simp only [List.filterMap_append, filterMap_byClient, hunreadable]
    simp [List.filterMap_cons, Event.byClient?]

/-- **What a service sees of a launcher that can trace is what it sees of the script**, and the
client reports the same in both. -/
theorem run_script {x : Context} (h : x.CanTrace) (args : List String) :
    (run x args).turns = (scriptRun x args).allTurns ∧
      (run x args).events.filterMap Event.byClient? = (scriptRun x args).allEvents := by
  obtain ⟨loaded, hload⟩ := h.loads
  simp only [run, hload, runConfigured, h.client, configure_url hload, List.filterMap_append,
    configure_byClient, List.nil_append, scriptRun]
  cases args with
  | nil => exact traceSelf_script x _
  | cons program rest =>
    cases h : x.start program rest with
    | ok child => exact runTraced_script h _
    | error f =>
      simp only [runTraced, script, h]
      exact ⟨rfl, rfl⟩

/-- **A launcher that cannot trace sends nothing**, and its client reports nothing. -/
theorem run_silent {x : Context} (h : ¬ x.CanTrace) (args : List String) :
    (run x args).turns = [] ∧ (run x args).events.filterMap Event.byClient? = [] := by
  obtain ⟨crash, hload⟩ | ⟨loaded, f, hload, hclient⟩ := cases_of_not_canTrace h
  · rw [run_of_crash hload]
    exact ⟨rfl, rfl⟩
  · rw [run_of_noClient hload hclient]
    refine ⟨rfl, ?_⟩
    simp only [List.filterMap_append, configure_byClient, List.nil_append]
    rfl

/-! ### Runs that have nothing to trace -/

/-- There is a program to start, and it **cannot be started**. -/
def CannotStart (start : Starter) (args : List String) : Prop :=
  ∃ program rest f, args = program :: rest ∧ start program rest = .error f

/-- The script of a program that cannot be started is empty. -/
private theorem scriptRun_of_cannotStart {x : Context} {args : List String}
    (h : CannotStart x.start args) : scriptRun x args = ⟨[], .finished, x.client⟩ := by
  obtain ⟨program, rest, f, rfl, hstart⟩ := h
  simp only [scriptRun, script, hstart, Program.supplied, Program.run]

/-- Without a program that could be traced the launcher, too, sends nothing. -/
private theorem run_of_cannotStart {x : Context} {args : List String}
    (h : CannotStart x.start args) :
    (run x args).turns = [] ∧ (run x args).events.filterMap Event.byClient? = [] := by
  by_cases hx : x.CanTrace
  · have hscript := run_script hx args
    rwa [scriptRun_of_cannotStart h] at hscript
  · exact run_silent hx args

/-- A registration is announced before it is made. -/
private theorem register_events_ne_nil (net : Http.Network) (c : Client) (pid : Option Pid)
    (replies : List Http.Reply) : (c.register net pid replies).2.events ≠ [] := by
  simp only [Client.register, Client.tryRegister]
  split <;> simp

/-- **The client of every other script reports something.** -/
private theorem scriptRun_events_ne_nil {x : Context} {args : List String}
    (h : ¬ CannotStart x.start args) : (scriptRun x args).allEvents ≠ [] := by
  cases args with
  | nil =>
    rw [scriptRun, ← (traceSelf_script x x.client).2, traceSelf]
    simp only [List.filterMap_append, filterMap_byClient, ne_eq, List.append_eq_nil_iff,
      register_events_ne_nil, false_and, not_false_eq_true]
  | cons program rest =>
    cases hstart : x.start program rest with
    | error f => exact absurd ⟨program, rest, f, rfl, hstart⟩ h
    | ok child =>
      rw [scriptRun, ← (runTraced_script hstart x.client).2]
      simp only [runTraced, hstart, List.filterMap_append, filterMap_byClient, ne_eq,
        List.append_eq_nil_iff, register_events_ne_nil, false_and, not_false_eq_true]

/-! ### The main statement -/

/-- The run **follows the script**: the service is sent the same requests as in the run of the
script on the URL that is configured, with the same replies; and the default log shows for the
client exactly what the client reports in that run. -/
def FollowsScript (x : Context) (args : List String) : Prop :=
  (run x args).turns = (scriptRun x args).allTurns ∧
    clientLines ((run x args).log .default) =
      (scriptRun x args).allEvents.map fun e => (Event.client e).line

/-- The run **is silent**: nothing is sent, and no line is about what the client reports. -/
def IsSilent (x : Context) (args : List String) : Prop :=
  (run x args).turns = [] ∧ clientLines ((run x args).log .default) = []

/-- The default log shows everything that the client reports. -/
private theorem clientLines_default (r : Run) :
    clientLines (r.log .default) =
      (r.events.filterMap Event.byClient?).map fun e => (Event.client e).line := by
  rw [clientLines_log]
  simp only [shows_default, List.filter_true]

private theorem isSilent_of_events {x : Context} {args : List String}
    (h : (run x args).turns = [] ∧ (run x args).events.filterMap Event.byClient? = []) :
    IsSilent x args :=
  ⟨h.1, by rw [clientLines_default, h.2, List.map_nil]⟩

/-- A silent run does not follow a script whose client reports something. -/
private theorem not_followsScript {x : Context} {args : List String} (hx : ¬ x.CanTrace)
    (hstart : ¬ CannotStart x.start args) : ¬ FollowsScript x args := by
  rintro ⟨-, hlines⟩
  rw [(isSilent_of_events (run_silent hx args)).2] at hlines
  exact scriptRun_events_ne_nil hstart (List.map_eq_nil_iff.mp hlines.symm)

/-- What a run of the launcher has in common with its script. -/
structure ScriptOfRun (x : Context) (args : List String) : Prop where
  /-- The run follows the script, exactly if the launcher can trace, or has nothing to trace. -/
  follows_iff : FollowsScript x args ↔ x.CanTrace ∨ CannotStart x.start args
  /-- The replies are those of the supply in their order. -/
  answered : AnsweredFrom x.replies (run x args).turns
  /-- If there is a program that cannot be started, the run is silent. -/
  silent_of_cannotStart (h : CannotStart x.start args) : IsSilent x args
  /-- So is every run of a launcher that cannot trace. -/
  silent_of_not_canTrace (h : ¬ x.CanTrace) : IsSilent x args

/-- **A launcher that can trace is its script**, and no other launcher that has something to trace
is. -/
theorem script_of_run (x : Context) (args : List String) : ScriptOfRun x args where
  follows_iff := by
    constructor
    · intro h
      by_contra hneither
      obtain ⟨hx, hstart⟩ := not_or.mp hneither
      exact not_followsScript hx hstart h
    · rintro (hx | hstart)
      · obtain ⟨hturns, hevents⟩ := run_script hx args
        exact ⟨hturns, by rw [clientLines_default, hevents]⟩
      · -- The script of what cannot be started is empty, and so is what comes of the run.
        obtain ⟨hturns, hlines⟩ := isSilent_of_events (run_of_cannotStart hstart)
        rw [FollowsScript, hturns, hlines, scriptRun_of_cannotStart hstart]
        exact ⟨rfl, rfl⟩
  answered := by
    by_cases hx : x.CanTrace
    · rw [(run_script hx args).1]
      exact (Client.run_supplied ..).1
    · rw [(run_silent hx args).1]
      exact .nil _
  silent_of_cannotStart h := isSilent_of_events (run_of_cannotStart h)
  silent_of_not_canTrace h := isSilent_of_events (run_silent h args)

/-- A machine on which there are no programs. -/
def empty : Starter := fun _ _ => .error .notFound

/-- A launcher that follows its script, and one that has nothing to trace. -/
theorem script_of_run_killing :
    FollowsScript (contextWith [] killing) ["sleep", "9"] ∧
      (contextWith [] killing).CanTrace ∧ IsSilent (contextWith [] empty) ["sleep", "9"] := by
  have hx : (contextWith [] killing).CanTrace :=
    canTrace_of_isUnindexed rfl (unindexed_of_contents_eq_nil rfl) (List.forall_mem_nil _)
  exact ⟨(script_of_run _ _).follows_iff.mpr (.inl hx), hx,
    (script_of_run _ _).silent_of_cannotStart ⟨"sleep", ["9"], .notFound, rfl, rfl⟩⟩

/-- **A single variable keeps the launcher from its script**: the program could be started and there
is no configuration to be had, but nothing is sent and the client reports nothing. -/
theorem not_followsScript_of_farVariable :
    ¬ FollowsScript (contextWith [farVariable] succeeding) ["true"] ∧
      IsSilent (contextWith [farVariable] succeeding) ["true"] := by
  have hx : ¬ (contextWith [farVariable] succeeding).CanTrace := by
    rintro ⟨⟨loaded, hload⟩, -⟩
    rw [load_farVariable] at hload
    cases hload
  have hstart : ¬ CannotStart succeeding ["true"] := by
    rintro ⟨program, rest, f, -, hf⟩
    cases hf
  exact ⟨not_followsScript hx hstart, isSilent_of_events (run_silent hx _)⟩

end ProcTrace.Launcher
