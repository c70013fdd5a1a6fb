import ProcTrace.Client.Basic
import ProcTrace.Launcher.Status
import ProcTrace.Log.Filter
import ProcTrace.Settings.Load

/-!
# The launcher

The launcher runs a program and has it traced for as long as it runs. Its run has these phases:

* **Configuration**: a configuration that cannot be loaded gives way to the default one. The loading
  itself can also crash, which ends the launcher on the spot.
* **Client**: without a client the launcher gives up before the program is started.
* **Tracing**: the program is started and registered, and unregistered when it has ended, whether or
  not the service answers. Without a program to run, the launcher has itself traced until a line is
  entered.
* **End**: the launcher ends as the program did.

What the launcher and its client report is written to a log, as far as the filter of the environment
lets it through.
-/

namespace ProcTrace.Launcher

/-- A program that was started: its number, what it writes, and how it ends, unless its end cannot
be waited for. -/
structure Child where
  pid : Pid
  output : List Char
  status : Except WaitFailure ExitStatus
  deriving Repr

/-- What the launcher is started in: the room that it has for lists, why it can have no client if
that is so, the network, the host, its own number, its input, what the service replies to its
requests, and what comes of starting a program with its arguments. -/
structure Context where
  room : Settings.Room
  clientFailure? : Option Http.Failure
  net : Http.Network
  host : Settings.Host
  ownPid : Pid
  input : Text.Bytes
  replies : List Http.Reply
  start : String → List String → Except StartFailure Child

/-- What the launcher reports. -/
inductive Event where
  | configurationFailed (f : Failure)
  | usingDefaults
  | serviceAt (url : String)
  | noClient (f : Failure)
  | notStarted (program : String) (f : StartFailure)
  | untraced (program : String) (pid : Pid)
  | exited (program : String) (status : ExitStatus)
  | notAwaited (program : String) (f : WaitFailure)
  | tracing (pid : Pid)
  | unreadableInput
  | stopped
  /-- What the client reports. -/
  | client (e : Client.Event)
  deriving DecidableEq, Repr

namespace Event

/-- How much an event matters. -/
def level : Event → Level
  | .configurationFailed _ | .noClient _ | .notStarted _ _ | .notAwaited _ _
  | .unreadableInput => .error
  | .untraced _ _ => .warn
  | .usingDefaults | .serviceAt _ | .exited _ _ | .tracing _ | .stopped => .info
  | .client e => e.level

/-- The part of the program that reports an event. -/
def target : Event → String
  | .client _ => "write_tracer_client::client"
  | _ => "write_tracer_run"

/-- The text of an event. -/
def message : Event → String
  | .configurationFailed f => "Failed to load configuration: " ++ f.message
  | .usingDefaults => "Using default configuration"
  | .serviceAt url => "Tracer service: " ++ url
  | .noClient f => "Failed to create tracer client: " ++ f.message
  | .notStarted program f => "Failed to start " ++ program ++ ": " ++ f.message
  | .untraced program pid => "Running " ++ program ++ s!" (PID {pid}) without write tracing"
  | .exited program status => program ++ " exited with " ++ status.describe
  | .notAwaited program f => "Failed to wait for " ++ program ++ ": " ++ f.message
  | .tracing pid => s!"Tracing PID {pid}; press Enter to stop"
  | .unreadableInput => "Failed to read stdin: stream did not contain valid UTF-8"
  | .stopped => "Tracing stopped"
  | .client e => e.message

end Event

/-- What comes of a run of the launcher: how the launcher itself ends, the output of the program,
and what was sent and reported. -/
structure Run where
  status : ExitStatus
  output : List Char
  turns : List Http.Turn
  events : List Event

/-- The code that says that a program could not be started. -/
def notStartedCode : UInt8 := 127

/-- The code of a panic. -/
def panicCode : UInt8 := 101

/-- The end of a process that crashes. -/
def crashStatus : Settings.Crash → ExitStatus
  | .panic => .code panicCode
  | .signal n => .signal n

/-- The configuration of what was loaded, and what is reported about it. -/
def configure (loaded : Except Settings.Fault TracerConfig) : TracerConfig × List Event :=
  let (config, events) : TracerConfig × List Event := match loaded with
    | .ok config => (config, [])
    | .error f => (.default, [.configurationFailed (.config f), .usingDefaults])
  (config, events ++ [.serviceAt config.service.url])

/-- The code for what was seen of the end of a program. -/
def exitCodeOf : Except WaitFailure ExitStatus → UInt8
  | .ok status => status.exitCode
  | .error _ => ExitStatus.failureCode

/-- What is reported of the end of a program. -/
def endEvent (program : String) : Except WaitFailure ExitStatus → Event
  | .ok status => .exited program status
  | .error f => .notAwaited program f

/-- Runs a program, which is registered from its start to its end. -/
def runTraced (x : Context) (c : Client) (program : String) (args : List String) : Run :=
  match x.start program args with
  | .error f => ⟨.code notStartedCode, [], [], [.notStarted program f]⟩
  | .ok child =>
    let (c', r) := c.register x.net (some child.pid) x.replies
    let u := c'.unregister x.net (some child.pid) (x.replies.drop r.turns.length)
    { status := .code (exitCodeOf child.status)
      output := child.output
      turns := r.turns ++ u.turns
      events := r.events.map .client ++
        (if r.result then [] else [.untraced program child.pid]) ++ u.events.map .client ++
        [endEvent program child.status] }

/-- The byte that ends a line. -/
def lineEnd : UInt8 := 10

/-- The first line of the input is a text. -/
def isReadable (input : Text.Bytes) : Bool :=
  (Text.Utf8.decode? (input.takeWhile (· ≠ lineEnd))).isSome

/-- Has the launcher itself traced until a line is entered. -/
def traceSelf (x : Context) (c : Client) : Run :=
  let (c', r) := c.register x.net none x.replies
  let u := c'.unregister x.net none (x.replies.drop r.turns.length)
  { status := .code 0
    output := []
    turns := r.turns ++ u.turns
    events := r.events.map .client ++ [.tracing (c'.tracked.getD x.ownPid)] ++
      (if isReadable x.input then [] else [.unreadableInput]) ++ u.events.map .client ++
      [.stopped] }

/-- Runs the launcher, once it is configured, with the program and the arguments that it is
given. -/
def runConfigured (x : Context) (config : TracerConfig) (args : List String) : Run :=
  match x.clientFailure? with
  | some f => ⟨.code ExitStatus.failureCode, [], [], [.noClient (.http f)]⟩
  | none =>
    let c := Client.new config.service.url x.ownPid
    match args with
    | program :: rest => runTraced x c program rest
    | [] => traceSelf x c

/-- Runs the launcher with the program and the arguments that it is given. -/
def run (x : Context) (args : List String) : Run :=
  match Settings.load x.room x.host with
  | .error crash => ⟨crashStatus crash, [], [], []⟩
  | .ok loaded =>
    let (config, events) := configure loaded
    let r := runConfigured x config args
    { r with events := events ++ r.events }

/-! ### The log -/

/-- A line of the log. -/
structure Line where
  level : Level
  target : String
  text : String
  deriving DecidableEq, Repr

/-- A character that controls a terminal is written out in a log; every other one stands for
itself. -/
def writtenOut (c : Char) : List Char :=
  if ['\x1b', '\x07', '\x08', '\x0c', '\x7f'].contains c then
    ['\\', 'x', Nat.digitChar (c.toNat / 16), Nat.digitChar (c.toNat % 16)]
  else if 0x80 ≤ c.toNat ∧ c.toNat ≤ 0x9F then
    ['\\', 'u', '\x7b'] ++ Nat.toDigits 16 c.toNat ++ ['\x7d']
  else [c]

/-- The line that an event makes in a log, which is the first line of its text. -/
def Event.line (e : Event) : Line :=
  ⟨e.level, e.target,
    String.ofList ((e.message.toList.takeWhile (· ≠ '\n')).flatMap writtenOut)⟩

/-- The filter that the environment asks for. -/
def filterOf (host : Settings.Host) : Log.Filter :=
  .ofVariable (host.environment.lookup "RUST_LOG")

/-- The log of a run. -/
def Run.log (r : Run) (filter : Log.Filter) : List Line :=
  (r.events.filter fun e => filter.shows e.target e.level).map Event.line

end ProcTrace.Launcher
