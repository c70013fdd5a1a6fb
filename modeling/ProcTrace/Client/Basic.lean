import ProcTrace.Client.Event
import ProcTrace.Http.Exchange
import ProcTrace.Wire.Rejection
import ProcTrace.Wire.Writer

/-!
# Clients of the tracing service

A client registers processes with the service and removes them again. It remembers the process that
it was last asked to register, the **tracked** one, and falls back on it where an operation names
none. The tracked process is set before the request is made, so that it is the same whatever comes
of the request.

Every operation comes with a `Report`: its result, the turns of its exchange and the events that
the client reported. The operations `Client.register` and `Client.unregister` only say whether they
succeeded; `Client.tryRegister` and `Client.tryUnregister` give the failure.
-/

namespace ProcTrace

/-- A client: the URL under which the service is found, the process that the client itself runs in,
and the process that it was last asked to register. -/
structure Client where
  base : String
  ownPid : Pid
  tracked : Option Pid := none
  deriving DecidableEq, Repr

/-- What came of an operation. -/
structure Report (α : Type) where
  result : α
  turns : List Http.Turn
  events : List Client.Event

/-- The requests of an operation that reached the service. -/
def Report.requests {α : Type} (r : Report α) : List Http.Request :=
  r.turns.map (·.request)

/-- A registration that the service has accepted, and the number of threads if it says so. -/
structure Registration where
  pid : Pid
  threads : Option UInt64
  deriving DecidableEq, Repr

namespace Client

/-! ### Clients and their resources -/

/-- The URL without the slash at its end; of several slashes only the last is dropped. -/
def trimSlash (url : String) : String :=
  match url.toList.getLast? with
  | some '/' => String.ofList url.toList.dropLast
  | _ => url

/-- The client of the service at a URL. Whether requests can be made to it turns out when one is
made. -/
def new (url : String) (ownPid : Pid) : Client :=
  { base := trimSlash url, ownPid }

/-- The client of a service on the same machine. -/
def onThisMachine (ownPid : Pid) : Client :=
  new defaultServiceUrl ownPid

/-- The URL of the registered processes. -/
def processesUrl (c : Client) : String :=
  c.base ++ "/pids"

/-- The URL of one registered process. -/
def processUrl (c : Client) (pid : Pid) : String :=
  c.base ++ s!"/pids/{pid}"

/-- The process to register: the given one or the client's own. -/
def subject (c : Client) (pid : Option Pid) : Pid :=
  pid.getD c.ownPid

/-- The client once it has been asked to register a process. -/
def track (c : Client) (pid : Option Pid) : Client :=
  { c with tracked := some (c.subject pid) }

/-! ### Answers -/

/-- Why the service refused: what the body says, or else the reason of the status. -/
def detail (a : Http.Answer) : String :=
  let reason := Wire.rejectionReason (a.text.getD "")
  if reason = "" then a.status.reason?.getD "request failed" else reason

/-- An answer whose status says that the service did what it was asked to do. -/
def accept (a : Http.Answer) : Except Failure Http.Answer :=
  if a.status.isSuccess then .ok a else .error (.status a.status (detail a))

/-- The answer of an exchange, if the service accepted. -/
def accepted (e : Http.Exchange) : Except Failure Http.Answer :=
  match e.result with
  | .ok a => accept a
  | .error f => .error (.http f)

/-- The value whose JSON text is the body of an answer. -/
def body {σ α : Type} (record : Json.Record σ α) (a : Http.Answer) : Except Failure α :=
  match a.text with
  | none => .error (.http .unreadableBody)
  | some text =>
    match Wire.parse record text with
    | .ok x => .ok x
    | .error f => .error (.serialization f text)

/-- The number of threads that the answer to a registration tells; an answer may tell nothing. -/
def threads (a : Http.Answer) : Option UInt64 :=
  match body Wire.registerResponse a with
  | .ok r => some r.threads
  | .error _ => none

/-! ### Operations -/

variable (net : Http.Network)

/-- The body of a registration. -/
def registration (pid : Pid) : Http.Content :=
  ⟨"application/json", String.ofList (RegisterRequest.json ⟨pid⟩)⟩

/-- Registers a process, or the client's own. -/
def tryRegister (c : Client) (pid : Option Pid) (replies : List Http.Reply) :
    Client × Report (Except Failure Registration) :=
  let p := c.subject pid
  let e := Http.exchange net replies .post c.processesUrl (some (registration p))
  (c.track pid,
    { result := (accepted e).map fun a => ⟨p, threads a⟩
      turns := e.turns
      events := [.registering c.processesUrl p] })

/-- Registers a process, or the client's own, and says whether that succeeded. -/
def register (c : Client) (pid : Option Pid) (replies : List Http.Reply) : Client × Report Bool :=
  let (c', r) := c.tryRegister net pid replies
  let p := c.subject pid
  (c', match r.result with
    | .ok x => { r with result := true, events := r.events ++ [.registered p x.threads] }
    | .error f => { r with result := false, events := r.events ++ [.registrationFailed p f] })

/-- Unregisters a process, or the tracked one. -/
def tryUnregister (c : Client) (pid : Option Pid) (replies : List Http.Reply) :
    Report (Except Failure Pid) :=
  match pid <|> c.tracked with
  | none => ⟨.error .noPid, [], []⟩
  | some p =>
    let e := Http.exchange net replies .delete (c.processUrl p) none
    { result := (accepted e).map fun _ => p
      turns := e.turns
      events := [.unregistering (c.processUrl p)] }

/-- Unregisters a process, or the tracked one, and says whether that succeeded. -/
def unregister (c : Client) (pid : Option Pid) (replies : List Http.Reply) : Report Bool :=
  match pid <|> c.tracked with
  | none => ⟨false, [], [.nothingToUnregister]⟩
  | some p =>
    let r := c.tryUnregister net (some p) replies
    match r.result with
    | .ok _ => { r with result := true, events := r.events ++ [.unregistered p] }
    | .error f => { r with result := false, events := r.events ++ [.unregistrationFailed p f] }

/-- The processes that the service is tracing. -/
def registeredProcesses (c : Client) (replies : List Http.Reply) :
    Report (Except Failure (List ProcessInfo)) :=
  let e := Http.exchange net replies .get c.processesUrl none
  { result := do
      let a ← accepted e
      let list ← body Wire.listResponse a
      .ok list.processes
    turns := e.turns
    events := [.querying c.processesUrl] }

/-- A process that the service is tracing; there is no result if it does not know the process. -/
def process (c : Client) (pid : Pid) (replies : List Http.Reply) :
    Report (Except Failure (Option ProcessInfo)) :=
  let e := Http.exchange net replies .get (c.processUrl pid) none
  { result := match e.result with
      | .error f => .error (.http f)
      | .ok a =>
        if a.status = .notFound then .ok none
        else do
          let a ← accept a
          let info ← body Wire.processInfo a
          .ok (some info)
    turns := e.turns
    events := [.querying (c.processUrl pid)] }

/-! ### The tracked process -/

@[simp] theorem tryRegister_fst (c : Client) (pid : Option Pid) (replies : List Http.Reply) :
    (c.tryRegister net pid replies).1 = c.track pid :=
  rfl

@[simp] theorem register_fst (c : Client) (pid : Option Pid) (replies : List Http.Reply) :
    (c.register net pid replies).1 = c.track pid :=
  rfl

@[simp] theorem track_tracked (c : Client) (pid : Option Pid) :
    (c.track pid).tracked = some (c.subject pid) :=
  rfl

@[simp] theorem track_ownPid (c : Client) (pid : Option Pid) : (c.track pid).ownPid = c.ownPid :=
  rfl

@[simp] theorem subject_none (c : Client) : c.subject none = c.ownPid :=
  rfl

end Client

end ProcTrace
