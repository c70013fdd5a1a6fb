import ProcTrace.Client.Basic

/-!
# Programs of a client

A program of calls on one client, and of **scopes**: a scope registers the client's own process
when it is entered and unregisters the tracked process when it is left, however that happens. There
are two forms of scope. A **session** tells the program inside whether the registration succeeded;
a **scoped** program is not told. A program can leave the innermost scope early, and it can panic; a
panic goes outwards through the scopes, each of which is left on the way, until a scope catches it.

Running a program (`Program.run`) gives one `Note` for every call and two for every scope.
-/

namespace ProcTrace.Client

/-- A call on a client. -/
inductive Call where
  | register (pid : Option Pid)
  | unregister (pid : Option Pid)
  | tryRegister (pid : Option Pid)
  | tryUnregister (pid : Option Pid)
  | registeredProcesses
  | process (pid : Pid)
  deriving DecidableEq, Repr

/-- The two forms of scope. -/
inductive ScopeForm where
  | session
  | scoped
  deriving DecidableEq, Repr

/-- A scope: its form, whether it catches a panic, and what the service replies when the scope is
entered and when it is left. -/
structure Scope where
  form : ScopeForm
  catches : Bool
  entryReplies : List Http.Reply
  exitReplies : List Http.Reply
  deriving DecidableEq, Repr

/-- A program. Every call comes with what the service replies to it. -/
inductive Program where
  | finish
  | call (c : Call) (replies : List Http.Reply) (rest : Program)
  | scope (s : Scope) (body rest : Program)
  | leave
  | panic (message : String)
  deriving DecidableEq, Repr, Inhabited

/-- How a program ends. -/
inductive Ending where
  | finished
  | left
  | panicked (message : String)
  deriving DecidableEq, Repr

/-- What a call results in, and what is told when a scope is entered and left. -/
inductive Outcome where
  | success (b : Bool)
  | registered (r : Registration)
  | unregistered (pid : Pid)
  | processes (ps : List ProcessInfo)
  | process (p : Option ProcessInfo)
  | failed (f : Failure)
  | entered (registered : Option Bool)
  | exited (how : Ending)
  deriving DecidableEq

/-- The place in a program that a note is about. -/
inductive Point where
  | call (c : Call)
  | entry (form : ScopeForm)
  | exit (form : ScopeForm)
  deriving DecidableEq, Repr

/-- What happened at a place in a program, and the tracked process after it. -/
structure Note where
  point : Point
  outcome : Outcome
  tracked : Option Pid
  turns : List Http.Turn
  events : List Event

/-- The run of a program: the notes in their order, how it ended, and the client after it. -/
structure Run where
  notes : List Note
  ending : Ending
  client : Client

/-- The note about a report. -/
def Note.ofReport {α : Type} (r : Report α) (point : Point) (outcome : α → Outcome) (c : Client) :
    Note :=
  { point, outcome := outcome r.result, tracked := c.tracked, turns := r.turns
    events := r.events }

/-- The outcome of something that may fail. -/
def Outcome.of {α : Type} (outcome : α → Outcome) : Except Failure α → Outcome
  | .ok a => outcome a
  | .error f => .failed f

variable (net : Http.Network)

/-- Makes a call. -/
def perform (c : Client) (call : Call) (replies : List Http.Reply) : Client × Note :=
  match call with
  | .register pid =>
    let (c', r) := c.register net pid replies
    (c', Note.ofReport r (.call call) .success c')
  | .unregister pid => (c, Note.ofReport (c.unregister net pid replies) (.call call) .success c)
  | .tryRegister pid =>
    let (c', r) := c.tryRegister net pid replies
    (c', Note.ofReport r (.call call) (.of .registered) c')
  | .tryUnregister pid =>
    (c, Note.ofReport (c.tryUnregister net pid replies) (.call call) (.of .unregistered) c)
  | .registeredProcesses =>
    (c, Note.ofReport (c.registeredProcesses net replies) (.call call) (.of .processes) c)
  | .process pid =>
    (c, Note.ofReport (c.process net pid replies) (.call call) (.of .process) c)

/-- Enters a scope. -/
def enter (c : Client) (s : Scope) : Client × Note :=
  let (c', r) := c.register net none s.entryReplies
  (c', Note.ofReport r (.entry s.form)
    (fun b => .entered (match s.form with
      | .session => some b
      | .scoped => none)) c')

/-- Leaves a scope whose body ended in the given way. -/
def exit (c : Client) (s : Scope) (how : Ending) : Note :=
  Note.ofReport (c.unregister net none s.exitReplies) (.exit s.form) (fun _ => .exited how) c

/-- A panic that the scope lets out. -/
def Scope.escaping? (s : Scope) : Ending → Option String
  | .panicked message => if s.catches then none else some message
  | _ => none

/-- Runs a program. -/
def Program.run : Program → Client → Run
  | .finish, c => ⟨[], .finished, c⟩
  | .leave, c => ⟨[], .left, c⟩
  | .panic message, c => ⟨[], .panicked message, c⟩
  | .call k replies rest, c =>
    let (c', note) := c.perform net k replies
    let r := run rest c'
    { r with notes := note :: r.notes }
  | .scope s body rest, c =>
    let (c', note) := c.enter net s
    let inner := run body c'
    let notes := note :: inner.notes ++ [inner.client.exit net s inner.ending]
    match s.escaping? inner.ending with
    | some message => ⟨notes, .panicked message, inner.client⟩
    | none =>
      let r := run rest inner.client
      { r with notes := notes ++ r.notes }

end ProcTrace.Client
