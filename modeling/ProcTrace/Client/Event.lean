import ProcTrace.Failure
import ProcTrace.Log.Level
import ProcTrace.Wire.Message

/-!
# Events

What a client reports while it works. Every request is announced before it is made; the operations
that only say whether they succeeded report their outcome as well.
-/

namespace ProcTrace

namespace Client

/-- What a client reports. -/
inductive Event where
  /-- A process is about to be registered at a URL. -/
  | registering (url : String) (pid : Pid)
  /-- What a URL stands for is about to be unregistered. -/
  | unregistering (url : String)
  /-- A URL is about to be asked for. -/
  | querying (url : String)
  /-- A process has been registered, with as many threads as the service says. -/
  | registered (pid : Pid) (threads : Option UInt64)
  | unregistered (pid : Pid)
  | registrationFailed (pid : Pid) (f : Failure)
  | unregistrationFailed (pid : Pid) (f : Failure)
  | nothingToUnregister
  deriving DecidableEq, Repr

/-- How much an event matters. -/
def Event.level : Event → Level
  | .registering _ _ | .unregistering _ | .querying _ => .debug
  | .registered _ _ | .unregistered _ => .info
  | .nothingToUnregister => .warn
  | .registrationFailed _ _ | .unregistrationFailed _ _ => .error

/-- The text of an event. -/
def Event.message : Event → String
  | .registering url pid => "POST " ++ url ++ s!" pid={pid}"
  | .unregistering url => "DELETE " ++ url
  | .querying url => "GET " ++ url
  | .registered pid none => s!"Successfully registered PID {pid}"
  | .registered pid (some n) => s!"Successfully registered PID {pid} ({n} threads)"
  | .unregistered pid => s!"Successfully unregistered PID {pid}"
  | .registrationFailed pid f => s!"Failed to register PID {pid}: " ++ f.message
  | .unregistrationFailed pid f => s!"Failed to unregister PID {pid}: " ++ f.message
  | .nothingToUnregister => Failure.noPid.message

end Client

end ProcTrace
