import ProcTrace.Http.Failure
import ProcTrace.Http.Status
import ProcTrace.Json.Fault
import ProcTrace.Settings.Fault

/-!
# Failures

Why an operation of a client has no result. Two kinds of failure are the service's or the network's
(`Failure.isRequestFailure`): there was no answer, or it was a refusal. The others arise before a
request is made, or after the answer to it has been accepted.
-/

namespace ProcTrace

/-- Why an operation has no result. -/
inductive Failure where
  /-- There was no answer that could be read. -/
  | http (f : Http.Failure)
  /-- The service refused, and why. -/
  | status (code : Http.Status) (detail : String)
  /-- There is no process to unregister. -/
  | noPid
  /-- The configuration cannot be used. -/
  | config (f : Settings.Fault)
  /-- A text is not the JSON text of what is wanted. -/
  | serialization (f : Json.Fault) (text : String)
  deriving DecidableEq, Repr

namespace Failure

/-- The text of a failure. -/
def message : Failure → String
  | .http f => "HTTP request error: " ++ f.message
  | .status code detail => "Tracer service returned " ++ code.describe ++ ": " ++ detail
  | .noPid => "No PID specified to unregister"
  | .config f => "Configuration error: " ++ f.message
  | .serialization f text => "Serialization error: " ++ f.message text.toList

/-- The failure is that of the service or of the network. -/
def isRequestFailure : Failure → Bool
  | .http _ => true
  | .status _ _ => true
  | _ => false

end Failure

end ProcTrace
