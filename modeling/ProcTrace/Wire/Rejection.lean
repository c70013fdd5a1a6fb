import ProcTrace.Text.Blank
import ProcTrace.Wire.Reader

/-!
# The reason of a rejection

A service that refuses a request says why in the body of its answer. What the body means depends on
its shape alone: the member `error` of the service's own record, or else the body as it stands,
without blanks around it.
-/

namespace ProcTrace.Wire

/-- The reason that the body of an answer gives. -/
def rejectionReason (body : String) : String :=
  match parse errorResponse body with
  | .ok r => r.error
  | .error _ => String.ofList (Text.trim body.toList)

end ProcTrace.Wire
