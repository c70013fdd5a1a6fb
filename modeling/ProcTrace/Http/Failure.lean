import ProcTrace.Url.Basic

/-!
# Failures of an exchange

Why there is no answer, or none that can be read. A failure names the URL of the operation as it
was first asked for, also where a later request of the same exchange failed. There may also be
nothing to make requests with.
-/

namespace ProcTrace.Http

/-- Why an exchange came to nothing. -/
inductive Failure where
  /-- What requests are made with cannot be set up. -/
  | noClient
  /-- The text is no URL. -/
  | noUrl
  /-- The URL, or one that a reply led to, is not one that a request can be made to. -/
  | unusable (url : Url)
  /-- No connection, or no answer over it. -/
  | unanswered (url : Url)
  /-- One reply too many led elsewhere. -/
  | tooManyRedirects (url : Url)
  /-- The body of the answer ended too early. -/
  | unreadableBody
  deriving DecidableEq, Repr

/-- The text of a failure. -/
def Failure.message : Failure → String
  | .noClient | .noUrl => "builder error"
  | .unusable u => "builder error for url (" ++ u.toString ++ ")"
  | .unanswered u => "error sending request for url (" ++ u.toString ++ ")"
  | .tooManyRedirects u => "error following redirect for url (" ++ u.toString ++ ")"
  | .unreadableBody => "error decoding response body"

end ProcTrace.Http
