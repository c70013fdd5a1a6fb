import ProcTrace.Http.MediaType
import ProcTrace.Http.Status
import ProcTrace.Text.Base64
import ProcTrace.Text.Charset
import ProcTrace.Url.Parse

/-!
# Requests and replies

What goes to a service and what comes back. A **request** has a URL without a fragment; the user
that the URL of an operation names goes into the authorization. A **reply** is what the other side
does once a request has reached it: it answers, breaks off in the body, or closes the connection
without an answer. An **answer** is a reply as far as it could be read.
-/

namespace ProcTrace.Http

/-- What a request asks for. -/
inductive Method where
  | get
  | post
  | delete
  deriving DecidableEq, Repr

/-- The word for a method. -/
def Method.name : Method → String
  | .get => "GET"
  | .post => "POST"
  | .delete => "DELETE"

/-- A body and its type. -/
structure Content where
  type : String
  text : String
  deriving DecidableEq, Repr

/-- A request. -/
structure Request where
  method : Method
  url : Url
  content : Option Content
  authorization : Option String
  deriving DecidableEq, Repr

/-- The text of the body of a request, which is empty if there is none. -/
def Request.text (r : Request) : String :=
  (r.content.map (·.text)).getD ""

/-- What a service does with a request: it answers, unless it has `dropped` the connection; the
body is `cut` if it ends before its announced length. -/
structure Reply where
  status : Status := 200
  headers : List (String × String) := []
  body : Text.Bytes := []
  cut : Bool := false
  dropped : Bool := false
  deriving DecidableEq, Repr

namespace Reply

/-- A blank around the value of a header. -/
def isHeaderBlank (c : Char) : Bool :=
  c = ' ' || c = '\t'

/-- The value of the first header of a name, whatever the case of its letters. -/
def header? (r : Reply) (name : String) : Option (List Char) :=
  (r.headers.find? fun (n, _) => n.toList.map Char.toLower = name.toList.map Char.toLower).map
    fun (_, v) => ((v.toList.dropWhile isHeaderBlank).reverse.dropWhile isHeaderBlank).reverse

/-- The encoding of the body. -/
def charset (r : Reply) : Text.Charset :=
  match (r.header? "content-type").bind MediaType.charset? with
  | some label => .ofLabel label
  | none => .utf8

/-- The text of the body, if all of it arrives. -/
def text? (r : Reply) : Option String :=
  if r.status.isBodiless then some ""
  else if r.cut then none
  else some (String.ofList (r.charset.decode r.body))

/-- The reply of a service that has nothing to say. -/
def plain : Reply := {}

end Reply

/-- The status and the text of a reply; there is no text if the body could not be read in full. -/
structure Answer where
  status : Status
  text : Option String
  deriving DecidableEq, Repr

/-- The answer that a reply amounts to. -/
def Reply.answer (r : Reply) : Answer :=
  ⟨r.status, r.text?⟩

end ProcTrace.Http
