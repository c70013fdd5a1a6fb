import ProcTrace.Http.Failure
import ProcTrace.Http.Message

/-!
# Exchanges

One operation of a client is one **exchange**: the operation's own request, and for as long as the
replies lead elsewhere one more request each (`follow`). How often that may happen is bounded
(`redirectAllowance`), and nothing is ever sent twice for another reason. An exchange keeps its
whole history, the **turns**: every request that reached a service, with the reply to it. Its main
laws: the number of turns (`length_turns_follow_le`), and that an answer is the one to the last
turn (`follow_ok`).
-/

namespace ProcTrace.Http

/-! ### The network -/

/-- Where requests can go: the URLs whose hosts accept a connection. -/
structure Network where
  reaches : Url → Bool

/-- The URL has the scheme of the web, with or without encryption. -/
def isWeb (u : Url) : Bool :=
  u.scheme = "http".toList || u.scheme = "https".toList

/-- The address of the machine itself. -/
def loopback : Url.Host := .ipv4 0x7F000001

/-- A network in which every host answers plain requests, except that nothing listens on the
machine itself. -/
def Network.service : Network :=
  ⟨fun u => u.scheme = "http".toList && u.host? ≠ some loopback⟩

/-- A network without connections. -/
def Network.down : Network :=
  ⟨fun _ => false⟩

/-! ### The first request -/

/-- The bytes that a part of a URL stands for, as a text. -/
def decodePart (cs : List Char) : Option (List Char) :=
  Text.Utf8.decode? (Url.percentDecode cs)

/-- The user and the password that a URL names, unless the user cannot be read. -/
def credentials? (a : Url.Authority) : Option (List Char × List Char) := do
  let user ← decodePart a.username
  let password := a.password.bind decodePart
  if user = [] ∧ password = none then none else some (user, password.getD [])

/-- The authorization that a user's name and password make. -/
def basicAuthorization (user password : List Char) : String :=
  "Basic " ++ String.ofList (Text.Base64.encode (Text.Utf8.encode (user ++ ':' :: password)))

/-- The URL without the user that it names, and the authorization made from that. -/
def extractUser (u : Url) : Url × Option String :=
  match u.authority with
  | none => (u, none)
  | some a =>
    match credentials? a with
    | none => (u, none)
    | some (user, password) =>
      ({ u with authority := some { a with username := [], password := none } },
        some (basicAuthorization user password))

/-- A character that the target of a request may have in its host. -/
def isTargetChar (c : Char) : Bool :=
  c ≠ '"' && c ≠ '\x7b' && c ≠ '\x7d' && c.toNat ≠ 0x60

/-- The greatest number of characters in the target of a request. -/
def targetLengthMax : Nat := 65534

/-- A request can be made to the URL. -/
def isTarget (u : Url) : Bool :=
  isWeb u && u.authority.all (·.host.write.all isTargetChar) && u.write.length ≤ targetLengthMax

/-- The first request of an operation, and the URL that failures name. -/
def open? (method : Method) (url : String) (content : Option Content) :
    Except Failure (Request × Url) :=
  match Url.parse url with
  | none => .error .noUrl
  | some u =>
    if u.hasHost then
      let (u, authorization) := extractUser u
      if isTarget u then
        .ok ({ method, url := u.withoutFragment, content, authorization }, u)
      else .error (.unusable u)
    else .error (.unusable u)

/-! ### Redirections -/

/-- The method and the body with which a reply of the given status has the request made again, if
it is a status that leads elsewhere. -/
def redirected? (status : Status) (method : Method) (content : Option Content) :
    Option (Method × Option Content) :=
  match status with
  | 301 | 302 => some (if method = .post then (.get, none) else (method, content))
  | 303 => some (.get, none)
  | 307 | 308 => some (method, content)
  | _ => none

/-- Two URLs lead to the same host and port. -/
def sameOrigin (a b : Url) : Bool :=
  a.host? = b.host? && a.effectivePort = b.effectivePort

/-- The request that a reply leads to. The authorization does not go to another host or port. -/
def Request.next? (r : Request) (reply : Reply) : Option Request := do
  let (method, content) ← redirected? reply.status r.method r.content
  let url ← Url.parseWith (some r.url) (← reply.header? "location")
  some { method, content, url := url.withoutFragment
         authorization := if sameOrigin r.url url then r.authorization else none }

/-- How many replies may lead elsewhere. -/
def redirectAllowance : Nat := 10

/-- A request that reached a service, and the reply to it. -/
structure Turn where
  request : Request
  reply : Reply
  deriving DecidableEq, Repr

/-- What came of an operation: the turns in their order, and the answer or the failure. -/
structure Exchange where
  turns : List Turn
  result : Except Failure Answer

/-- The exchange that ends with a turn. -/
def Exchange.last (t : Turn) (result : Except Failure Answer) : Exchange :=
  ⟨[t], result⟩

/-- The exchange with a turn before its first. -/
def Exchange.after (t : Turn) (e : Exchange) : Exchange :=
  ⟨t :: e.turns, e.result⟩

/-- The exchange that starts with a request, when so many more redirections may be followed. The
service gives the replies in their order, and plain ones when there are no more. -/
def follow (net : Network) (named : Url) (allowance : Nat) (replies : List Reply) (r : Request) :
    Exchange :=
  if net.reaches r.url then
    let turn : Turn := ⟨r, replies.headD .plain⟩
    if turn.reply.dropped then .last turn (.error (.unanswered named))
    else match r.next? turn.reply, allowance with
      | none, _ => .last turn (.ok turn.reply.answer)
      | some _, 0 => .last turn (.error (.tooManyRedirects named))
      | some r', n + 1 =>
        if isTarget r'.url then .after turn (follow net named n replies.tail r')
        else .last turn (.error (.unusable named))
  else ⟨[], .error (.unanswered named)⟩

/-- The exchange of an operation. -/
def exchange (net : Network) (replies : List Reply) (method : Method) (url : String)
    (content : Option Content) : Exchange :=
  match open? method url content with
  | .ok (r, named) => follow net named redirectAllowance replies r
  | .error f => ⟨[], .error f⟩

/-! ### Laws -/

/-- An exchange has at most one turn more than it may follow redirections. -/
theorem length_turns_follow_le (net : Network) (named : Url) (n : Nat) (replies : List Reply)
    (r : Request) : (follow net named n replies r).turns.length ≤ n + 1 := by
  fun_induction follow net named n replies r <;> simp_all [Exchange.last, Exchange.after]

/-- An answer is the one to the last turn. -/
theorem follow_ok {net : Network} {named : Url} {n : Nat} {replies : List Reply} {r : Request}
    {a : Answer} (h : (follow net named n replies r).result = .ok a) :
    ∃ t, (follow net named n replies r).turns.getLast? = some t ∧ t.reply.answer = a := by
  fun_induction follow net named n replies r with
  | case4 _ _ _ _ _ _ _ _ _ ih =>
    obtain ⟨t, ht, ha⟩ := ih h
    exact ⟨t, by simp [Exchange.after, List.getLast?_cons, ht], ha⟩
  | _ => simp_all [Exchange.last]

end ProcTrace.Http
