import ProcTrace.Proofs.Client.Contract
import ProcTrace.Proofs.Http.Allowance

/-!
# How much a client sends

A call makes what it orders once (`MadeAtMostOnce`): its own request, and for every redirection one
more, up to a bound. It does not try again when a request fails, be it that the service refuses,
that it drops the connection, or that the body of its answer breaks off. The same holds of the entry
and the exit of a scope, so that over a whole run every note tells of one order
(`run_madeAtMostOnce`).

A service that redirects without end makes a call fail (`perform_of_leadsOn`). What the client
tracks after the call has nothing to do with that.
-/

namespace ProcTrace.Client

open Http (MadeOnce Network Order Reply leadsOn open?)

/-- Turns of something that may be ordered: if it is, it is made once, and if not there are none. -/
def MadeAtMostOnce (o? : Option Order) (turns : List Http.Turn) : Prop :=
  match o? with
  | some o => MadeOnce o turns
  | none => turns = []

/-- The outcome of a call that had no answer. -/
def Call.unanswered (f : Http.Failure) : Call → Outcome
  | .register _ | .unregister _ => .success false
  | _ => .failed (.http f)

variable {net : Network}

/-! ### One call -/

/-- A call makes what it orders once. -/
private theorem perform_madeAtMostOnce (c : Client) (k : Call) (replies : List Reply) :
    MadeAtMostOnce (k.order? c.base c.ownPid c.tracked) (c.perform net k replies).2.turns := by
  rw [perform_turns]
  rcases k.order? c.base c.ownPid c.tracked with _ | o
  · rfl
  · exact Http.exchange_madeOnce net replies o

/-- Bodies, and where they break off, have no part in what a call sends. -/
private theorem perform_requests_congr (c : Client) (k : Call) {replies replies' : List Reply}
    (h : replies.map Reply.lead = replies'.map Reply.lead) :
    (c.perform net k replies).2.turns.map (·.request) =
      (c.perform net k replies').2.turns.map (·.request) := by
  rw [perform_turns, perform_turns]
  split
  · exact Http.requests_exchange_congr net h _
  · rfl

/-- Of what a service would reply, no more counts than a call can have answered. -/
private theorem perform_take (c : Client) (k : Call) (replies : List Reply) :
    c.perform net k (replies.take 11) = c.perform net k replies := by
  cases k <;> simp only [perform, register, tryRegister, unregister, tryUnregister,
    registeredProcesses, process, Http.exchange_take]

/-- The outcome of a call whose exchange has no answer. -/
theorem perform_outcome_of_error {c : Client} {k : Call} {replies : List Reply} {o : Order}
    {f : Http.Failure} (ho : k.order? c.base c.ownPid c.tracked = some o)
    (hresult : (Http.exchange net replies o.method o.url o.content).result = .error f) :
    (c.perform net k replies).2.outcome = k.unanswered f := by
  have haccepted {e : Http.Exchange} (he : e.result = .error f) :
      accepted e = .error (.http f) := by
    simp only [accepted, he]
  -- The order is the exchange that the operation makes, with other words for its URL and its body.
  cases k with
  | register pid | tryRegister pid =>
    obtain rfl := Option.some.inj ho
    have he : (Http.exchange net replies .post c.processesUrl
        (some (registration (c.subject pid)))).result = .error f := by
      rw [registration_eq]
      exact hresult
    simp [perform, register, tryRegister, Note.ofReport, haccepted he, Except.map, Call.unanswered,
      Outcome.of]
  | unregister pid | tryUnregister pid =>
    obtain ⟨p, hp, rfl⟩ := Option.map_eq_some_iff.mp ho
    have he : (Http.exchange net replies .delete (c.processUrl p) none).result = .error f := by
      rw [processUrl_eq]
      exact hresult
    simp [perform, unregister, tryUnregister, Note.ofReport, hp, haccepted he, Except.map,
      Call.unanswered, Outcome.of]
  | registeredProcesses =>
    obtain rfl := Option.some.inj ho
    have he : (Http.exchange net replies .get c.processesUrl none).result = .error f := hresult
    simp only [perform, registeredProcesses, Note.ofReport, haccepted he]
    rfl
  | process pid =>
    obtain rfl := Option.some.inj ho
    have he : (Http.exchange net replies .get (c.processUrl pid) none).result = .error f := by
      rw [processUrl_eq]
      exact hresult
    simp only [perform, process, Note.ofReport, he]
    rfl

/-- **A service that redirects without end** makes a call fail, after eleven requests. -/
theorem perform_of_leadsOn {c : Client} {k : Call} {replies : List Reply} {o : Order}
    {r : Http.Request} {named : Url} (ho : k.order? c.base c.ownPid c.tracked = some o)
    (hopen : open? o.method o.url o.content = .ok (r, named)) (hreaches : net.reaches r.url)
    (h : leadsOn net 11 replies r) :
    (c.perform net k replies).2.turns.length = 11 ∧
      (c.perform net k replies).2.outcome = k.unanswered (.tooManyRedirects named) := by
  obtain ⟨hlength, hresult⟩ := Http.exchange_of_leadsOn hopen hreaches h
  refine ⟨?_, perform_outcome_of_error ho hresult⟩
  rw [perform_turns, ho]
  exact hlength

/-- What is replied to a call has no part in the client after it. -/
private theorem perform_fst_congr (c : Client) (k : Call) (replies replies' : List Reply) :
    (c.perform net k replies).1 = (c.perform net k replies').1 := by
  cases k <;> rfl

/-- A note tells the process that is tracked after it. -/
private theorem perform_snd_tracked (c : Client) (k : Call) (replies : List Reply) :
    (c.perform net k replies).2.tracked = (c.perform net k replies).1.tracked := by
  cases k <;> rfl

/-! ### A run -/

/-- Calls made one after the other make what they order once each. -/
private theorem ofCalls_madeAtMostOnce (ks : List (Call × List Reply)) (c : Client) :
    List.Forall₂ MadeAtMostOnce (orders c.base c.ownPid c.tracked (ks.map Prod.fst))
      ((Program.ofCalls ks).run net c).turns := by
  induction ks generalizing c with
  | nil => exact .nil
  | cons x ks ih =>
    obtain ⟨k, replies⟩ := x
    have hrest := ih (c.perform net k replies).1
    simp only [perform_fst_base, perform_fst_ownPid, perform_fst_tracked] at hrest
    exact .cons (perform_madeAtMostOnce c k replies) hrest

/-- **Every note of a run tells of one order**, made once, or of none: be it about a call, or about
the entry or the exit of a scope. -/
theorem run_madeAtMostOnce (p : Program) (c : Client) :
    List.Forall₂ MadeAtMostOnce (orders c.base c.ownPid c.tracked (p.calls.map Prod.fst))
      (p.run net c).turns := by
  rw [(run_unrolled net p c).turns_eq]
  exact ofCalls_madeAtMostOnce p.calls c

/-! ### The main statement -/

/-- **What a client sends is bounded**, whatever the network and the replies. -/
structure SendsOnce (net : Network) (c : Client) : Prop where
  /-- A call makes what it orders once: it never tries again, and it follows only redirections. -/
  once (k : Call) (replies : List Reply) :
    MadeAtMostOnce (k.order? c.base c.ownPid c.tracked) (c.perform net k replies).2.turns
  /-- So does every call of a program, and every entry and exit of a scope. -/
  run (p : Program) :
    List.Forall₂ MadeAtMostOnce (orders c.base c.ownPid c.tracked (p.calls.map Prod.fst))
      ((p.run net c).notes.map (·.turns))
  /-- The body of a reply, and where it breaks off, has no part in what is sent. -/
  bodies (k : Call) (replies replies' : List Reply)
    (h : replies.map Reply.lead = replies'.map Reply.lead) :
    (c.perform net k replies).2.turns.map (·.request) =
      (c.perform net k replies').2.turns.map (·.request)
  /-- Of all replies that a service would give, eleven count. -/
  first (k : Call) (replies : List Reply) :
    c.perform net k (replies.take 11) = c.perform net k replies
  /-- Redirections without end make the call fail after eleven requests. -/
  endless (k : Call) (replies : List Reply) (o : Order) (r : Http.Request) (named : Url)
    (ho : k.order? c.base c.ownPid c.tracked = some o)
    (hopen : open? o.method o.url o.content = .ok (r, named)) (hreaches : net.reaches r.url)
    (h : leadsOn net 11 replies r) :
    (c.perform net k replies).2.turns.length = 11 ∧
      (c.perform net k replies).2.outcome = k.unanswered (.tooManyRedirects named)
  /-- The process that is tracked after a call is the one that was asked for last, whatever came of
  the call. -/
  tracked (k : Call) (replies : List Reply) :
    (c.perform net k replies).2.tracked = (k.subject? c.ownPid).or c.tracked ∧
      ∀ replies', (c.perform net k replies).1 = (c.perform net k replies').1

/-- **What a client sends is bounded.** -/
theorem sends_once (net : Network) (c : Client) : SendsOnce net c where
  once := perform_madeAtMostOnce c
  run p := run_madeAtMostOnce p c
  bodies k _ _ h := perform_requests_congr c k h
  first := perform_take c
  endless _ _ _ _ _ ho hopen hreaches h := perform_of_leadsOn ho hopen hreaches h
  tracked k replies := by
    refine ⟨?_, perform_fst_congr c k replies⟩
    rw [perform_snd_tracked, perform_fst_tracked]

/-- The replies of a service that has every request made again in the same place, and would do so
for longer than the client goes along. -/
def looping : List Reply :=
  List.replicate 20 { status := 307, headers := [("Location", "/pids")] }

theorem sends_once_looping :
    ((Client.new "http://h" 41).perform .service (.register (some 7)) looping).2.turns.length = 11 ∧
    ((Client.new "http://h" 41).perform .service (.register (some 7)) looping).2.outcome =
      .success false ∧
    ((Client.new "http://h" 41).perform .service (.register (some 7)) looping).2.tracked =
      some 7 := by
  have h := sends_once .service (Client.new "http://h" 41)
  let u : Url := ⟨"http".toList, some ⟨[], none, .domain "h".toList, none⟩,
    .segments ["pids".toList], none, none⟩
  let content : Option Http.Content := some ⟨"application/json", "\x7b\"pid\":7\x7d"⟩
  have hopen : open? .post "http://h/pids" content = .ok (⟨.post, u, content, none⟩, u) := by
    decide +kernel
  obtain ⟨hlength, houtcome⟩ := h.endless (.register (some 7)) looping
    ⟨.post, "http://h/pids", content⟩ _ u (by decide +kernel) hopen (by decide +kernel)
    (by decide +kernel)
  exact ⟨hlength, houtcome, (h.tracked (.register (some 7)) looping).1⟩

end ProcTrace.Client
