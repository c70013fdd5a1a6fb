import ProcTrace.Proofs.Client.Acceptance
import ProcTrace.Proofs.Client.Unrolled
import ProcTrace.Proofs.Http.Direct

/-!
# What a run sends

The contract between a client and the service, call by call (`Call.order?`): what a call orders
depends on the base URL, on the client's own process and on the process that was last asked to be
registered. Over a list of calls that last process is carried along, from one attempt to the next
(`orders`); nothing else is, so that the contract does not mention replies, failures or panics.

The main statement, `requests_eq_orders`, says that a run sends exactly this, if the network
receives what is ordered and no reply is followed: one request for every order, in the same order,
and none for a call that orders nothing. What is recorded of a request has no fragment, and names a
user only if that cannot be read; `not_requests_withoutUser` is a URL whose user is sent along.
-/

namespace ProcTrace.Client

open Http (Network Order Reply)

/-! ### The contract -/

/-- The process that a call asks to be registered, if it asks for one. -/
def Call.subject? (own : Pid) : Call → Option Pid
  | .register pid | .tryRegister pid => some (pid.getD own)
  | _ => none

/-- **What a call orders** from the service at a base URL, when `latest` is the process that was
last asked to be registered. -/
def Call.order? (base : String) (own : Pid) (latest : Option Pid) : Call → Option Order
  | .register pid | .tryRegister pid =>
    some ⟨.post, base ++ "/pids",
      some ⟨"application/json", "\x7b\"pid\":" ++ toString (pid.getD own).toNat ++ "\x7d"⟩⟩
  | .unregister pid | .tryUnregister pid =>
    (pid <|> latest).map fun p => ⟨.delete, base ++ "/pids/" ++ toString p.toNat, none⟩
  | .registeredProcesses => some ⟨.get, base ++ "/pids", none⟩
  | .process pid => some ⟨.get, base ++ "/pids/" ++ toString pid.toNat, none⟩

/-- What calls order one after the other. -/
def orders (base : String) (own : Pid) : Option Pid → List Call → List (Option Order)
  | _, [] => []
  | latest, k :: ks =>
    k.order? base own latest :: orders base own ((k.subject? own).or latest) ks

/-! ### One call -/

variable {net : Network}

/-- The URL of a process, with its number in digits. -/
theorem processUrl_eq (c : Client) (pid : Pid) :
    c.processUrl pid = c.base ++ "/pids/" ++ toString pid.toNat := by
  rw [processUrl, String.append_assoc]
  rfl

/-- The body of a registration, as it is ordered. -/
theorem registration_eq (pid : Pid) :
    registration pid =
      ⟨"application/json", "\x7b\"pid\":" ++ toString pid.toNat ++ "\x7d"⟩ := by
  rw [← registration_text]
  rfl

/-- The turns of an unregistration: those of its exchange, or none without a process. -/
private theorem tryUnregister_turns_eq (c : Client) (pid : Option Pid) (replies : List Reply) :
    (c.tryUnregister net pid replies).turns =
      match (Call.tryUnregister pid).order? c.base c.ownPid c.tracked with
      | some o => (Http.exchange net replies o.method o.url o.content).turns
      | none => [] := by
  cases h : (pid <|> c.tracked) with
  | none => simp [tryUnregister, Call.order?, h]
  | some p => simp only [tryUnregister_turns h, Call.order?, h, Option.map_some, processUrl_eq]

/-- The turns of a registration are those of its exchange. -/
private theorem tryRegister_turns_eq (c : Client) (pid : Option Pid) (replies : List Reply) :
    (c.tryRegister net pid replies).2.turns =
      match (Call.tryRegister pid).order? c.base c.ownPid c.tracked with
      | some o => (Http.exchange net replies o.method o.url o.content).turns
      | none => [] := by
  rw [tryRegister_turns, registration_eq]
  rfl

/-- **A call makes the exchange that it orders**, and no other. -/
theorem perform_turns (c : Client) (k : Call) (replies : List Reply) :
    (c.perform net k replies).2.turns =
      match k.order? c.base c.ownPid c.tracked with
      | some o => (Http.exchange net replies o.method o.url o.content).turns
      | none => [] := by
  cases k with
  | register pid =>
    simp only [perform, Note.ofReport]
    rw [register_turns, tryRegister_turns_eq]
    simp only [Call.order?]
  | tryRegister pid =>
    simp only [perform, Note.ofReport]
    exact tryRegister_turns_eq c pid replies
  | unregister pid =>
    simp only [perform, Note.ofReport]
    rw [unregister_turns, tryUnregister_turns_eq]
    simp only [Call.order?]
  | tryUnregister pid =>
    simp only [perform, Note.ofReport]
    exact tryUnregister_turns_eq c pid replies
  | registeredProcesses =>
    simp only [perform, Note.ofReport, registeredProcesses, processesUrl, Call.order?]
  | process pid =>
    simp only [perform, Note.ofReport, process, processUrl_eq, Call.order?]

@[simp] theorem perform_fst_base (c : Client) (k : Call) (replies : List Reply) :
    (c.perform net k replies).1.base = c.base := by
  cases k <;> simp [perform, track]

@[simp] theorem perform_fst_ownPid (c : Client) (k : Call) (replies : List Reply) :
    (c.perform net k replies).1.ownPid = c.ownPid := by
  cases k <;> simp [perform, track]

/-- After a call the client tracks the process that was asked for, if one was. -/
@[simp] theorem perform_fst_tracked (c : Client) (k : Call) (replies : List Reply) :
    (c.perform net k replies).1.tracked = (k.subject? c.ownPid).or c.tracked := by
  cases k <;> simp [perform, Call.subject?, subject]

/-- What is recorded of the requests that reached the service. -/
def sent (turns : List Http.Turn) : List Order :=
  turns.map (·.request.order)

/-- **A call sends what it orders**: one request, or none if it orders nothing. -/
theorem perform_sends {c : Client} {k : Call} {replies : List Reply}
    (hreceives : ∀ o ∈ k.order? c.base c.ownPid c.tracked, net.receives o.url)
    (hdirect : ∀ t ∈ (c.perform net k replies).2.turns, t.isFollowed = false) :
    (sent (c.perform net k replies).2.turns).map some =
        (k.order? c.base c.ownPid c.tracked).toList.map Order.recorded? ∧
      ∀ t ∈ (c.perform net k replies).2.turns, Http.IsBare t.request.url := by
  rw [perform_turns] at hdirect ⊢
  cases ho : k.order? c.base c.ownPid c.tracked with
  | none => simp [sent]
  | some o =>
    rw [ho] at hdirect
    obtain ⟨r, hturns, horder, haddress⟩ := Http.exchange_of_receives (hreceives o ho) hdirect
    simp only [hturns, sent, List.map_cons, List.map_nil, Option.toList_some, horder,
      List.mem_singleton, forall_eq]
    exact ⟨trivial, Http.isBare_of_address? haddress⟩

/-! ### A run -/

/-- The turns of a run, note by note. -/
def Run.turns (r : Run) : List (List Http.Turn) :=
  r.notes.map (·.turns)

/-- Runs that resemble each other have the same turns. -/
theorem Run.Resembles.turns_eq {r r' : Run} (h : r.Resembles r') : r.turns = r'.turns := by
  have hturns := congrArg (List.map Trace.turns) h.1
  rwa [List.map_map, List.map_map] at hturns

/-- **Calls send what they order**, one after the other. -/
theorem ofCalls_sends (ks : List (Call × List Reply)) (c : Client)
    (hreceives : ∀ x ∈ orders c.base c.ownPid c.tracked (ks.map Prod.fst), ∀ o ∈ x,
      net.receives o.url)
    (hdirect : ∀ ts ∈ ((Program.ofCalls ks).run net c).turns, ∀ t ∈ ts, t.isFollowed = false) :
    ((Program.ofCalls ks).run net c).turns.map (fun ts => (sent ts).map some) =
        (orders c.base c.ownPid c.tracked (ks.map Prod.fst)).map
          (fun o => o.toList.map Order.recorded?) ∧
      ∀ ts ∈ ((Program.ofCalls ks).run net c).turns, ∀ t ∈ ts, Http.IsBare t.request.url := by
  induction ks generalizing c with
  | nil => simp [Program.ofCalls, Program.run, Run.turns, orders]
  | cons x ks ih =>
    obtain ⟨k, replies⟩ := x
    simp only [List.map_cons, orders, List.mem_cons, Program.ofCalls, run_call, Run.turns,
      forall_eq_or_imp] at hreceives hdirect ⊢
    obtain ⟨hsent, hbare⟩ := perform_sends hreceives.1 hdirect.1
    -- The other calls are made by the client that the first one leaves, which differs from the
    -- client before it in nothing but the process asked for.
    have hrest := ih (c.perform net k replies).1
    simp only [perform_fst_base, perform_fst_ownPid, perform_fst_tracked] at hrest
    obtain ⟨hsents, hbares⟩ := hrest hreceives.2 hdirect.2
    rw [hsent]
    exact ⟨congrArg _ hsents, hbare, hbares⟩

/-! ### The main statement -/

/-- **A run sends what its calls order**, if the network receives what is ordered and no reply is
followed. The notes of the run are about the calls of the program; of each there is recorded what
it orders, one request or none; and that is all that is recorded, in this order. The URL of a
request has no fragment, and a user that it names cannot be read. -/
theorem requests_eq_orders {net : Network} {c : Client} {p : Program}
    (hreceives : ∀ x ∈ orders c.base c.ownPid c.tracked (p.calls.map Prod.fst), ∀ o ∈ x,
      net.receives o.url)
    (hdirect : ∀ n ∈ (p.run net c).notes, ∀ t ∈ n.turns, t.isFollowed = false) :
    (p.run net c).notes.map (·.point.asCall) = p.calls.map Prod.fst ∧
      (p.run net c).notes.map (fun n => (sent n.turns).map some) =
        (orders c.base c.ownPid c.tracked (p.calls.map Prod.fst)).map
          (fun o => o.toList.map Order.recorded?) ∧
      (p.run net c).notes.flatMap (fun n => (sent n.turns).map some) =
        (orders c.base c.ownPid c.tracked (p.calls.map Prod.fst)).flatMap
          (fun o => o.toList.map Order.recorded?) ∧
      ∀ n ∈ (p.run net c).notes, ∀ t ∈ n.turns, Http.IsBare t.request.url := by
  have hturns : (p.run net c).turns = ((Program.ofCalls p.calls).run net c).turns :=
    (run_unrolled net p c).turns_eq
  have hdirect' : ∀ ts ∈ ((Program.ofCalls p.calls).run net c).turns, ∀ t ∈ ts,
      t.isFollowed = false := by
    rw [← hturns]
    exact List.forall_mem_map.mpr hdirect
  obtain ⟨hsents, hbares⟩ := ofCalls_sends p.calls c hreceives hdirect'
  rw [← hturns, Run.turns, List.map_map] at hsents
  rw [← hturns, Run.turns, List.forall_mem_map] at hbares
  refine ⟨run_points p c, hsents, ?_, hbares⟩
  rw [List.flatMap_def, List.flatMap_def]
  exact congrArg List.flatten hsents

/-- A session whose service fails in different ways, and which ends in a panic. -/
def troubled : Program :=
  .scope ⟨.session, true, [{ status := 500 }], [{ dropped := true }]⟩
    (.call (.tryRegister (some 7)) [{ status := 202 }]
      (.call (.unregister none) [] (.panic "full")))
    (.call (.process 7) [{ status := 404 }] (.call .registeredProcesses [{ cut := true }] .leave))

theorem requests_eq_orders_troubled :
    (∀ x ∈ orders "http://H:80/a/../b" 41 none (troubled.calls.map Prod.fst), ∀ o ∈ x,
      Network.service.receives o.url) ∧
    (∀ n ∈ (troubled.run .service (.new "http://H:80/a/../b/" 41)).notes,
      ∀ t ∈ n.turns, t.isFollowed = false) ∧
    (troubled.run .service (.new "http://H:80/a/../b/" 41)).notes.flatMap
        (fun n => (sent n.turns).map some) =
      [some ⟨.post, "http://h/b/pids",
        some ⟨"application/json", "\x7b\"pid\":41\x7d"⟩⟩,
      some ⟨.post, "http://h/b/pids",
        some ⟨"application/json", "\x7b\"pid\":7\x7d"⟩⟩,
      some ⟨.delete, "http://h/b/pids/7", none⟩,
      some ⟨.delete, "http://h/b/pids/7", none⟩,
      some ⟨.get, "http://h/b/pids/7", none⟩,
      some ⟨.get, "http://h/b/pids", none⟩] := by
  have hreceives : ∀ x ∈ orders "http://H:80/a/../b" 41 none
      (troubled.calls.map Prod.fst), ∀ o ∈ x, Network.service.receives o.url := by decide +kernel
  have hdirect : ∀ n ∈ (troubled.run .service (.new "http://H:80/a/../b/" 41)).notes,
      ∀ t ∈ n.turns, t.isFollowed = false := by decide +kernel
  refine ⟨hreceives, hdirect, ?_⟩
  rw [(requests_eq_orders hreceives hdirect).2.2.1]
  decide +kernel

/-- **A request may name a user**: the user of this URL is no escaped form of a text, so that no
authorization can be made from it, and it is left where it is. -/
theorem not_requests_withoutUser :
    (∀ x ∈ orders "http://%FF@h" 41 none [.tryRegister (some 7)], ∀ o ∈ x,
      Network.service.receives o.url) ∧
    (∀ n ∈ ((Program.call (.tryRegister (some 7)) [] .finish).run .service
      (.new "http://%FF@h" 41)).notes, ∀ t ∈ n.turns, t.isFollowed = false) ∧
    ∃ n ∈ ((Program.call (.tryRegister (some 7)) [] .finish).run .service
      (.new "http://%FF@h" 41)).notes, ∃ t ∈ n.turns,
        t.request.url.toString = "http://%FF@h/pids" ∧
          t.request.url.withoutUser ≠ t.request.url := by
  decide +kernel

end ProcTrace.Client
