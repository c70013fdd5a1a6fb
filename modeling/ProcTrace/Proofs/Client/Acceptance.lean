import ProcTrace.Proofs.Client.Operations
import ProcTrace.Proofs.Http.Redirection

/-!
# What a successful operation has achieved

An operation succeeds when the last answer of its exchange is a success. That the service has
accepted the operation itself does not follow: a reply may have the request rewritten, and what is
accepted then is a query that has nothing to do with the operation. The main statement,
`success_accepts_iff`, says exactly when a success stands for the operation: when no reply on the
way rewrote it, which is a matter of the statuses of the replies alone. `not_success_accepts` is the
smallest exchange in which a success does not.
-/

namespace ProcTrace.Client

open Http (Network Reply Request Turn)

/-! ### Requests that operations stand for -/

/-- The request has a process registered: its body is the JSON text of the process. -/
def Registers (pid : Pid) (r : Request) : Prop :=
  r.method = .post ∧ r.text = "\x7b\"pid\":" ++ toString pid.toNat ++ "\x7d"

/-- The request has something unregistered. -/
def Unregisters (r : Request) : Prop :=
  r.method = .delete

instance (pid : Pid) (r : Request) : Decidable (Registers pid r) :=
  inferInstanceAs (Decidable (_ ∧ _))

instance (r : Request) : Decidable (Unregisters r) :=
  inferInstanceAs (Decidable (_ = _))

/-- The body of a registration, written out. -/
theorem registration_text (pid : Pid) :
    (registration pid).text = "\x7b\"pid\":" ++ toString pid.toNat ++ "\x7d" := by
  rw [← String.toList_inj]
  simp [registration, RegisterRequest.json, Json.writeObject, Json.writeText, Json.separated,
    Json.writeNat, Json.escapeChar, ToString.toString, Nat.repr]

/-! ### The answer behind a success -/

variable {net : Network} {c : Client} {pid : Option Pid} {replies : List Reply}

private theorem accepted_eq_ok {e : Http.Exchange} {a : Http.Answer} (h : accepted e = .ok a) :
    e.result = .ok a ∧ a.status.isSuccess := by
  unfold accepted at h
  split at h
  · unfold accept at h
    split at h <;> simp_all
  · simp at h

/-- A registration that succeeds has had its exchange answered with a success. -/
theorem tryRegister_eq_ok {x : Registration}
    (h : (c.tryRegister net pid replies).2.result = .ok x) :
    x.pid = c.subject pid ∧
      ∃ a, (Http.exchange net replies .post c.processesUrl
        (some (registration (c.subject pid)))).result = .ok a ∧ a.status.isSuccess := by
  simp only [tryRegister] at h
  cases ha : accepted (Http.exchange net replies .post c.processesUrl
      (some (registration (c.subject pid)))) with
  | error f => simp [ha, Except.map] at h
  | ok a =>
    simp only [ha, Except.map, Except.ok.injEq] at h
    exact ⟨by rw [← h], a, accepted_eq_ok ha⟩

/-- An unregistration that succeeds has named a process and has had its exchange answered with a
success. -/
theorem tryUnregister_eq_ok {p : Pid} (h : (c.tryUnregister net pid replies).result = .ok p) :
    (pid <|> c.tracked) = some p ∧
      ∃ a, (Http.exchange net replies .delete (c.processUrl p) none).result = .ok a ∧
        a.status.isSuccess := by
  cases hpid : (pid <|> c.tracked) with
  | none => simp [tryUnregister, hpid] at h
  | some q =>
    simp only [tryUnregister, hpid] at h
    cases ha : accepted (Http.exchange net replies .delete (c.processUrl q) none) with
    | error f => simp [ha, Except.map] at h
    | ok a =>
      simp only [ha, Except.map, Except.ok.injEq] at h
      subst h
      exact ⟨rfl, a, accepted_eq_ok ha⟩

/-- The turns of a registration are those of its exchange. -/
theorem tryRegister_turns (net : Network) (c : Client) (pid : Option Pid)
    (replies : List Reply) :
    (c.tryRegister net pid replies).2.turns =
      (Http.exchange net replies .post c.processesUrl
        (some (registration (c.subject pid)))).turns := by
  simp only [tryRegister]

/-- The turns of an unregistration that has a process are those of its exchange. -/
theorem tryUnregister_turns {p : Pid} (h : (pid <|> c.tracked) = some p) :
    (c.tryUnregister net pid replies).turns =
      (Http.exchange net replies .delete (c.processUrl p) none).turns := by
  simp [tryUnregister, h]

/-! ### The main statement -/

private theorem rewrittenBy_post_eq_false {status : Http.Status} :
    Http.Method.rewrittenBy .post status = false ↔ status ∉ [301, 302, 303] := by
  simp [Http.Method.rewrittenBy]
  tauto

private theorem rewrittenBy_delete_eq_false {status : Http.Status} :
    Http.Method.rewrittenBy .delete status = false ↔ status ≠ 303 := by
  simp [Http.Method.rewrittenBy]

/-- A successful registration has been answered with one success, and what that answers is a
registration of the process if and only if no reply rewrote the request. -/
private theorem registers_iff_of_success {x : Registration}
    (h : (c.tryRegister net pid replies).2.result = .ok x) :
    ∃ t, (c.tryRegister net pid replies).2.turns.filter (·.reply.status.isSuccess) = [t] ∧
      (Registers x.pid t.request ↔
        ∀ u ∈ (c.tryRegister net pid replies).2.turns, u.reply.status ∉ [301, 302, 303]) := by
  obtain ⟨hpid, a, hresult, ha⟩ := tryRegister_eq_ok h
  obtain ⟨t, hfilter, hcontent, hiff⟩ := Http.exchange_success_iff (by decide) hresult ha
  simp only [rewrittenBy_post_eq_false] at hiff
  rw [tryRegister_turns]
  refine ⟨t, hfilter, ?_⟩
  rw [← hiff]
  constructor
  · intro hregisters
    exact hregisters.1
  · intro hpost
    refine ⟨hpost, ?_⟩
    -- The body is still the one that the operation gave its request.
    rw [Request.text, hcontent hpost, hpid]
    exact registration_text _

/-- A successful unregistration has been answered with one success, and what that answers is an
unregistration if and only if no reply rewrote the request. -/
private theorem unregisters_iff_of_success {p : Pid}
    (h : (c.tryUnregister net pid replies).result = .ok p) :
    ∃ t, (c.tryUnregister net pid replies).turns.filter (·.reply.status.isSuccess) = [t] ∧
      (Unregisters t.request ↔
        ∀ u ∈ (c.tryUnregister net pid replies).turns, u.reply.status ≠ 303) := by
  obtain ⟨hpid, a, hresult, ha⟩ := tryUnregister_eq_ok h
  obtain ⟨t, hfilter, -, hiff⟩ := Http.exchange_success_iff (by decide) hresult ha
  simp only [rewrittenBy_delete_eq_false] at hiff
  rw [tryUnregister_turns hpid]
  exact ⟨t, hfilter, hiff⟩

/-- **A success stands for the operation exactly when no reply rewrote its request.** Registrations
are rewritten by the statuses 301, 302 and 303, unregistrations by 303 only; and the operations that
only say whether they succeeded say so in the same exchanges. -/
theorem success_accepts_iff (net : Network) (c : Client) (pid : Option Pid)
    (replies : List Reply) :
    (∀ x, (c.tryRegister net pid replies).2.result = .ok x → x.pid = c.subject pid ∧
      ∃ t, (c.tryRegister net pid replies).2.turns.filter (·.reply.status.isSuccess) = [t] ∧
        (Registers x.pid t.request ↔
          ∀ u ∈ (c.tryRegister net pid replies).2.turns, u.reply.status ∉ [301, 302, 303])) ∧
    (c.register net pid replies).2.turns = (c.tryRegister net pid replies).2.turns ∧
    ((c.register net pid replies).2.result = true ↔
      ∃ x, (c.tryRegister net pid replies).2.result = .ok x) ∧
    (∀ p, (c.tryUnregister net pid replies).result = .ok p →
      ∃ t, (c.tryUnregister net pid replies).turns.filter (·.reply.status.isSuccess) = [t] ∧
        (Unregisters t.request ↔
          ∀ u ∈ (c.tryUnregister net pid replies).turns, u.reply.status ≠ 303)) ∧
    (c.unregister net pid replies).turns = (c.tryUnregister net pid replies).turns ∧
    ((c.unregister net pid replies).result = true ↔
      ∃ p, (c.tryUnregister net pid replies).result = .ok p) := by
  refine ⟨fun x h => ⟨(tryRegister_eq_ok h).1, registers_iff_of_success h⟩,
    register_turns net c pid replies, register_result_iff net c pid replies,
    fun p h => unregisters_iff_of_success h, unregister_turns net c pid replies,
    unregister_result_iff net c pid replies⟩

/-- A registration that is answered with a status and a place to go. -/
def sentElsewhere (status : Http.Status) : List Reply :=
  [{ status, headers := [("Location", "/elsewhere")] }]

/-- A registration that has to be repeated elsewhere is accepted there. -/
theorem success_accepts_repeated :
    ∃ t, ((Client.new "http://h" 41).tryRegister .service (some 7)
        (sentElsewhere 307)).2.turns.filter (·.reply.status.isSuccess) = [t] ∧
      Registers 7 t.request := by
  have hok : ((Client.new "http://h" 41).tryRegister .service (some 7)
      (sentElsewhere 307)).2.result = .ok ⟨7, none⟩ := by decide +kernel
  obtain ⟨-, t, hfilter, hiff⟩ := (success_accepts_iff _ _ _ _).1 _ hok
  exact ⟨t, hfilter, hiff.mpr (by decide +kernel)⟩

/-- **A success does not always stand for the operation.** A registration that is answered with 303
succeeds, but what the service has accepted then is a query; and so it is with an unregistration. -/
theorem not_success_accepts :
    (∃ t ∈ ((Client.new "http://h" 41).tryRegister .service (some 7)
        (sentElsewhere 303)).2.turns, t.reply.status.isSuccess ∧ ¬ Registers 7 t.request) ∧
    ((Client.new "http://h" 41).tryRegister .service (some 7)
      (sentElsewhere 303)).2.result = .ok ⟨7, none⟩ ∧
    ((Client.new "http://h" 41).register .service (some 7) (sentElsewhere 303)).2.result ∧
    (∃ t ∈ ((Client.new "http://h" 41).tryUnregister .service (some 7)
        (sentElsewhere 303)).turns, t.reply.status.isSuccess ∧ ¬ Unregisters t.request) ∧
    ((Client.new "http://h" 41).tryUnregister .service (some 7)
      (sentElsewhere 303)).result = .ok 7 ∧
    ((Client.new "http://h" 41).unregister .service (some 7) (sentElsewhere 303)).result := by
  decide +kernel

end ProcTrace.Client
