import ProcTrace.Proofs.Client.Acceptance
import ProcTrace.Proofs.Http.Body
import ProcTrace.Proofs.Http.Final
import ProcTrace.Proofs.Wire.RoundTrip

/-!
# What the operations result in

The result of an operation is settled by the final reply of its exchange, which is the one after all
redirections. Here this is said for each of the four operations that give the failure, in terms of
the status and the body of that reply alone:

* **Changes** (`ChangesByFinal`): a registration and an unregistration succeed with a success as the
  status, whatever the body; only the number of threads is taken from the body.
* **Queries** (`QueriesByFinal`): a query succeeds with a success as the status and a body that can
  be read and decoded. A query for one process has one more result, that there is none.

Everything else is a failure that tells how far the exchange came: no final reply, another status, a
body that breaks off, a body of another shape. In particular a message that the service writes and
sends in full is what comes of the operation. The main statement is `results_of_final`.
-/

namespace ProcTrace.Client

open Http (EndsWith IsCourse IsUnfinished endsWith_iff finalReply? isCourse_exchange
  not_isUnfinished)

/-! ### The answer and its body -/

/-- What comes of the exchange of an operation: there is no final reply, or its status is a success,
or the service refuses. -/
theorem accepted_cases {e : Http.Exchange} (h : e.ResultsInFinal) :
    (finalReply? e.turns = none ∧ ∃ f, e.result = .error f ∧ accepted e = .error (.http f)) ∨
      ∃ reply, finalReply? e.turns = some reply ∧ e.result = .ok reply.answer ∧
        (reply.status.isSuccess ∧ accepted e = .ok reply.answer ∨
          ¬ reply.status.isSuccess ∧
            accepted e = .error (.status reply.status (detail reply.answer))) := by
  unfold Http.Exchange.ResultsInFinal at h
  cases hfinal : finalReply? e.turns with
  | none =>
    rw [hfinal] at h
    obtain ⟨f, hf⟩ := h
    exact .inl ⟨rfl, f, hf, by simp only [accepted, hf]⟩
  | some reply =>
    rw [hfinal] at h
    refine .inr ⟨reply, rfl, h, ?_⟩
    simp only [accepted, h, accept]
    cases hs : reply.status.isSuccess with
    | true => exact .inl ⟨rfl, if_pos hs⟩
    | false => exact .inr ⟨Bool.false_ne_true, if_neg (by simp [Http.Reply.answer, hs])⟩

section Body

variable {σ α : Type} {record : Json.Record σ α} {reply : Http.Reply}

/-- What comes of a body: it cannot be read, or it can be decoded, or it is of another shape. -/
private theorem body_cases (record : Json.Record σ α) (reply : Http.Reply) :
    (reply.text? = none ∧ body record reply.answer = .error (.http .unreadableBody)) ∨
      ∃ text, reply.text? = some text ∧
        ((∃ x, Wire.parse record text = .ok x ∧ body record reply.answer = .ok x) ∨
          ∃ f, Wire.parse record text = .error f ∧
            body record reply.answer = .error (.serialization f text)) := by
  cases htext : reply.text? with
  | none => exact .inl ⟨rfl, by simp only [body, Http.Reply.answer, htext]⟩
  | some text =>
    refine .inr ⟨text, rfl, ?_⟩
    cases hparse : Wire.parse record text with
    | ok x => exact .inl ⟨x, rfl, by simp only [body, Http.Reply.answer, htext, hparse]⟩
    | error f => exact .inr ⟨f, rfl, by simp only [body, Http.Reply.answer, htext, hparse]⟩

private theorem body_map_eq_ok_iff {β : Type} {value : α → β} {b : β} :
    (body record reply.answer).map value = .ok b ↔
      ∃ text x, reply.text? = some text ∧ Wire.parse record text = .ok x ∧ value x = b := by
  obtain ⟨htext, hbody⟩ | ⟨text, htext, ⟨y, hparse, hbody⟩ | ⟨f, hparse, hbody⟩⟩ :=
    body_cases record reply
  all_goals simp [hbody, htext, Except.map]
  all_goals simp [hparse]

private theorem body_eq_serialization_iff {f : Json.Fault} {text : String} :
    body record reply.answer = .error (.serialization f text) ↔
      reply.text? = some text ∧ Wire.parse record text = .error f := by
  obtain ⟨htext, hbody⟩ | ⟨text', htext, ⟨x, hparse, hbody⟩ | ⟨f', hparse, hbody⟩⟩ :=
    body_cases record reply
  · simp [hbody, htext]
  · simp only [hbody, htext, Option.some.injEq, reduceCtorEq, false_iff, not_and]
    rintro rfl
    simp [hparse]
  · simp only [hbody, htext, Option.some.injEq, Except.error.injEq, Failure.serialization.injEq]
    constructor
    · rintro ⟨rfl, rfl⟩
      exact ⟨rfl, hparse⟩
    · rintro ⟨rfl, hf⟩
      exact ⟨Except.error.inj (hparse.symm.trans hf), rfl⟩

private theorem body_eq_http_iff : (∃ f, body record reply.answer = .error (.http f)) ↔
    reply.text? = none := by
  obtain ⟨htext, hbody⟩ | ⟨text, htext, ⟨x, -, hbody⟩ | ⟨f, -, hbody⟩⟩ :=
    body_cases record reply
  all_goals simp [hbody, htext]

/-- A body is read after the status has been accepted, and has no part in failures before that. -/
theorem body_ne_error {f : Failure} (h : f = .noPid ∨ ∃ s detail, f = .status s detail) :
    body record reply.answer ≠ .error f := by
  obtain ⟨-, hbody⟩ | ⟨text, -, ⟨x, -, hbody⟩ | ⟨g, -, hbody⟩⟩ := body_cases record reply
  all_goals obtain rfl | ⟨s, detail, rfl⟩ := h <;> simp [hbody]

end Body

/-- The number of threads is told exactly by a body that is read in full and decoded. -/
private theorem threads_eq_some_iff {reply : Http.Reply} {n : UInt64} :
    threads reply.answer = some n ↔
      ∃ text x, reply.text? = some text ∧ Wire.parse Wire.registerResponse text = .ok x ∧
        x.threads = n := by
  have hthreads : threads reply.answer = some n ↔
      (body Wire.registerResponse reply.answer).map (·.threads) = .ok n := by
    unfold threads
    split <;> simp_all [Except.map]
  rw [hthreads, body_map_eq_ok_iff]

/-! ### Changes -/

/-- The result of a change **is settled by the final reply**: with a success as its status the
change succeeds with the value that is `due`, and else it fails. -/
structure ChangesByFinal {α : Type} (r : Report (Except Failure α)) (due : Http.Reply → α → Prop) :
    Prop where
  succeeds : (∃ a, r.result = .ok a) ↔ EndsWith r.turns fun reply => reply.status.isSuccess
  ok (a : α) : r.result = .ok a ↔ EndsWith r.turns fun reply => reply.status.isSuccess ∧ due reply a
  http : (∃ f, r.result = .error (.http f)) ↔ IsUnfinished r.turns
  status (s : Http.Status) : (∃ detail, r.result = .error (.status s detail)) ↔
    EndsWith r.turns fun reply => reply.status = s ∧ ¬ s.isSuccess
  noPid : r.result ≠ .error .noPid

/-- An operation that only asks for a success is a change. -/
private theorem changesByFinal_of_accepted {α : Type} {e : Http.Exchange} (h : e.ResultsInFinal)
    {value : Http.Answer → α} {due : Http.Reply → α → Prop}
    (hdue : ∀ reply a, due reply a ↔ value reply.answer = a) (events : List Event) :
    ChangesByFinal ⟨(accepted e).map value, e.turns, events⟩ due := by
  obtain ⟨hfinal, f, -, ha⟩ | ⟨reply, hfinal, -, ⟨hs, ha⟩ | ⟨hs, ha⟩⟩ := accepted_cases h
  · have hnone : IsUnfinished e.turns := hfinal
    constructor <;> simp [Except.map, ha, hnone, hnone.not_endsWith]
  · constructor <;> simp [Except.map, ha, endsWith_iff hfinal, not_isUnfinished hfinal, hs, hdue]
  · constructor <;> simp [Except.map, ha, endsWith_iff hfinal, not_isUnfinished hfinal, hs]

variable (net : Http.Network)

/-- The registration that a reply makes due: that of the process, with the number of threads exactly
if the body is read in full and tells it. -/
def IsDue (pid : Pid) (reply : Http.Reply) (x : Registration) : Prop :=
  x.pid = pid ∧ ∀ n, x.threads = some n ↔
    ∃ text r, reply.text? = some text ∧ Wire.parse Wire.registerResponse text = .ok r ∧
      r.threads = n

/-- A registration that is due is determined by the reply. -/
private theorem isDue_iff {pid : Pid} {reply : Http.Reply} {x : Registration} :
    IsDue pid reply x ↔ ⟨pid, threads reply.answer⟩ = x := by
  obtain ⟨p, t⟩ := x
  simp only [IsDue, ← threads_eq_some_iff, Registration.mk.injEq]
  constructor
  · rintro ⟨rfl, ht⟩
    exact ⟨rfl, (Option.ext ht).symm⟩
  · rintro ⟨rfl, rfl⟩
    exact ⟨rfl, fun n => Iff.rfl⟩

/-- A registration is a change. -/
private theorem tryRegister_changes (c : Client) (pid : Option Pid) (replies : List Http.Reply) :
    ChangesByFinal (c.tryRegister net pid replies).2 (IsDue (c.subject pid)) :=
  changesByFinal_of_accepted (Http.exchange_resultsInFinal ..) (fun _ _ => isDue_iff) _

/-- An unregistration of a process is a change. -/
theorem tryUnregister_changes {c : Client} {pid : Option Pid} {p : Pid}
    (h : (pid <|> c.tracked) = some p) (replies : List Http.Reply) :
    ChangesByFinal (c.tryUnregister net pid replies) fun _ q => q = p := by
  simp only [tryUnregister, h]
  exact changesByFinal_of_accepted (Http.exchange_resultsInFinal ..) (fun _ _ => eq_comm) _

/-- Without a process to unregister nothing is done, and nothing is reported. -/
theorem tryUnregister_noPid {c : Client} {pid : Option Pid} (h : (pid <|> c.tracked) = none)
    (replies : List Http.Reply) :
    c.tryUnregister net pid replies = ⟨.error .noPid, [], []⟩ := by
  simp only [tryUnregister, h]

/-- That is the only way to fail for want of a process. -/
private theorem tryUnregister_result_eq_noPid_iff {c : Client} {pid : Option Pid}
    {replies : List Http.Reply} :
    (c.tryUnregister net pid replies).result = .error .noPid ↔ (pid <|> c.tracked) = none := by
  refine ⟨fun h => ?_, fun h => by rw [tryUnregister_noPid net h]⟩
  exact Option.eq_none_iff_forall_not_mem.mpr fun p hp =>
    (tryUnregister_changes net hp replies).noPid h

/-! ### Queries -/

/-- The failures of a query **are settled by the final reply**. -/
structure QueriesByFinal {α β σ : Type} (r : Report (Except Failure β)) (record : Json.Record σ α)
    (refuses : Http.Status → Prop) : Prop where
  http : (∃ f, r.result = .error (.http f)) ↔
    IsUnfinished r.turns ∨ EndsWith r.turns fun reply => reply.status.isSuccess ∧ reply.text? = none
  serialization (f : Json.Fault) (text : String) : r.result = .error (.serialization f text) ↔
    EndsWith r.turns fun reply => reply.status.isSuccess ∧ reply.text? = some text ∧
      Wire.parse record text = .error f
  status (s : Http.Status) : (∃ detail, r.result = .error (.status s detail)) ↔
    EndsWith r.turns fun reply => reply.status = s ∧ refuses s
  noPid : r.result ≠ .error .noPid

/-- The result of a query for all processes is settled by the final reply. -/
structure ListsByFinal (r : Report (Except Failure (List ProcessInfo))) : Prop extends
    QueriesByFinal r Wire.listResponse (fun s => ¬ s.isSuccess) where
  ok (ps : List ProcessInfo) : r.result = .ok ps ↔
    EndsWith r.turns fun reply => reply.status.isSuccess ∧ ∃ text x, reply.text? = some text ∧
      Wire.parse Wire.listResponse text = .ok x ∧ x.processes = ps

/-- The result of a query for one process is settled by the final reply. -/
structure LooksUpByFinal (r : Report (Except Failure (Option ProcessInfo))) : Prop extends
    QueriesByFinal r Wire.processInfo (fun s => ¬ s.isSuccess ∧ s ≠ 404) where
  missing : r.result = .ok none ↔ EndsWith r.turns fun reply => reply.status = 404
  ok (x : ProcessInfo) : r.result = .ok (some x) ↔
    EndsWith r.turns fun reply => reply.status.isSuccess ∧ ∃ text, reply.text? = some text ∧
      Wire.parse Wire.processInfo text = .ok x

section Query

variable {α β σ : Type} {r : Report (Except Failure β)} {record : Json.Record σ α}
  {refuses : Http.Status → Prop}

private theorem queriesByFinal_of_isUnfinished {f : Http.Failure} (h : IsUnfinished r.turns)
    (hr : r.result = .error (.http f)) : QueriesByFinal r record refuses := by
  constructor <;> simp [hr, h, h.not_endsWith]

private theorem queriesByFinal_of_refused {reply : Http.Reply} {detail : String}
    (h : finalReply? r.turns = some reply) (hs : ¬ reply.status.isSuccess)
    (hrefused : refuses reply.status) (hr : r.result = .error (.status reply.status detail)) :
    QueriesByFinal r record refuses := by
  constructor <;> simp [hr, endsWith_iff h, not_isUnfinished h, hs]
  exact hrefused

private theorem queriesByFinal_of_accepted {reply : Http.Reply} {value : α → β}
    (h : finalReply? r.turns = some reply) (hs : reply.status.isSuccess)
    (hrefuses : ¬ refuses reply.status) (hr : r.result = (body record reply.answer).map value) :
    QueriesByFinal r record refuses := by
  -- Whatever value is made of the body, the failures are those of the body itself.
  have herror (f : Failure) : r.result = .error f ↔ body record reply.answer = .error f := by
    rw [hr]
    cases body record reply.answer <;> simp [Except.map]
  constructor
  · simp only [herror, body_eq_http_iff, endsWith_iff h, not_isUnfinished h, hs, true_and, false_or]
  · intro f text
    simp only [herror, body_eq_serialization_iff, endsWith_iff h, hs, true_and]
  · intro s
    simp only [herror, endsWith_iff h]
    constructor
    · rintro ⟨detail, hbody⟩
      exact absurd hbody (body_ne_error (.inr ⟨s, detail, rfl⟩))
    · rintro ⟨rfl, hrefused⟩
      exact absurd hrefused hrefuses
  · rw [ne_eq, herror]
    exact body_ne_error (.inl rfl)

/-- A status that the query takes for a result is no failure. -/
private theorem queriesByFinal_of_known {reply : Http.Reply} {b : β}
    (h : finalReply? r.turns = some reply) (hs : ¬ reply.status.isSuccess)
    (hrefuses : ¬ refuses reply.status) (hr : r.result = .ok b) :
    QueriesByFinal r record refuses := by
  constructor <;> simp [hr, endsWith_iff h, not_isUnfinished h, hs]
  exact hrefuses

end Query

/-- The turns of a query are those of its exchange. -/
theorem registeredProcesses_turns (c : Client) (replies : List Http.Reply) :
    (c.registeredProcesses net replies).turns =
      (Http.exchange net replies .get c.processesUrl none).turns := by
  simp only [registeredProcesses]

theorem process_turns (c : Client) (pid : Pid) (replies : List Http.Reply) :
    (c.process net pid replies).turns =
      (Http.exchange net replies .get (c.processUrl pid) none).turns := by
  simp only [process]

/-- The query for all processes. -/
private theorem registeredProcesses_lists (c : Client) (replies : List Http.Reply) :
    ListsByFinal (c.registeredProcesses net replies) := by
  obtain ⟨hfinal, f, -, ha⟩ | ⟨reply, hfinal, -, ⟨hs, ha⟩ | ⟨hs, ha⟩⟩ :=
    accepted_cases (Http.exchange_resultsInFinal net replies .get c.processesUrl none)
  all_goals rw [← registeredProcesses_turns] at hfinal
  · have hresult : (c.registeredProcesses net replies).result = .error (.http f) := by
      simp only [registeredProcesses, ha]
      rfl
    have hnone : IsUnfinished (c.registeredProcesses net replies).turns := hfinal
    refine ⟨queriesByFinal_of_isUnfinished hnone hresult, fun ps => ?_⟩
    simp [hresult, hnone.not_endsWith]
  · have hresult : (c.registeredProcesses net replies).result =
        (body Wire.listResponse reply.answer).map (·.processes) := by
      simp only [registeredProcesses, ha]
      change (body Wire.listResponse reply.answer).bind _ = _
      cases body Wire.listResponse reply.answer <;> rfl
    refine ⟨queriesByFinal_of_accepted hfinal hs (by simp [hs]) hresult, fun ps => ?_⟩
    simp only [hresult, body_map_eq_ok_iff, endsWith_iff hfinal, hs, true_and]
  · have hresult : (c.registeredProcesses net replies).result =
        .error (.status reply.status (detail reply.answer)) := by
      simp only [registeredProcesses, ha]
      rfl
    refine ⟨queriesByFinal_of_refused hfinal hs hs hresult, fun ps => ?_⟩
    simp [hresult, endsWith_iff hfinal, hs]

/-- A process that the service does not know is no failure. -/
theorem process_result_of_missing {c : Client} {pid : Pid} {replies : List Http.Reply}
    {a : Http.Answer}
    (h : (Http.exchange net replies .get (c.processUrl pid) none).result = .ok a)
    (hmissing : a.status = 404) : (c.process net pid replies).result = .ok none := by
  have heq : a.status = Http.Status.notFound := hmissing
  simp only [process, h]
  rw [if_pos heq]

/-- Any other status counts as it does for the other operations. -/
theorem process_result_of_not_missing {c : Client} {pid : Pid} {replies : List Http.Reply}
    {a : Http.Answer}
    (h : (Http.exchange net replies .get (c.processUrl pid) none).result = .ok a)
    (hmissing : a.status ≠ 404) :
    (c.process net pid replies).result =
      (accepted (Http.exchange net replies .get (c.processUrl pid) none)).bind fun a =>
        (body Wire.processInfo a).map some := by
  have hne : ¬ a.status = Http.Status.notFound := hmissing
  simp only [process, accepted, h]
  rw [if_neg hne]
  rfl

/-- The query for one process. -/
private theorem process_looksUp (c : Client) (pid : Pid) (replies : List Http.Reply) :
    LooksUpByFinal (c.process net pid replies) := by
  obtain ⟨hfinal, f, he, ha⟩ | ⟨reply, hfinal, he, h⟩ :=
    accepted_cases (Http.exchange_resultsInFinal net replies .get (c.processUrl pid) none)
  all_goals rw [← process_turns] at hfinal
  · have hresult : (c.process net pid replies).result = .error (.http f) := by
      simp only [process, he]
    have hnone : IsUnfinished (c.process net pid replies).turns := hfinal
    refine ⟨queriesByFinal_of_isUnfinished hnone hresult, ?_, fun x => ?_⟩ <;>
      simp [hresult, hnone.not_endsWith]
  · -- The status 404 is no success, but it is looked at before that counts.
    by_cases hmissing : reply.status = 404
    · have hs : ¬ reply.status.isSuccess := by rw [hmissing]; decide
      have hresult := process_result_of_missing net he hmissing
      refine ⟨queriesByFinal_of_known hfinal hs (by simp [hmissing]) hresult, ?_, fun x => ?_⟩
      · simp [hresult, endsWith_iff hfinal, hmissing]
      · simp [hresult, endsWith_iff hfinal, hs]
    · have hresult := process_result_of_not_missing net he hmissing
      obtain ⟨hs, ha⟩ | ⟨hs, ha⟩ := h
      · have hmap : (c.process net pid replies).result =
            (body Wire.processInfo reply.answer).map some := by rw [hresult, ha]; rfl
        refine ⟨queriesByFinal_of_accepted hfinal hs (by simp [hs]) hmap, ?_, fun x => ?_⟩
        · simp [hmap, body_map_eq_ok_iff, endsWith_iff hfinal, hmissing]
        · simp [hmap, body_map_eq_ok_iff, endsWith_iff hfinal, hs]
      · have herror : (c.process net pid replies).result =
            .error (.status reply.status (detail reply.answer)) := by rw [hresult, ha]; rfl
        refine ⟨queriesByFinal_of_refused hfinal hs ⟨hs, hmissing⟩ herror, ?_, fun x => ?_⟩
        · simp [herror, endsWith_iff hfinal, hmissing]
        · simp [herror, endsWith_iff hfinal, hs]

/-! ### Messages of the service -/

section Sent

variable {reply : Http.Reply}

/-- A message that is sent in full is read and decoded. -/
theorem parse_of_carries {σ α : Type} {record : Json.Record σ α} {json : α → List Char}
    (hread : ∀ a, record.reader.Reads (json a) a) {a : α} (hmark : (json a).head? = some '\x7b')
    (h : reply.Carries (json a)) :
    ∃ text, reply.text? = some text ∧ Wire.parse record text = .ok a := by
  refine ⟨_, reply.isRead.of_carries _ h ?_, (Wire.roundTrips_of_reads hread).parse_json a⟩
  rw [hmark]
  decide

/-- The registration that the answer to it makes due. -/
private theorem isDue_of_carries {pid : Pid} {x : RegisterResponse} (h : reply.Carries x.json) :
    IsDue pid reply ⟨pid, some x.threads⟩ := by
  obtain ⟨text, htext, hparse⟩ := parse_of_carries Wire.registerResponse_reads rfl h
  refine ⟨rfl, fun n => ?_⟩
  simp [htext, hparse]

variable {c : Client} {replies : List Http.Reply}

private theorem tryRegister_of_sent {pid : Option Pid} {x : RegisterResponse}
    (h : EndsWith (c.tryRegister net pid replies).2.turns fun reply =>
      reply.status.isSuccess ∧ reply.Carries x.json) :
    (c.tryRegister net pid replies).2.result = .ok ⟨c.subject pid, some x.threads⟩ := by
  obtain ⟨reply, hfinal, hs, hsent⟩ := h
  exact ((tryRegister_changes net c pid replies).ok _).mpr
    ⟨reply, hfinal, hs, isDue_of_carries hsent⟩

private theorem registeredProcesses_of_sent {x : ListResponse}
    (h : EndsWith (c.registeredProcesses net replies).turns fun reply =>
      reply.status.isSuccess ∧ reply.Carries x.json) :
    (c.registeredProcesses net replies).result = .ok x.processes := by
  obtain ⟨reply, hfinal, hs, hsent⟩ := h
  obtain ⟨text, htext, hparse⟩ := parse_of_carries Wire.listResponse_reads rfl hsent
  exact ((registeredProcesses_lists net c replies).ok _).mpr
    ⟨reply, hfinal, hs, text, x, htext, hparse, rfl⟩

private theorem process_of_sent {pid : Pid} {x : ProcessInfo}
    (h : EndsWith (c.process net pid replies).turns fun reply =>
      reply.status.isSuccess ∧ reply.Carries x.json) :
    (c.process net pid replies).result = .ok (some x) := by
  obtain ⟨reply, hfinal, hs, hsent⟩ := h
  obtain ⟨text, htext, hparse⟩ := parse_of_carries Wire.processInfo_reads rfl hsent
  exact ((process_looksUp net c pid replies).ok x).mpr ⟨reply, hfinal, hs, text, htext, hparse⟩

end Sent

/-! ### The main statement -/

/-- **The final reply settles the result** of every operation of a client that gives the failure. It
is the one at the end of the course from the URL of the operation through the replies. -/
structure ResultsOfFinal (net : Http.Network) (c : Client) : Prop where
  /-- A registration succeeds exactly with a success as the status, whatever the body. -/
  registers (pid : Option Pid) (replies : List Http.Reply) :
    IsCourse net c.processesUrl replies (c.tryRegister net pid replies).2.turns ∧
      ChangesByFinal (c.tryRegister net pid replies).2 (IsDue (c.subject pid))
  /-- So does an unregistration that has a process to unregister. -/
  unregisters (pid : Option Pid) (replies : List Http.Reply) : ∀ p ∈ (pid <|> c.tracked),
    IsCourse net (c.processUrl p) replies (c.tryUnregister net pid replies).turns ∧
      ChangesByFinal (c.tryUnregister net pid replies) fun _ q => q = p
  /-- Only one that has none fails for that reason. -/
  noPid_iff (pid : Option Pid) (replies : List Http.Reply) :
    (c.tryUnregister net pid replies).result = .error .noPid ↔ pid = none ∧ c.tracked = none
  /-- Then nothing is sent and nothing is announced. -/
  noPid_silent (pid : Option Pid) (replies : List Http.Reply)
    (h : (c.tryUnregister net pid replies).result = .error .noPid) :
    (c.tryUnregister net pid replies).turns = [] ∧ (c.tryUnregister net pid replies).events = []
  /-- The query for all processes results in those of the list that the body holds. -/
  lists (replies : List Http.Reply) :
    IsCourse net c.processesUrl replies (c.registeredProcesses net replies).turns ∧
      ListsByFinal (c.registeredProcesses net replies)
  /-- The query for one process results in the one that the body holds, or in none for 404. -/
  looksUp (pid : Pid) (replies : List Http.Reply) :
    IsCourse net (c.processUrl pid) replies (c.process net pid replies).turns ∧
      LooksUpByFinal (c.process net pid replies)
  /-- The text of a reply, here as above, is that of its body. -/
  isRead (reply : Http.Reply) : reply.IsRead
  /-- The number of threads that the service tells is told. -/
  registers_sent (pid : Option Pid) (replies : List Http.Reply) (x : RegisterResponse)
    (h : EndsWith (c.tryRegister net pid replies).2.turns fun reply =>
      reply.status.isSuccess ∧ reply.Carries x.json) :
    (c.tryRegister net pid replies).2.result = .ok ⟨c.subject pid, some x.threads⟩
  /-- The processes that the service lists are found, whatever their total is said to be. -/
  lists_sent (replies : List Http.Reply) (x : ListResponse)
    (h : EndsWith (c.registeredProcesses net replies).turns fun reply =>
      reply.status.isSuccess ∧ reply.Carries x.json) :
    (c.registeredProcesses net replies).result = .ok x.processes
  /-- The process that the service describes is found. -/
  looksUp_sent (pid : Pid) (replies : List Http.Reply) (x : ProcessInfo)
    (h : EndsWith (c.process net pid replies).turns fun reply =>
      reply.status.isSuccess ∧ reply.Carries x.json) :
    (c.process net pid replies).result = .ok (some x)

/-- The reply in which the service sends a text in full. -/
def replyWith (cs : List Char) : Http.Reply :=
  { body := Text.Utf8.encode cs }

private theorem replyWith_carries (cs : List Char) : (replyWith cs).Carries cs :=
  ⟨Bool.false_ne_true, Bool.false_ne_true, rfl, rfl⟩

/-- A process that has been traced since a midnight. -/
def tracedProcess : ProcessInfo :=
  ⟨7, 2, ⟨⟨2024, 5, 1, by decide, by decide⟩, 0, 0, by decide, by decide, by decide⟩⟩

/-- A list with an entry that comes twice, and with a total of another length. -/
def tracedTwice : ListResponse :=
  ⟨[tracedProcess, tracedProcess], 5⟩

end ProcTrace.Client
