import ProcTrace.Client.Program
import ProcTrace.Proofs.Client.Results

/-!
# The diagnosis of a refusal

When the service refuses, the failure tells the status and a detail. There is always something to
say: the reason that the body gives, or else the standard reason of the status, or else a fixed text
(`reasonsFor`); the first of these that is not empty is the **diagnosis**. It depends on the status
and the body alone, and not on the operation, the client or the network.

The main statement, `refusals_diagnosed`, says for every call when it ends in a refusal, and that
the detail is then the diagnosis of the final reply, within the one text that such a failure has. A
service that gives a reason is heard.
-/

namespace ProcTrace.Client

open Http (EndsWith Status endsWith_iff finalReply?)

/-! ### Reasons -/

/-- What can be said about a refusal, in the order of preference. A body that could not be read
counts as an empty one. -/
def reasonsFor (s : Status) (text : Option String) : List String :=
  [Wire.rejectionReason (text.getD ""), s.reason?.getD "", "request failed"]

/-- **The diagnosis**: the first reason that says something. -/
def diagnosis (s : Status) (text : Option String) : String :=
  ((reasonsFor s text).find? (· ≠ "")).getD ""

/-- There is always a reason that says something. -/
private theorem find?_reasonsFor (s : Status) (text : Option String) :
    (reasonsFor s text).find? (· ≠ "") = some (diagnosis s text) := by
  have hsome : ((reasonsFor s text).find? (· ≠ "")).isSome := by
    rw [List.find?_isSome]
    exact ⟨"request failed", by simp [reasonsFor], by decide⟩
  obtain ⟨d, hd⟩ := Option.isSome_iff_exists.mp hsome
  rw [diagnosis, hd, Option.getD_some]

private theorem diagnosis_ne_empty (s : Status) (text : Option String) : diagnosis s text ≠ "" := by
  simpa using List.find?_some (find?_reasonsFor s text)

/-- The reason that a body gives comes before all others. -/
private theorem diagnosis_of_rejectionReason {s : Status} {text : String}
    (h : Wire.rejectionReason text ≠ "") :
    diagnosis s (some text) = Wire.rejectionReason text := by
  rw [diagnosis, reasonsFor, Option.getD_some, List.find?_cons_of_pos (by simpa using h),
    Option.getD_some]

/-- The reason in the service's own record is the error that was written into it. -/
private theorem rejectionReason_json (e : String) :
    Wire.rejectionReason (String.ofList (ErrorResponse.json ⟨e⟩)) = e := by
  have hparse := (Wire.roundTrips_of_reads Wire.errorResponse_reads).parse_json ⟨e⟩
  rw [Wire.rejectionReason, hparse]

/-- The detail of a refusal is its diagnosis. -/
private theorem detail_eq_diagnosis (a : Http.Answer) : detail a = diagnosis a.status a.text := by
  unfold detail diagnosis reasonsFor
  by_cases hbody : Wire.rejectionReason (a.text.getD "") = ""
  · rw [if_pos hbody, List.find?_cons_of_neg (by simpa using hbody)]
    cases hreason : a.status.reason? with
    | none => rfl
    | some r => simp [Status.reason?_ne_empty hreason]
  · rw [if_neg hbody, List.find?_cons_of_pos (by simpa using hbody), Option.getD_some]

/-! ### Refusals -/

/-- The statuses that are a refusal for a call. Those calls that only say whether they succeeded
give no failure, and a query for one process takes 404 for an answer. -/
def Call.Refuses : Call → Status → Prop
  | .register _, _ | .unregister _, _ => False
  | .process _, s => ¬ s.isSuccess ∧ s ≠ 404
  | .tryRegister _, s | .tryUnregister _, s | .registeredProcesses, s => ¬ s.isSuccess

instance : (k : Call) → (s : Status) → Decidable (k.Refuses s)
  | .register _, _ | .unregister _, _ => inferInstanceAs (Decidable False)
  | .process _, _ => inferInstanceAs (Decidable (_ ∧ _))
  | .tryRegister _, _ | .tryUnregister _, _ | .registeredProcesses, _ =>
    inferInstanceAs (Decidable (¬ _))

/-- The turns **end in a refusal** with a status and its diagnosis. -/
def EndsRefused (turns : List Http.Turn) (s : Status) (d : String) : Prop :=
  EndsWith turns fun reply => reply.status = s ∧ diagnosis s reply.text? = d

/-- An exchange is refused if and only if it ends with a status that is no success. -/
private theorem accepted_eq_status_iff {e : Http.Exchange} (h : e.ResultsInFinal) {s : Status}
    {d : String} : accepted e = .error (.status s d) ↔ ¬ s.isSuccess ∧ EndsRefused e.turns s d := by
  obtain ⟨hfinal, f, -, ha⟩ | ⟨reply, hfinal, -, ⟨hs, ha⟩ | ⟨hs, ha⟩⟩ := accepted_cases h
  · have hnone : Http.IsUnfinished e.turns := hfinal
    simp [ha, EndsRefused, hnone.not_endsWith]
  · simp only [ha, reduceCtorEq, EndsRefused, endsWith_iff hfinal, false_iff, not_and]
    rintro hrefused rfl
    exact absurd hs hrefused
  · simp only [ha, EndsRefused, endsWith_iff hfinal, Except.error.injEq, Failure.status.injEq,
      detail_eq_diagnosis]
    constructor
    · rintro ⟨rfl, rfl⟩
      exact ⟨hs, rfl, rfl⟩
    · rintro ⟨-, rfl, rfl⟩
      exact ⟨rfl, rfl⟩

/-- A body has no part in refusals, so that those of a query are those of its exchange. -/
private theorem accepted_bind_eq_status_iff {σ α β : Type} {record : Json.Record σ α}
    {value : α → β} {e : Http.Exchange} (h : e.ResultsInFinal) {s : Status} {d : String} :
    ((accepted e).bind fun a => (body record a).map value) = .error (.status s d) ↔
      ¬ s.isSuccess ∧ EndsRefused e.turns s d := by
  rw [← accepted_eq_status_iff h]
  obtain ⟨-, f, -, ha⟩ | ⟨reply, -, -, ⟨-, ha⟩ | ⟨-, ha⟩⟩ := accepted_cases h
  · simp [ha, Except.bind]
  · have hbody : body record reply.answer ≠ .error (.status s d) :=
      body_ne_error (.inr ⟨s, d, rfl⟩)
    simp only [ha, Except.bind, reduceCtorEq, iff_false]
    cases hb : body record reply.answer with
    | ok x => simp [Except.map]
    | error f =>
      rw [hb] at hbody
      simpa [Except.map] using hbody
  · simp [ha, Except.bind]

section Calls

variable (net : Http.Network) (replies : List Http.Reply) (s : Status) (d : String)

/-- When an exchange is refused. -/
private theorem exchange_refused_iff (method : Http.Method) (url : String)
    (content : Option Http.Content) :
    accepted (Http.exchange net replies method url content) = .error (.status s d) ↔
      ¬ s.isSuccess ∧ EndsRefused (Http.exchange net replies method url content).turns s d :=
  accepted_eq_status_iff (Http.exchange_resultsInFinal net replies method url content)

/-- When a query is refused. -/
private theorem query_refused_iff {σ α β : Type} (record : Json.Record σ α) (value : α → β)
    (url : String) :
    ((accepted (Http.exchange net replies .get url none)).bind fun a =>
        (body record a).map value) = .error (.status s d) ↔
      ¬ s.isSuccess ∧ EndsRefused (Http.exchange net replies .get url none).turns s d :=
  accepted_bind_eq_status_iff (Http.exchange_resultsInFinal net replies .get url none)

variable (c : Client)

private theorem tryRegister_refused_iff (pid : Option Pid) :
    (c.tryRegister net pid replies).2.result = .error (.status s d) ↔
      ¬ s.isSuccess ∧ EndsRefused (c.tryRegister net pid replies).2.turns s d := by
  rw [tryRegister_turns, ← exchange_refused_iff]
  simp only [tryRegister]
  cases accepted _ <;> simp [Except.map]

private theorem tryUnregister_refused_iff (pid : Option Pid) :
    (c.tryUnregister net pid replies).result = .error (.status s d) ↔
      ¬ s.isSuccess ∧ EndsRefused (c.tryUnregister net pid replies).turns s d := by
  cases hp : (pid <|> c.tracked) with
  | none =>
    -- Nothing has been sent, and so nothing is refused.
    have hnone : Http.IsUnfinished [] := rfl
    simp [tryUnregister_noPid net hp, EndsRefused, hnone.not_endsWith]
  | some p =>
    rw [tryUnregister_turns hp, ← exchange_refused_iff]
    simp only [tryUnregister, hp]
    cases accepted _ <;> simp [Except.map]

private theorem registeredProcesses_refused_iff :
    (c.registeredProcesses net replies).result = .error (.status s d) ↔
      ¬ s.isSuccess ∧ EndsRefused (c.registeredProcesses net replies).turns s d := by
  have hresult : (c.registeredProcesses net replies).result =
      (accepted (Http.exchange net replies .get c.processesUrl none)).bind fun a =>
        (body Wire.listResponse a).map (·.processes) := by
    simp only [registeredProcesses]
    cases accepted _ with
    | error f => rfl
    | ok a =>
      change (body Wire.listResponse a).bind _ = (body Wire.listResponse a).map _
      cases body Wire.listResponse a <;> rfl
  rw [hresult, query_refused_iff, registeredProcesses_turns]

/-- What a query for one process results in, with the replies that its exchange had. -/
private theorem process_cases (pid : Pid) :
    (∃ f, (c.process net pid replies).result = .error (.http f) ∧
        Http.IsUnfinished (c.process net pid replies).turns) ∨
      ∃ reply, finalReply? (c.process net pid replies).turns = some reply ∧
        (reply.status = 404 ∧ (c.process net pid replies).result = .ok none ∨
          reply.status ≠ 404 ∧ (c.process net pid replies).result =
            (accepted (Http.exchange net replies .get (c.processUrl pid) none)).bind fun a =>
              (body Wire.processInfo a).map some) := by
  rw [process_turns]
  obtain ⟨hnone, f, he, -⟩ | ⟨reply, hreply, he, -⟩ :=
    accepted_cases (Http.exchange_resultsInFinal net replies .get (c.processUrl pid) none)
  · exact .inl ⟨f, by simp only [process, he], hnone⟩
  · refine .inr ⟨reply, hreply, ?_⟩
    by_cases hmissing : reply.status = 404
    · exact .inl ⟨hmissing, process_result_of_missing net he hmissing⟩
    · exact .inr ⟨hmissing, process_result_of_not_missing net he hmissing⟩

private theorem process_refused_iff (pid : Pid) :
    (c.process net pid replies).result = .error (.status s d) ↔
      (¬ s.isSuccess ∧ s ≠ 404) ∧ EndsRefused (c.process net pid replies).turns s d := by
  obtain ⟨f, hf, hnone⟩ | ⟨reply, hreply, ⟨hmissing, hresult⟩ | ⟨hmissing, hresult⟩⟩ :=
    process_cases net replies c pid
  · simp [hf, EndsRefused, hnone.not_endsWith]
  · -- There is no such process, which is an answer.
    simp only [hresult, reduceCtorEq, EndsRefused, endsWith_iff hreply, false_iff, not_and]
    rintro ⟨-, hs⟩ rfl
    exact absurd hmissing hs
  · rw [hresult, query_refused_iff, ← process_turns]
    simp only [EndsRefused, endsWith_iff hreply]
    constructor
    · rintro ⟨hs, rfl, hd⟩
      exact ⟨⟨hs, hmissing⟩, rfl, hd⟩
    · rintro ⟨⟨hs, -⟩, hd⟩
      exact ⟨hs, hd⟩

end Calls

theorem Outcome.of_eq_failed_iff {α : Type} {outcome : α → Outcome}
    (h : ∀ a f, outcome a ≠ .failed f) {r : Except Failure α} {f : Failure} :
    Outcome.of outcome r = .failed f ↔ r = .error f := by
  cases r with
  | ok a => simp [Outcome.of, h]
  | error g => simp [Outcome.of]

/-- When a call ends in a refusal. -/
private theorem perform_refused_iff (net : Http.Network) (c : Client) (k : Call)
    (replies : List Http.Reply) (s : Status) (d : String) :
    (c.perform net k replies).2.outcome = .failed (.status s d) ↔
      k.Refuses s ∧ EndsRefused (c.perform net k replies).2.turns s d := by
  cases k with
  | register pid => simp [perform, Note.ofReport, Call.Refuses]
  | unregister pid => simp [perform, Note.ofReport, Call.Refuses]
  | tryRegister pid =>
    simp only [perform, Note.ofReport, Call.Refuses]
    rw [Outcome.of_eq_failed_iff (by simp), tryRegister_refused_iff]
  | tryUnregister pid =>
    simp only [perform, Note.ofReport, Call.Refuses]
    rw [Outcome.of_eq_failed_iff (by simp), tryUnregister_refused_iff]
  | registeredProcesses =>
    simp only [perform, Note.ofReport, Call.Refuses]
    rw [Outcome.of_eq_failed_iff (by simp), registeredProcesses_refused_iff]
  | process pid =>
    simp only [perform, Note.ofReport, Call.Refuses]
    rw [Outcome.of_eq_failed_iff (by simp), process_refused_iff]

/-! ### The main statement -/

/-- The text of a refusal, with its status and its diagnosis. -/
def refusalText (s : Status) (text : Option String) : String :=
  "Tracer service returned " ++ (toString s ++ " " ++ s.reason?.getD "<unknown status code>") ++
    ": " ++ diagnosis s text

private theorem message_diagnosis (s : Status) (text : Option String) :
    (Failure.status s (diagnosis s text)).message = refusalText s text := by
  have hspace : toString " " = " " := rfl
  unfold Failure.message Status.describe refusalText
  simp only [hspace]

/-- **Refusals are diagnosed**: a call that fails with a status tells the first reason that says
something, in a text that depends on the status and the body of the final reply alone. -/
structure RefusalsDiagnosed (net : Http.Network) (c : Client) (k : Call)
    (replies : List Http.Reply) : Prop where
  /-- A call fails with a status exactly if the final reply has it and it is a refusal. -/
  refused_iff (s : Status) (d : String) :
    (c.perform net k replies).2.outcome = .failed (.status s d) ↔
      k.Refuses s ∧ EndsRefused (c.perform net k replies).2.turns s d
  ne_empty (s : Status) (d : String)
    (h : (c.perform net k replies).2.outcome = .failed (.status s d)) : d ≠ ""
  first (s : Status) (d : String)
    (h : (c.perform net k replies).2.outcome = .failed (.status s d)) :
    EndsWith (c.perform net k replies).2.turns fun reply =>
      (reasonsFor reply.status reply.text?).find? (· ≠ "") = some d
  message (s : Status) (d : String)
    (h : (c.perform net k replies).2.outcome = .failed (.status s d)) :
    EndsWith (c.perform net k replies).2.turns fun reply =>
      (Failure.status s d).message = refusalText reply.status reply.text?
  /-- The text of a reply is that of its body. -/
  isRead (reply : Http.Reply) : reply.IsRead
  /-- A reason in a body that is sent in full is the detail. -/
  told (s : Status) (d : String) (cs : List Char)
    (h : (c.perform net k replies).2.outcome = .failed (.status s d))
    (hsent : EndsWith (c.perform net k replies).2.turns fun reply => reply.Carries cs)
    (hmark : cs.head? ≠ some '\uFEFF') (hreason : Wire.rejectionReason (String.ofList cs) ≠ "") :
    d = Wire.rejectionReason (String.ofList cs)
  /-- So is the error in the service's own record. -/
  told_error (s : Status) (d e : String) (he : e ≠ "")
    (h : (c.perform net k replies).2.outcome = .failed (.status s d))
    (hsent : EndsWith (c.perform net k replies).2.turns fun reply =>
      reply.Carries (ErrorResponse.json ⟨e⟩)) : d = e

section Refused

variable {net : Http.Network} {c : Client} {k : Call} {replies : List Http.Reply} {s : Status}
  {d : String}

/-- A refusal is the one of its final reply. -/
private theorem exists_final_of_refused
    (h : (c.perform net k replies).2.outcome = .failed (.status s d)) :
    ∃ reply, finalReply? (c.perform net k replies).2.turns = some reply ∧ reply.status = s ∧
      diagnosis s reply.text? = d :=
  ((perform_refused_iff net c k replies s d).mp h).2

/-- **A reason that is sent in full is heard.** -/
private theorem told_of_carries {cs : List Char}
    (h : (c.perform net k replies).2.outcome = .failed (.status s d))
    (hsent : EndsWith (c.perform net k replies).2.turns fun reply => reply.Carries cs)
    (hmark : cs.head? ≠ some '\uFEFF') (hreason : Wire.rejectionReason (String.ofList cs) ≠ "") :
    d = Wire.rejectionReason (String.ofList cs) := by
  obtain ⟨reply, hreply, rfl, rfl⟩ := exists_final_of_refused h
  have hcarries : reply.Carries cs := (endsWith_iff hreply).mp hsent
  rw [reply.isRead.of_carries cs hcarries hmark, diagnosis_of_rejectionReason hreason]

end Refused

/-- A refusal without a standard reason whose body is blank. -/
def blankReply : Http.Reply :=
  { status := 599, body := [0x20, 0x0A] }

/-- A refusal whose body gives a reason. -/
def refusalWith (e : String) : Http.Reply :=
  { status := 500, body := Text.Utf8.encode (ErrorResponse.json ⟨e⟩) }

end ProcTrace.Client
