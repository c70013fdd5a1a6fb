import ProcTrace.Client.Program
import ProcTrace.Proofs.Client.Results

/-!
# Verdicts

A registration and an unregistration have two forms each. One of them gives the failure; the other
one only says whether it succeeded, and tells the rest in the last event that it reports, its
**verdict**. Apart from the verdict the two forms do the same (`Condenses`): they make the
same requests, use the same replies and leave the same client behind.

Which verdict is due depends on nothing but the result of the form that gives the failure
(`RegistrationVerdict`, `UnregistrationVerdict`). The text of a failed one ends with the text of the
very failure that the other form gives. The main statement is `wrappers_agree`.
-/

namespace ProcTrace.Client

/-! ### What is said about a result -/

/-- The verdict on the registration of a process: its level and its text. -/
inductive RegistrationVerdict (p : Pid) : Except Failure Registration → Level → String → Prop
  /-- The service does not tell the number of threads. -/
  | registered : RegistrationVerdict p (.ok ⟨p, none⟩) .info s!"Successfully registered PID {p}"
  | registeredWith (n : UInt64) : RegistrationVerdict p (.ok ⟨p, some n⟩) .info
      s!"Successfully registered PID {p} ({n} threads)"
  | failed (f : Failure) : RegistrationVerdict p (.error f) .error
      (s!"Failed to register PID {p}: " ++ f.message)

/-- The verdict on an unregistration, where `p?` is the process that there is to unregister. -/
inductive UnregistrationVerdict (p? : Option Pid) : Except Failure Pid → Level → String → Prop
  | unregistered {p : Pid} (h : p? = some p) : UnregistrationVerdict p? (.ok p) .info
      s!"Successfully unregistered PID {p}"
  | failed {p : Pid} (h : p? = some p) {f : Failure} (hf : f ≠ .noPid) :
      UnregistrationVerdict p? (.error f) .error (s!"Failed to unregister PID {p}: " ++ f.message)
  | noPid (h : p? = none) : UnregistrationVerdict p? (.error .noPid) .warn
      "No PID specified to unregister"

/-- A report that only says whether the operation succeeded **condenses** one that gives the
failure: the exchange is the same, success is the same, and there is one event more, the verdict. -/
structure Condenses {α : Type} (r : Report Bool) (r' : Report (Except Failure α))
    (verdict : Except Failure α → Level → String → Prop) : Prop where
  turns : r.turns = r'.turns
  succeeds : r.result = true ↔ ∃ a, r'.result = .ok a
  events : ∃ e, r.events = r'.events ++ [e] ∧ verdict r'.result e.level e.message

variable (net : Http.Network)

/-! ### Registration -/

/-- A successful registration is that of the process in question. -/
private theorem tryRegister_ok_pid {c : Client} {pid : Option Pid} {replies : List Http.Reply}
    {x : Registration} (h : (c.tryRegister net pid replies).2.result = .ok x) :
    x.pid = c.subject pid :=
  (tryRegister_eq_ok h).1

private theorem register_events (c : Client) (pid : Option Pid) (replies : List Http.Reply) :
    ∃ e, (c.register net pid replies).2.events = (c.tryRegister net pid replies).2.events ++ [e] ∧
      RegistrationVerdict (c.subject pid) (c.tryRegister net pid replies).2.result
        e.level e.message := by
  cases hresult : (c.tryRegister net pid replies).2.result with
  | ok x =>
    refine ⟨.registered (c.subject pid) x.threads, by simp only [register, hresult], ?_⟩
    obtain ⟨p, threads⟩ := x
    obtain rfl : p = c.subject pid := tryRegister_ok_pid net hresult
    cases threads with
    | none => exact .registered
    | some n => exact .registeredWith n
  | error f =>
    exact ⟨.registrationFailed (c.subject pid) f, by simp only [register, hresult], .failed f⟩

/-- The registration that only says whether it succeeded condenses the other one. -/
private theorem register_condenses (c : Client) (pid : Option Pid) (replies : List Http.Reply) :
    Condenses (c.register net pid replies).2 (c.tryRegister net pid replies).2
      (RegistrationVerdict (c.subject pid)) :=
  ⟨register_turns .., register_result_iff .., register_events ..⟩

/-! ### Unregistration -/

/-- To name the process that would be unregistered anyway changes nothing. -/
private theorem tryUnregister_named {c : Client} {pid : Option Pid} {p : Pid}
    (h : (pid <|> c.tracked) = some p) (replies : List Http.Reply) :
    c.tryUnregister net (some p) replies = c.tryUnregister net pid replies := by
  rw [← h, tryUnregister_orTracked]

/-- A successful unregistration is that of the process in question. -/
private theorem tryUnregister_ok_pid {c : Client} {pid : Option Pid} {replies : List Http.Reply}
    {p : Pid}
    (h : (c.tryUnregister net pid replies).result = .ok p) : (pid <|> c.tracked) = some p :=
  (tryUnregister_eq_ok h).1

private theorem unregister_events (c : Client) (pid : Option Pid) (replies : List Http.Reply) :
    ∃ e, (c.unregister net pid replies).events = (c.tryUnregister net pid replies).events ++ [e] ∧
      UnregistrationVerdict (pid <|> c.tracked) (c.tryUnregister net pid replies).result
        e.level e.message := by
  cases hp : (pid <|> c.tracked) with
  | none =>
    rw [tryUnregister_noPid net hp]
    exact ⟨.nothingToUnregister, by simp only [unregister, hp, List.nil_append], .noPid rfl⟩
  | some p =>
    have hnamed := tryUnregister_named net hp replies
    cases hresult : (c.tryUnregister net pid replies).result with
    | ok q =>
      obtain rfl : p = q := Option.some.inj (hp.symm.trans (tryUnregister_ok_pid net hresult))
      refine ⟨.unregistered p, ?_, .unregistered rfl⟩
      rw [← hnamed] at hresult ⊢
      simp only [unregister, hp, hresult]
    | error f =>
      -- With a process at hand, the failure comes from the exchange.
      have hf : f ≠ .noPid := by
        rintro rfl
        exact (tryUnregister_changes net hp replies).noPid hresult
      refine ⟨.unregistrationFailed p f, ?_, .failed rfl hf⟩
      rw [← hnamed] at hresult ⊢
      simp only [unregister, hp, hresult]

/-- The unregistration that only says whether it succeeded condenses the other one. -/
private theorem unregister_condenses (c : Client) (pid : Option Pid) (replies : List Http.Reply) :
    Condenses (c.unregister net pid replies) (c.tryUnregister net pid replies)
      (UnregistrationVerdict (pid <|> c.tracked)) :=
  ⟨unregister_turns .., unregister_result_iff .., unregister_events ..⟩

/-! ### The main statement -/

/-- **The two forms agree**: the one that only says whether it succeeded condenses the other one,
and both leave the same client. It makes no difference whether the process is found out before or
within the form that gives the failure. -/
structure WrappersAgree (c : Client) (pid : Option Pid) (replies : List Http.Reply) : Prop where
  registers : Condenses (c.register net pid replies).2 (c.tryRegister net pid replies).2
    (RegistrationVerdict (c.subject pid))
  registers_named :
    c.tryRegister net (some (c.subject pid)) replies = c.tryRegister net pid replies
  registers_client :
    (c.perform net (.register pid) replies).1 = (c.perform net (.tryRegister pid) replies).1
  unregisters : Condenses (c.unregister net pid replies) (c.tryUnregister net pid replies)
    (UnregistrationVerdict (pid <|> c.tracked))
  unregisters_named : ∀ p ∈ (pid <|> c.tracked),
    c.tryUnregister net (some p) replies = c.tryUnregister net pid replies
  unregisters_client :
    (c.perform net (.unregister pid) replies).1 = (c.perform net (.tryUnregister pid) replies).1

/-- **The two forms agree** for every client, process and supply of replies. -/
theorem wrappers_agree (c : Client) (pid : Option Pid) (replies : List Http.Reply) :
    WrappersAgree net c pid replies where
  registers := register_condenses net c pid replies
  registers_named := rfl
  registers_client :=
    (register_fst net c pid replies).trans (tryRegister_fst net c pid replies).symm
  unregisters := unregister_condenses net c pid replies
  unregisters_named _ hp := tryUnregister_named net hp replies
  unregisters_client := rfl

end ProcTrace.Client
