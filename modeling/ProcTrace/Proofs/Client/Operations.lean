import ProcTrace.Client.Basic

/-!
# What the operations of a client do

Each operation is looked at on its own. The operations that only say whether they succeeded make
the requests of the ones that give the failure, and succeed when those do (`register_result_iff`,
`unregister_result_iff`). Unregistering without naming a process is the same as naming the tracked
one (`unregister_none`), so that nothing is left undone once a process is tracked; and registering
without naming one is the same as naming the client's own (`register_getD`).
-/

namespace ProcTrace.Client

variable (net : Http.Network)

/-! ### Registration -/

/-- A registration makes one exchange, whichever way its outcome is told. -/
theorem register_turns (c : Client) (pid : Option Pid) (replies : List Http.Reply) :
    (c.register net pid replies).2.turns = (c.tryRegister net pid replies).2.turns := by
  simp only [register]
  split <;> simp only

/-- A registration succeeds when its fallible form does. -/
theorem register_result_iff (c : Client) (pid : Option Pid) (replies : List Http.Reply) :
    (c.register net pid replies).2.result = true ↔
      ∃ x, (c.tryRegister net pid replies).2.result = .ok x := by
  simp only [register]
  split <;> simp_all

/-- To name the process that would be registered anyway changes nothing. -/
theorem tryRegister_getD (c : Client) (pid : Option Pid) (replies : List Http.Reply) :
    c.tryRegister net (some (pid.getD c.ownPid)) replies = c.tryRegister net pid replies := by
  simp only [tryRegister, track, subject, Option.getD_some]

/-- Nor does it change anything in the form that only says whether it succeeded. -/
theorem register_getD (c : Client) (pid : Option Pid) (replies : List Http.Reply) :
    c.register net (some (pid.getD c.ownPid)) replies = c.register net pid replies := by
  simp only [register, tryRegister_getD, subject, Option.getD_some]

/-! ### Unregistration -/

/-- Naming no process means naming the tracked one. -/
theorem unregister_none {c : Client} {pid : Pid} (h : c.tracked = some pid)
    (replies : List Http.Reply) :
    c.unregister net none replies = c.unregister net (some pid) replies := by
  simp [unregister, h]

/-- To name the process that would be unregistered anyway changes nothing. -/
theorem unregister_orTracked (c : Client) (pid : Option Pid) (replies : List Http.Reply) :
    c.unregister net (pid <|> c.tracked) replies = c.unregister net pid replies := by
  cases pid with
  | none =>
    cases h : c.tracked with
    | none => rfl
    | some p => exact (unregister_none net h replies).symm
  | some p => rfl

/-- The same holds of the form that gives the failure. -/
theorem tryUnregister_orTracked (c : Client) (pid : Option Pid) (replies : List Http.Reply) :
    c.tryUnregister net (pid <|> c.tracked) replies = c.tryUnregister net pid replies := by
  cases pid <;> cases h : c.tracked <;> simp [tryUnregister, h]

/-- An unregistration makes one exchange, whichever way its outcome is told. -/
theorem unregister_turns (c : Client) (pid : Option Pid) (replies : List Http.Reply) :
    (c.unregister net pid replies).turns = (c.tryUnregister net pid replies).turns := by
  cases h : (pid <|> c.tracked) with
  | none => simp [unregister, tryUnregister, h]
  | some p =>
    simp only [unregister, h]
    split <;> simp [tryUnregister, h]

/-- An unregistration succeeds when its fallible form does. -/
theorem unregister_result_iff (c : Client) (pid : Option Pid) (replies : List Http.Reply) :
    (c.unregister net pid replies).result = true ↔
      ∃ p, (c.tryUnregister net pid replies).result = .ok p := by
  cases h : (pid <|> c.tracked) with
  | none => simp [unregister, tryUnregister, h]
  | some p =>
    have hsome : c.tryUnregister net pid replies = c.tryUnregister net (some p) replies := by
      rw [← h, tryUnregister_orTracked]
    simp only [unregister, h, hsome]
    split <;> simp_all

/-- With a process to unregister, the client never says that there is none. -/
theorem nothingToUnregister_notMem (c : Client) (pid : Pid) (replies : List Http.Reply) :
    Event.nothingToUnregister ∉ (c.unregister net (some pid) replies).events := by
  simp only [unregister, Option.orElse_eq_orElse, Option.orElse_eq_or, Option.some_or]
  split <;> simp [tryUnregister]

end ProcTrace.Client
