import ProcTrace.Proofs.Client.Moment

/-!
# Programs unrolled

Which calls a program executes and how it ends is settled before it is run: no client, no network
and no reply has a part in it. Here this is computed from the program alone. A scope counts as two
calls, a registration of the client's own process and an unregistration that names none, with the
calls of its body between them; so what is left of a program is a plain list of calls
(`Program.calls`).

The list stands for the program. A run of the program and a run of its calls one after the other
leave the same **traces**: the same turns, the same events and the same tracked process, place by
place (`run_unrolled`). Other modules prove what they have to say about runs by induction on a list.
-/

namespace ProcTrace.Client

/-! ### What is executed -/

/-- How a program ends. -/
def Program.ending : Program → Ending
  | .finish => .finished
  | .leave => .left
  | .panic message => .panicked message
  | .call _ _ rest => rest.ending
  | .scope s body rest =>
    match s.escaping? body.ending with
    | some message => .panicked message
    | none => rest.ending

/-- The calls that a program executes, in their order and with what is replied to them. -/
def Program.calls : Program → List (Call × List Http.Reply)
  | .finish | .leave | .panic _ => []
  | .call k replies rest => (k, replies) :: rest.calls
  | .scope s body rest =>
    (.register none, s.entryReplies) :: body.calls ++ (.unregister none, s.exitReplies) ::
      match s.escaping? body.ending with
      | some _ => []
      | none => rest.calls

/-- The program that makes calls one after the other. -/
def Program.ofCalls : List (Call × List Http.Reply) → Program
  | [] => .finish
  | (k, replies) :: ks => .call k replies (ofCalls ks)

/-- What is done at a point, as a call. -/
def Point.asCall : Point → Call
  | .call k => k
  | .entry _ => .register none
  | .exit _ => .unregister none

/-! ### What a call leaves behind -/

/-- What there is to see of a call from outside: its exchange, its events and the process that is
tracked after it. -/
structure Trace where
  turns : List Http.Turn
  events : List Event
  tracked : Option Pid

/-- The trace of what a note tells. -/
def Note.trace (n : Note) : Trace :=
  ⟨n.turns, n.events, n.tracked⟩

/-- Two runs leave the same traces, place by place, and the same client. -/
def Run.Resembles (r r' : Run) : Prop :=
  r.notes.map Note.trace = r'.notes.map Note.trace ∧ r.client = r'.client

variable {net : Http.Network}

/-- The entry of a scope leaves the client like a registration. -/
theorem enter_fst_asCall (c : Client) (s : Scope) :
    (c.enter net s).1 = (c.perform net (.register none) s.entryReplies).1 :=
  rfl

/-- The entry of a scope leaves the trace of a registration. -/
theorem enter_trace (c : Client) (s : Scope) :
    (c.enter net s).2.trace = (c.perform net (.register none) s.entryReplies).2.trace :=
  rfl

/-- The exit of a scope leaves the trace of an unregistration. -/
theorem exit_trace (c : Client) (s : Scope) (how : Ending) :
    (c.exit net s how).trace = (c.perform net (.unregister none) s.exitReplies).2.trace :=
  rfl

/-- An unregistration leaves the client as it is. -/
private theorem perform_unregister_fst (c : Client) (pid : Option Pid) (replies : List Http.Reply) :
    (c.perform net (.unregister pid) replies).1 = c :=
  rfl

/-! ### Runs of unrolled programs -/

/-- A run of calls is a run of the first ones and then of the others. -/
theorem run_ofCalls_append (ks ls : List (Call × List Http.Reply)) (c : Client) :
    (Program.ofCalls (ks ++ ls)).run net c =
      let r := (Program.ofCalls ks).run net c
      let r' := (Program.ofCalls ls).run net r.client
      { r' with notes := r.notes ++ r'.notes } := by
  induction ks generalizing c with
  | nil => rfl
  | cons k ks ih => simp only [List.cons_append, Program.ofCalls, run_call, ih]

/-- How a run ends is settled by the program. -/
theorem run_ending (p : Program) (c : Client) : (p.run net c).ending = p.ending := by
  induction p generalizing c with
  | finish | leave | panic => rfl
  | call k replies rest ih => exact ih _
  | scope s body rest ihbody ihrest =>
    have hbody : (body.run net (c.enter net s).1).ending = body.ending := ihbody _
    cases h : s.escaping? body.ending with
    | some message =>
      rw [run_scope_of_escaping (by rwa [hbody])]
      simp only [Program.ending, h]
    | none =>
      rw [run_scope_of_kept (by rwa [hbody])]
      simp only [Program.ending, h, ihrest]

/-- The run of a scope that lets the panic of its body out. -/
theorem run_scope_letOut {s : Scope} {body : Program} {message : String}
    (h : s.escaping? body.ending = some message) (rest : Program) (c : Client) :
    (Program.scope s body rest).run net c =
      let inner := body.run net (c.enter net s).1
      ⟨(c.enter net s).2 :: inner.notes ++ [inner.client.exit net s body.ending],
        .panicked message, inner.client⟩ := by
  have hending : (body.run net (c.enter net s).1).ending = body.ending := run_ending ..
  rw [run_scope_of_escaping (by rwa [hending]), hending]

/-- The run of a scope that lets no panic out. -/
theorem run_scope_kept {s : Scope} {body : Program} (h : s.escaping? body.ending = none)
    (rest : Program) (c : Client) :
    (Program.scope s body rest).run net c =
      let inner := body.run net (c.enter net s).1
      let r := rest.run net inner.client
      { r with notes := (c.enter net s).2 :: inner.notes ++ inner.client.exit net s body.ending ::
          r.notes } := by
  have hending : (body.run net (c.enter net s).1).ending = body.ending := run_ending ..
  rw [run_scope_of_kept (by rwa [hending])]
  simp only [hending, List.append_assoc, List.singleton_append]

@[simp] theorem perform_point_asCall (c : Client) (k : Call) (replies : List Http.Reply) :
    (c.perform net k replies).2.point.asCall = k := by
  cases k <;> rfl

@[simp] theorem enter_point_asCall (c : Client) (s : Scope) :
    (c.enter net s).2.point.asCall = .register none :=
  rfl

@[simp] theorem exit_point_asCall (c : Client) (s : Scope) (how : Ending) :
    (c.exit net s how).point.asCall = .unregister none :=
  rfl

/-- The notes of a run are about the calls of the program. -/
theorem run_points (p : Program) (c : Client) :
    (p.run net c).notes.map (·.point.asCall) = p.calls.map Prod.fst := by
  induction p generalizing c with
  | finish | leave | panic => rfl
  | call k replies rest ih =>
    simp only [run_call, Program.calls, List.map_cons, perform_point_asCall, ih]
  | scope s body rest ihbody ihrest =>
    cases h : s.escaping? body.ending with
    | some message =>
      rw [run_scope_letOut h]
      simp only [Program.calls, h, List.map_append, List.map_cons, List.map_nil,
        enter_point_asCall, exit_point_asCall, ihbody]
    | none =>
      rw [run_scope_kept h]
      simp only [Program.calls, h, List.map_append, List.map_cons, enter_point_asCall,
        exit_point_asCall, ihbody, ihrest]

variable (net) in
/-- **A program stands for its calls.** Made one after the other, they leave the traces that a run
of the program leaves, and the same client. -/
theorem run_unrolled (p : Program) (c : Client) :
    (p.run net c).Resembles ((Program.ofCalls p.calls).run net c) := by
  induction p generalizing c with
  | finish | leave | panic => exact ⟨rfl, rfl⟩
  | call k replies rest ih =>
    obtain ⟨htraces, hclient⟩ := ih (c.perform net k replies).1
    refine ⟨?_, hclient⟩
    simp only [Program.calls, Program.ofCalls, run_call, List.map_cons, htraces]
  | scope s body rest ihbody ihrest =>
    obtain ⟨htraces, hclient⟩ := ihbody (c.enter net s).1
    -- The calls of the body lead to the client that is left when the body has ended.
    have hcalls (ks : List (Call × List Http.Reply)) :
        (Program.ofCalls ((.register none, s.entryReplies) :: body.calls ++
            (.unregister none, s.exitReplies) :: ks)).run net c = _ :=
      run_ofCalls_append ((.register none, s.entryReplies) :: body.calls) _ c
    simp only [Program.ofCalls, run_call, ← enter_fst_asCall, perform_unregister_fst,
      ← hclient] at hcalls
    cases h : s.escaping? body.ending with
    | some message =>
      rw [run_scope_letOut h, Program.calls, h, hcalls]
      refine ⟨?_, rfl⟩
      simp only [List.map_cons, List.map_append, htraces, enter_trace, exit_trace]
      rfl
    | none =>
      obtain ⟨htraces', hclient'⟩ := ihrest (body.run net (c.enter net s).1).client
      rw [run_scope_kept h, Program.calls, h, hcalls]
      refine ⟨?_, hclient'⟩
      simp only [List.map_cons, List.map_append, htraces, htraces', enter_trace, exit_trace]

end ProcTrace.Client
