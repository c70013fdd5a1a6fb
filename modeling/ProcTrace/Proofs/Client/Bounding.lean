import ProcTrace.Proofs.Client.Unrolled

/-!
# Three ways to bound tracing

A process can be traced for as long as a program runs in three ways: within a session, within a
scope that is told nothing, and between a registration and an unregistration that are called for.
The third way has to be spelled out on every path, since nothing is done at the end of a program
that leaves early or panics: what the program executes comes first, and then the unregistration
(`Program.andThen`).

The main statement, `bounded_alike`, says that all three are the same: the same turns, events and
tracked process at every point, the same notes inside, and the same client in the end. The two forms
of scope also end alike, whatever follows them; and a session is told what the registration says.
-/

namespace ProcTrace.Client

/-! ### What a program executes, and then another one -/

/-- What a program executes, and then another one, **however the first one ends**. A scope that lets
a panic out is made to keep it, so that the other program is run where the panic left off. -/
def Program.andThen : Program → Program → Program
  | .finish, q | .leave, q | .panic _, q => q
  | .call k replies rest, q => .call k replies (rest.andThen q)
  | .scope s body rest, q =>
    match s.escaping? body.ending with
    | some _ => .scope { s with catches := true } body q
    | none => .scope s body (rest.andThen q)

variable {net : Http.Network}

/-- Whether a scope keeps panics has no part in how it is entered. -/
private theorem enter_catching (s : Scope) (c : Client) :
    c.enter net { s with catches := true } = c.enter net s := by
  simp only [enter]

/-- Nor has it a part in how the scope is left. -/
private theorem exit_catching (s : Scope) (c : Client) (how : Ending) :
    c.exit net { s with catches := true } how = c.exit net s how := by
  simp only [exit]

/-- The run of a scope that has been made to keep panics. -/
private theorem run_scope_catching (s : Scope) (body rest : Program) (c : Client) :
    (Program.scope { s with catches := true } body rest).run net c =
      let inner := body.run net (c.enter net s).1
      let r := rest.run net inner.client
      { r with notes := (c.enter net s).2 :: inner.notes ++ inner.client.exit net s body.ending ::
          r.notes } := by
  have hkept : ({ s with catches := true } : Scope).escaping? body.ending = none := by
    cases body.ending <;> rfl
  rw [run_scope_kept hkept]
  simp only [enter_catching, exit_catching]

/-- **A program is executed, and then the other one**, with the client that the first one left. -/
theorem run_andThen (p q : Program) (c : Client) :
    (p.andThen q).run net c =
      let r := p.run net c
      let r' := q.run net r.client
      { r' with notes := r.notes ++ r'.notes } := by
  induction p generalizing c with
  | finish | leave | panic => rfl
  | call k replies rest ih =>
    rw [Program.andThen, run_call, ih, run_call]
    rfl
  | scope s body rest ihbody ihrest =>
    cases h : s.escaping? body.ending with
    | some message =>
      rw [Program.andThen, h, run_scope_catching, run_scope_letOut h]
      simp only [List.append_assoc, List.cons_append, List.nil_append]
    | none =>
      rw [Program.andThen, h, run_scope_kept h, run_scope_kept h]
      simp only [ihrest, List.append_assoc, List.cons_append]

/-! ### The three ways -/

/-- A program in a scope of the given form. -/
def Program.within (form : ScopeForm) (catches : Bool) (entryReplies exitReplies : List Http.Reply)
    (body rest : Program) : Program :=
  .scope ⟨form, catches, entryReplies, exitReplies⟩ body rest

/-- What a program executes, between a registration of the client's own process and an
unregistration of the tracked one. -/
def Program.between (entryReplies exitReplies : List Http.Reply) (body : Program) : Program :=
  .call (.register none) entryReplies (body.andThen (.call (.unregister none) exitReplies .finish))

variable (net) in
/-- The run of explicit calls: the registration, what the program executes, the unregistration. -/
private theorem run_between (entryReplies exitReplies : List Http.Reply) (body : Program)
    (c : Client) :
    (Program.between entryReplies exitReplies body).run net c =
      let inner := body.run net (c.perform net (.register none) entryReplies).1
      ⟨(c.perform net (.register none) entryReplies).2 :: inner.notes ++
          [(inner.client.perform net (.unregister none) exitReplies).2],
        .finished, inner.client⟩ := by
  rw [Program.between, run_call, run_andThen]
  rfl

variable (net) in
/-- The notes and the client of a run in a scope that nothing follows. -/
private theorem run_within_finish (form : ScopeForm) (catches : Bool)
    (entryReplies exitReplies : List Http.Reply) (body : Program) (c : Client) :
    let s : Scope := ⟨form, catches, entryReplies, exitReplies⟩
    let inner := body.run net (c.enter net s).1
    let r := (Program.within form catches entryReplies exitReplies body .finish).run net c
    r.notes = (c.enter net s).2 :: inner.notes ++ [inner.client.exit net s body.ending] ∧
      r.client = inner.client := by
  intro s inner r
  cases h : s.escaping? body.ending with
  | some message =>
    have hrun : r = _ := run_scope_letOut h .finish c
    rw [hrun]
    exact ⟨rfl, rfl⟩
  | none =>
    have hrun : r = _ := run_scope_kept h .finish c
    rw [hrun]
    exact ⟨rfl, rfl⟩

/-- A scope of either form resembles the explicit calls. -/
private theorem within_resembles_between (form : ScopeForm) (catches : Bool)
    (entryReplies exitReplies : List Http.Reply) (body : Program) (c : Client) :
    ((Program.within form catches entryReplies exitReplies body .finish).run net c).Resembles
      ((Program.between entryReplies exitReplies body).run net c) := by
  obtain ⟨hnotes, hclient⟩ := run_within_finish net form catches entryReplies exitReplies body c
  rw [Run.Resembles, hnotes, hclient, run_between]
  refine ⟨?_, rfl⟩
  simp only [List.map_cons, List.map_append, List.map_nil, enter_trace, exit_trace,
    enter_fst_asCall]

/-- The two forms of scope end alike and leave the same traces, whatever follows. -/
private theorem session_resembles_scoped (catches : Bool)
    (entryReplies exitReplies : List Http.Reply) (body rest : Program) (c : Client) :
    ((Program.within .session catches entryReplies exitReplies body rest).run net c).Resembles
        ((Program.within .scoped catches entryReplies exitReplies body rest).run net c) ∧
      ((Program.within .session catches entryReplies exitReplies body rest).run net c).ending =
        ((Program.within .scoped catches entryReplies exitReplies body rest).run net c).ending := by
  have hsame : (⟨.session, catches, entryReplies, exitReplies⟩ : Scope).escaping? body.ending =
      (⟨.scoped, catches, entryReplies, exitReplies⟩ : Scope).escaping? body.ending := by
    cases body.ending <;> rfl
  simp only [Program.within]
  cases h : (⟨.scoped, catches, entryReplies, exitReplies⟩ : Scope).escaping? body.ending with
  | some message =>
    rw [run_scope_letOut h, run_scope_letOut (hsame.trans h)]
    simp only [Run.Resembles, enter_fst_asCall, List.map_cons, List.map_append, List.map_nil,
      enter_trace, exit_trace, and_self]
  | none =>
    rw [run_scope_kept h, run_scope_kept (hsame.trans h)]
    simp only [Run.Resembles, enter_fst_asCall, List.map_cons, List.map_append, enter_trace,
      exit_trace, and_self]

/-! ### The main statement -/

/-- A registration results in whether it succeeded. -/
private theorem perform_register_outcome (c : Client) (pid : Option Pid)
    (replies : List Http.Reply) :
    (c.perform net (.register pid) replies).2.outcome =
      .success (c.register net pid replies).2.result := by
  simp only [perform, Note.ofReport]

/-- A session is told whether the registration succeeded. -/
private theorem enter_session_outcome (c : Client) (catches : Bool)
    (entryReplies exitReplies : List Http.Reply) :
    (c.enter net ⟨.session, catches, entryReplies, exitReplies⟩).2.outcome =
      .entered (some (c.register net none entryReplies).2.result) := by
  simp only [enter, Note.ofReport]

/-- The other form of scope is told nothing. -/
private theorem enter_scoped_outcome (c : Client) (catches : Bool)
    (entryReplies exitReplies : List Http.Reply) :
    (c.enter net ⟨.scoped, catches, entryReplies, exitReplies⟩).2.outcome = .entered none := by
  simp only [enter, Note.ofReport]

/-- **Tracing is bounded alike** in all three ways, for a program, the client that it is run with,
and the replies at the two ends. -/
structure BoundedAlike (net : Http.Network) (c : Client) (catches : Bool)
    (entryReplies exitReplies : List Http.Reply) (body : Program) : Prop where
  /-- A session and explicit calls leave the same traces and the same client. -/
  session_resembles :
    ((Program.within .session catches entryReplies exitReplies body .finish).run net c).Resembles
      ((Program.between entryReplies exitReplies body).run net c)
  /-- So do a scope that is told nothing and explicit calls. -/
  scoped_resembles :
    ((Program.within .scoped catches entryReplies exitReplies body .finish).run net c).Resembles
      ((Program.between entryReplies exitReplies body).run net c)
  /-- And so it is when the scopes inside are made explicit, too, down to the last one. -/
  unrolled : ((Program.between entryReplies exitReplies body).run net c).Resembles
    ((Program.ofCalls ((.register none, entryReplies) :: body.calls ++
      [(.unregister none, exitReplies)])).run net c)
  /-- A session is told what the explicit registration says, inside the notes are the same in all
  three ways, and both exits tell how the program ended. -/
  notes : ∃ registered inner,
    (∃ entry exit, ((Program.within .session catches entryReplies exitReplies body .finish).run net
      c).notes = entry :: inner ++ [exit] ∧ entry.point = .entry .session ∧
      entry.outcome = .entered (some registered) ∧ exit.outcome = .exited body.ending) ∧
    (∃ entry exit, ((Program.within .scoped catches entryReplies exitReplies body .finish).run net
      c).notes = entry :: inner ++ [exit] ∧ entry.point = .entry .scoped ∧
      entry.outcome = .entered none ∧ exit.outcome = .exited body.ending) ∧
    ∃ first last, ((Program.between entryReplies exitReplies body).run net c).notes =
      first :: inner ++ [last] ∧ first.point = .call (.register none) ∧
      first.outcome = .success registered ∧ last.point = .call (.unregister none)
  /-- The explicit calls come to their end, however the program inside ends. -/
  finished : ((Program.between entryReplies exitReplies body).run net c).ending = .finished
  /-- The two forms of scope pass the same outcome outwards, whatever follows them. -/
  outwards (rest : Program) :
    ((Program.within .session catches entryReplies exitReplies body rest).run net c).Resembles
        ((Program.within .scoped catches entryReplies exitReplies body rest).run net c) ∧
      ((Program.within .session catches entryReplies exitReplies body rest).run net c).ending =
        ((Program.within .scoped catches entryReplies exitReplies body rest).run net c).ending

/-- **The three ways of bounding tracing agree**, for every client, every program, and all replies
at the two ends and inside. -/
theorem bounded_alike (net : Http.Network) (c : Client) (catches : Bool)
    (entryReplies exitReplies : List Http.Reply) (body : Program) :
    BoundedAlike net c catches entryReplies exitReplies body where
  session_resembles := within_resembles_between ..
  scoped_resembles := within_resembles_between ..
  unrolled := by
    obtain ⟨htraces, hclient⟩ :=
      run_unrolled net body (c.perform net (.register none) entryReplies).1
    rw [Run.Resembles, run_between, run_ofCalls_append]
    simp only [Program.ofCalls, run_call, ← hclient]
    refine ⟨?_, rfl⟩
    simp only [List.map_cons, List.map_append, htraces]
    rfl
  notes := by
    have hbetween := congrArg Run.notes (run_between net entryReplies exitReplies body c)
    exact ⟨_, _, ⟨_, _, (run_within_finish ..).1, rfl, enter_session_outcome .., rfl⟩,
      ⟨_, _, (run_within_finish ..).1, rfl, enter_scoped_outcome .., rfl⟩,
      _, _, hbetween, rfl, perform_register_outcome .., rfl⟩
  finished := by rw [run_between]
  outwards rest := session_resembles_scoped catches entryReplies exitReplies body rest c

end ProcTrace.Client
