import ProcTrace.Client.Program

/-!
# Runs, step by step

`Program.run` says of a program as a whole what it leaves behind. Here a run is taken apart into
**moments**: what is done next, the scopes that are open, and the client. A step makes at most one
note. A scope that is entered is put on top of the open ones together with the program that follows
it; when a body has ended, the scope on top is left, and what comes next depends on whether it lets
a panic out.

The two accounts of a run agree. The steps of a program make the notes of its run, whatever scopes
are open around it (`steps_run`); and a moment that is reached is on the way to the end of the run
(`Steps.exists_rest`), since there is only one way to go on (`Step.deterministic`).
-/

namespace ProcTrace.Client

/-- A scope that is open, and the program that follows it. -/
structure Frame where
  scope : Scope
  rest : Program
  deriving DecidableEq, Repr

/-- What is done next: a program is run, or the scope on top is left because its body has ended. -/
inductive Focus where
  | running (p : Program)
  | ended (how : Ending)
  deriving DecidableEq, Repr

/-- A moment of a run. The open scopes begin with the innermost one. -/
structure Moment where
  focus : Focus
  frames : List Frame
  client : Client
  deriving DecidableEq, Repr

/-- The moment at which a program starts. -/
def Moment.start (p : Program) (c : Client) : Moment :=
  ⟨.running p, [], c⟩

/-- The moment at which a run is over. -/
def Moment.final (r : Run) : Moment :=
  ⟨.ended r.ending, [], r.client⟩

/-- What is done after a scope has been left: a panic that it lets out goes on, and in every other
case the program that follows the scope is run. -/
def Frame.after (f : Frame) (how : Ending) : Focus :=
  match f.scope.escaping? how with
  | some message => .ended (.panicked message)
  | none => .running f.rest

variable (net : Http.Network)

/-- One step from a moment to the next, with the notes that it makes. -/
inductive Step : Moment → List Note → Moment → Prop where
  | finish (fs : List Frame) (c : Client) :
    Step ⟨.running .finish, fs, c⟩ [] ⟨.ended .finished, fs, c⟩
  | leave (fs : List Frame) (c : Client) :
    Step ⟨.running .leave, fs, c⟩ [] ⟨.ended .left, fs, c⟩
  | panic (message : String) (fs : List Frame) (c : Client) :
    Step ⟨.running (.panic message), fs, c⟩ [] ⟨.ended (.panicked message), fs, c⟩
  | call (k : Call) (replies : List Http.Reply) (rest : Program) (fs : List Frame) (c : Client) :
    Step ⟨.running (.call k replies rest), fs, c⟩ [(c.perform net k replies).2]
      ⟨.running rest, fs, (c.perform net k replies).1⟩
  | enter (s : Scope) (body rest : Program) (fs : List Frame) (c : Client) :
    Step ⟨.running (.scope s body rest), fs, c⟩ [(c.enter net s).2]
      ⟨.running body, ⟨s, rest⟩ :: fs, (c.enter net s).1⟩
  | exit (how : Ending) (f : Frame) (fs : List Frame) (c : Client) :
    Step ⟨.ended how, f :: fs, c⟩ [c.exit net f.scope how] ⟨f.after how, fs, c⟩

/-- Any number of steps, with all the notes that they make. -/
inductive Steps : Moment → List Note → Moment → Prop where
  | refl (t : Moment) : Steps t [] t
  | head {t u v : Moment} {ns ms : List Note} :
    Step net t ns u → Steps u ms v → Steps t (ns ++ ms) v

variable {net} {t u v : Moment} {ns ms : List Note}

theorem Step.steps (h : Step net t ns u) : Steps net t ns u := by
  simpa using Steps.head h (.refl u)

theorem Steps.trans (h : Steps net t ns u) (h' : Steps net u ms v) :
    Steps net t (ns ++ ms) v := by
  induction h with
  | refl => exact h'
  | head hs _ ih =>
    rw [List.append_assoc]
    exact .head hs (ih h')

/-- A step makes one note or none. -/
theorem Step.notes_cases (h : Step net t ns u) : ns = [] ∨ ∃ n, ns = [n] := by
  cases h with
  | finish | leave | panic => exact .inl rfl
  | call | enter | exit => exact .inr ⟨_, rfl⟩

/-- **Every note was made by one step**, which lies between the notes before it and those after. -/
theorem Steps.exists_step {before after : List Note} {n : Note}
    (h : Steps net t (before ++ n :: after) u) :
    ∃ v w, Steps net t before v ∧ Step net v [n] w ∧ Steps net w after u := by
  -- The induction is on the steps, so the notes have to be a variable.
  generalize hnotes : before ++ n :: after = all at h
  induction h generalizing before with
  | refl => simp at hnotes
  | head hs hrest ih =>
    obtain rfl | ⟨m, rfl⟩ := hs.notes_cases
    · obtain ⟨v, w, hv, hstep, hw⟩ := ih hnotes
      exact ⟨v, w, .head hs hv, hstep, hw⟩
    · cases before with
      | nil =>
        obtain ⟨rfl, rfl⟩ := List.cons.inj hnotes
        exact ⟨_, _, .refl _, hs, hrest⟩
      | cons b before =>
        obtain ⟨rfl, hbefore⟩ := List.cons.inj hnotes
        obtain ⟨v, w, hv, hstep, hw⟩ := ih hbefore
        exact ⟨v, w, .head hs hv, hstep, hw⟩

/-! ### There is one way to go on -/

/-- The next moment and the notes made on the way to it are determined. -/
theorem Step.deterministic (h : Step net t ns u) (h' : Step net t ms v) : ns = ms ∧ u = v := by
  cases h <;> cases h' <;> exact ⟨rfl, rfl⟩

/-- Nothing follows the end of a run. -/
theorem Step.not_final {r : Run} : ¬ Step net (.final r) ns u := by
  rintro ⟨⟩

/-- **A reached moment is on the way to the end.** The notes of a whole run begin with the notes up
to a moment that it reaches, and from there the run goes on to the same end. -/
theorem Steps.exists_rest {r : Run} (h : Steps net t ns u) (h' : Steps net t ms (.final r)) :
    ∃ rest, ms = ns ++ rest ∧ Steps net u rest (.final r) := by
  induction h generalizing ms with
  | refl => exact ⟨ms, rfl, h'⟩
  | head hs _ ih =>
    cases h' with
    | refl => exact absurd hs Step.not_final
    | head hs' hrest =>
      obtain ⟨rfl, rfl⟩ := hs.deterministic hs'
      obtain ⟨rest, rfl, hu⟩ := ih hrest
      exact ⟨rest, (List.append_assoc ..).symm, hu⟩

/-- A run has one end, and one list of notes up to it. -/
theorem Steps.final_unique {r r' : Run} (h : Steps net t ns (.final r))
    (h' : Steps net t ms (.final r')) :
    ns = ms ∧ r.ending = r'.ending ∧ r.client = r'.client := by
  obtain ⟨rest, rfl, hrest⟩ := h.exists_rest h'
  -- `cases` needs the moment to be a variable, and the equation keeps what it is.
  generalize ht : Moment.final r = t at hrest
  cases hrest with
  | refl =>
    simp only [Moment.final, Moment.mk.injEq, Focus.ended.injEq] at ht
    exact ⟨by simp, ht.1, ht.2.2⟩
  | head hs _ =>
    subst ht
    exact absurd hs Step.not_final

/-! ### The steps of a run -/

theorem run_call (k : Call) (replies : List Http.Reply) (rest : Program) (c : Client) :
    (Program.call k replies rest).run net c =
      let r := rest.run net (c.perform net k replies).1
      { r with notes := (c.perform net k replies).2 :: r.notes } :=
  rfl

/-- The run of a scope whose body ends in a panic that the scope lets out. -/
theorem run_scope_of_escaping {s : Scope} {body rest : Program} {c : Client} {message : String}
    (h : s.escaping? (body.run net (c.enter net s).1).ending = some message) :
    (Program.scope s body rest).run net c =
      ⟨(c.enter net s).2 :: (body.run net (c.enter net s).1).notes ++
          [(body.run net (c.enter net s).1).client.exit net s
            (body.run net (c.enter net s).1).ending],
        .panicked message, (body.run net (c.enter net s).1).client⟩ := by
  simp only [Program.run, h]

/-- The run of a scope that lets no panic out: the program that follows it is run as well. -/
theorem run_scope_of_kept {s : Scope} {body rest : Program} {c : Client}
    (h : s.escaping? (body.run net (c.enter net s).1).ending = none) :
    (Program.scope s body rest).run net c =
      let inner := body.run net (c.enter net s).1
      let r := rest.run net inner.client
      { r with notes := (c.enter net s).2 :: inner.notes ++
          [inner.client.exit net s inner.ending] ++ r.notes } := by
  simp only [Program.run, h]

/-- **A scope as a whole.** From the moment before a scope is entered the steps lead through its
body to the moment after it has been left. -/
theorem steps_scope {s : Scope} {body rest : Program} {fs : List Frame} {c e : Client}
    {inner : List Note} {how : Ending}
    (h : Steps net ⟨.running body, ⟨s, rest⟩ :: fs, (c.enter net s).1⟩ inner
      ⟨.ended how, ⟨s, rest⟩ :: fs, e⟩) :
    Steps net ⟨.running (.scope s body rest), fs, c⟩
      ((c.enter net s).2 :: inner ++ [e.exit net s how]) ⟨Frame.after ⟨s, rest⟩ how, fs, e⟩ :=
  (Steps.head (.enter ..) h).trans (Step.exit ..).steps

/-- **The steps of a program make the notes of its run**, whatever scopes are open around it. -/
theorem steps_run (p : Program) (fs : List Frame) (c : Client) :
    Steps net ⟨.running p, fs, c⟩ (p.run net c).notes
      ⟨.ended (p.run net c).ending, fs, (p.run net c).client⟩ := by
  -- The open scopes vary, since a body is run with one more of them than the scope itself.
  induction p generalizing fs c with
  | finish => exact (Step.finish fs c).steps
  | leave => exact (Step.leave fs c).steps
  | panic message => exact (Step.panic message fs c).steps
  | call k replies rest ih =>
    rw [run_call]
    exact .head (.call ..) (ih fs _)
  | scope s body rest ihbody ihrest =>
    have hscope := steps_scope (ihbody (⟨s, rest⟩ :: fs) (c.enter net s).1)
    cases h : s.escaping? (body.run net (c.enter net s).1).ending with
    | some message =>
      rw [run_scope_of_escaping h]
      simpa only [Frame.after, h] using hscope
    | none =>
      rw [run_scope_of_kept h]
      simp only [Frame.after, h] at hscope
      exact hscope.trans (ihrest fs _)

/-- A program steps from its start to the end of its run. -/
theorem steps_final (p : Program) (c : Client) :
    Steps net (.start p c) (p.run net c).notes (.final (p.run net c)) :=
  steps_run p [] c

/-- A note of a run was made by one step, which comes after the notes before it. -/
theorem exists_step_of_notes {p : Program} {c : Client} {before after : List Note} {n : Note}
    (h : (p.run net c).notes = before ++ n :: after) :
    ∃ t u, Steps net (.start p c) before t ∧ Step net t [n] u := by
  have hsteps : Steps net (.start p c) (p.run net c).notes (.final (p.run net c)) :=
    steps_final p c
  rw [h] at hsteps
  obtain ⟨t, u, hbefore, hstep, -⟩ := hsteps.exists_step
  exact ⟨t, u, hbefore, hstep⟩

/-- The notes of a run begin with the notes up to a moment that it reaches. -/
theorem Steps.notes_eq {p : Program} {c : Client} (h : Steps net (.start p c) ns t) :
    ∃ rest, (p.run net c).notes = ns ++ rest ∧ Steps net t rest (.final (p.run net c)) :=
  h.exists_rest (steps_final p c)

end ProcTrace.Client
