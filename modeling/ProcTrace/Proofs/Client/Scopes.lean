import ProcTrace.Proofs.Client.Operations
import ProcTrace.Proofs.Client.Tracking

/-!
# Scopes are left as they were entered

A scope registers the client's own process when it is entered, and unregisters the tracked process
when it is left, whichever way its body ends. The notes of a run show this as brackets (`Nested`):
every entry has an exit of its own, and between the two stand calls and whole scopes only.

What becomes of a scope that a run comes to is said by `LeftAsEntered`. It follows from the account
of the tracked process: at the exit there is a last process that was asked to be registered, if no
other then the one of the entry, and that is the one that is unregistered. What happens to a panic
is a matter of the open scopes alone (`steps_panicked`): it leaves one after the other, innermost
first, up to the first that catches. The main statement, `scopes_bracketed`, puts the two together
for every moment that the run of a program reaches.
-/

namespace ProcTrace.Client

/-! ### Brackets -/

/-- Entries and exits stand like **brackets**: every entry has an exit of its own, and between them
stand the notes of calls and of whole scopes. -/
inductive Nested : List Note → Prop where
  | nil : Nested []
  | call {n : Note} {ns : List Note} {k : Call} (hn : n.point = .call k) (h : Nested ns) :
    Nested (n :: ns)
  | scope {entry exit : Note} {inner ns : List Note} {form : ScopeForm}
    (hentry : entry.point = .entry form) (hinner : Nested inner) (hexit : exit.point = .exit form)
    (h : Nested ns) : Nested (entry :: inner ++ exit :: ns)

/-- The note is about what is reported: it has the same turns and events, and no others. -/
def Note.IsAbout {α : Type} (n : Note) (r : Report α) : Prop :=
  n.turns = r.turns ∧ n.events = r.events

variable {net : Http.Network}

@[simp] theorem perform_point (c : Client) (k : Call) (replies : List Http.Reply) :
    (c.perform net k replies).2.point = .call k := by
  cases k <;> rfl

@[simp] theorem enter_point (c : Client) (s : Scope) : (c.enter net s).2.point = .entry s.form :=
  rfl

@[simp] theorem exit_point (c : Client) (s : Scope) (how : Ending) :
    (c.exit net s how).point = .exit s.form :=
  rfl

/-- The notes of a run are nested. -/
private theorem nested_run (p : Program) (c : Client) : Nested (p.run net c).notes := by
  induction p generalizing c with
  | finish | leave | panic => exact .nil
  | call k replies rest ih =>
    rw [run_call]
    exact .call (perform_point c k replies) (ih _)
  | scope s body rest ihbody ihrest =>
    cases h : s.escaping? (body.run net (c.enter net s).1).ending with
    | some message =>
      rw [run_scope_of_escaping h]
      exact .scope (enter_point c s) (ihbody _) (exit_point ..) .nil
    | none =>
      rw [run_scope_of_kept h]
      simp only [List.append_assoc, List.singleton_append]
      exact .scope (enter_point c s) (ihbody _) (exit_point ..) (ihrest _)

/-! ### What is done at an exit -/

/-- A scope registers the client's own process when it is entered. -/
private theorem enter_isAbout (c : Client) (s : Scope) :
    (c.enter net s).2.IsAbout (c.register net none s.entryReplies).2 := by
  simp [Note.IsAbout, enter, Note.ofReport]

/-- A scope unregisters without naming a process when it is left. -/
private theorem exit_isAbout (c : Client) (s : Scope) (how : Ending) :
    (c.exit net s how).IsAbout (c.unregister net none s.exitReplies) := by
  simp [Note.IsAbout, exit, Note.ofReport]

/-- Once a scope has been entered there is a last process that was asked to be registered, and the
client tracks it. -/
private theorem exists_lastSubject {p : Program} {c d : Client} {s : Scope} {t : Moment}
    {before inner : List Note}
    (h : Steps net (.start p c) (before ++ (d.enter net s).2 :: inner) t) :
    ∃ pid, lastSubject c.ownPid (before ++ (d.enter net s).2 :: inner) = some pid ∧
      t.client = { c with tracked := some pid } := by
  have hmem : (d.enter net s).2 ∈ before ++ (d.enter net s).2 :: inner := by simp
  have hsome : (lastSubject c.ownPid (before ++ (d.enter net s).2 :: inner)).isSome :=
    lastSubject_isSome_of_mem hmem rfl
  obtain ⟨pid, hpid⟩ := Option.isSome_iff_exists.mp hsome
  refine ⟨pid, hpid, ?_⟩
  rw [h.client_eq]
  simp [following, Moment.start, hpid]

/-! ### Where an ending leads -/

/-- A scope that lets no panic out is followed by the program after it. -/
theorem Frame.after_of_kept {f : Frame} {how : Ending}
    (h : ∀ message, how = .panicked message → f.scope.catches = true) :
    f.after how = .running f.rest := by
  cases how with
  | finished | left => rfl
  | panicked message => simp [Frame.after, Scope.escaping?, h message rfl]

/-- A panic that a scope lets out goes on with its message. -/
theorem Frame.after_of_letOut {f : Frame} {how : Ending} {message : String}
    (hcatches : f.scope.catches = false) (hhow : how = .panicked message) :
    f.after how = .ended (.panicked message) := by
  simp [Frame.after, Scope.escaping?, hhow, hcatches]

/-- **A panic leaves the scopes that do not catch it**, one after the other and the innermost
first, with one exit for each. -/
theorem steps_panicked {inside outside : List Frame} (h : ∀ f ∈ inside, f.scope.catches = false)
    (message : String) (c : Client) :
    Steps net ⟨.ended (.panicked message), inside ++ outside, c⟩
      (inside.map fun f => c.exit net f.scope (.panicked message))
      ⟨.ended (.panicked message), outside, c⟩ := by
  induction inside with
  | nil => exact .refl _
  | cons f inside ih =>
    have hexit : Step net _ _ _ := .exit (.panicked message) f (inside ++ outside) c
    rw [Frame.after_of_letOut (h f (by simp)) rfl] at hexit
    exact .head hexit (ih fun g hg => h g (by simp [hg]))

/-- A panic that is caught: the scopes inside the one that catches are left, then that one, and
then the program that follows it is run. -/
private theorem steps_caught {inside outside : List Frame} {f : Frame}
    (h : ∀ g ∈ inside, g.scope.catches = false) (hf : f.scope.catches = true) (message : String)
    (c : Client) :
    Steps net ⟨.ended (.panicked message), inside ++ f :: outside, c⟩
      ((inside ++ [f]).map fun g => c.exit net g.scope (.panicked message))
      ⟨.running f.rest, outside, c⟩ := by
  have hexit : Step net _ _ _ := .exit (.panicked message) f outside c
  rw [Frame.after_of_kept fun _ _ => hf] at hexit
  rw [List.map_append]
  exact (steps_panicked h message c).trans hexit.steps

/-! ### The main statement -/

variable (net) in
/-- **What becomes of a scope** that the run of `p` comes to after the notes `before`, with the
scopes `fs` around it and the client `d`: the notes of its entry, of its body and of its exit, how
its body ended, and the process that is unregistered. -/
structure LeftAsEntered (p : Program) (c : Client) (before : List Note) (s : Scope)
    (body rest : Program) (fs : List Frame) (d : Client) (entry : Note) (inner : List Note)
    (exit : Note) (how : Ending) (pid : Pid) : Prop where
  /-- The notes stand together in the notes of the run. -/
  notes : ∃ after, (p.run net c).notes = before ++ entry :: inner ++ exit :: after
  /-- The entry registers the client's own process, once. -/
  entry_point : entry.point = .entry s.form
  entry_isAbout : entry.IsAbout (d.register net none s.entryReplies).2
  /-- The body runs to its end, by which all scopes in it have been left again. -/
  body_steps : Steps net ⟨.running body, ⟨s, rest⟩ :: fs, (d.register net none s.entryReplies).1⟩
    inner ⟨.ended how, ⟨s, rest⟩ :: fs, { c with tracked := some pid }⟩
  inner_nested : Nested inner
  /-- The process is the one that was last asked to be registered. -/
  pid_eq : lastSubject c.ownPid (before ++ entry :: inner) = some pid
  /-- The exit unregisters the process, once, though it does not name it. -/
  exit_point : exit.point = .exit s.form
  exit_outcome : exit.outcome = .exited how
  exit_isAbout : exit.IsAbout ({ c with tracked := some pid }.unregister net none s.exitReplies)
  exit_isAbout_pid :
    exit.IsAbout ({ c with tracked := some pid }.unregister net (some pid) s.exitReplies)
  nothing_notMem : .nothingToUnregister ∉ exit.events
  /-- What follows the scope is run, unless the scope lets a panic out. -/
  kept (h : ∀ message, how = .panicked message → s.catches = true) :
    Steps net (.start p c) (before ++ entry :: inner ++ [exit])
      ⟨.running rest, fs, { c with tracked := some pid }⟩
  letOut (message : String) (h : how = .panicked message) (hs : s.catches = false) :
    Steps net (.start p c) (before ++ entry :: inner ++ [exit])
      ⟨.ended (.panicked message), fs, { c with tracked := some pid }⟩

/-- **The discipline of scopes** in the run of a program. Each part speaks of every moment that the
run reaches, with any scopes open around it. -/
structure ScopesBracketed (net : Http.Network) (p : Program) (c : Client) : Prop where
  /-- The notes of the run are made step by step. -/
  stepwise : Steps net (.start p c) (p.run net c).notes (.final (p.run net c))
  /-- Entries and exits stand like brackets. -/
  nested : Nested (p.run net c).notes
  /-- A scope that the run comes to is entered, and is left again. -/
  scope (before : List Note) (s : Scope) (body rest : Program) (fs : List Frame) (d : Client)
    (h : Steps net (.start p c) before ⟨.running (.scope s body rest), fs, d⟩) :
    ∃ entry inner exit how pid,
      LeftAsEntered net p c before s body rest fs d entry inner exit how pid
  /-- Leaving early ends the innermost scope only. -/
  leave (before : List Note) (f : Frame) (outside : List Frame) (d : Client)
    (h : Steps net (.start p c) before ⟨.running .leave, f :: outside, d⟩) :
    Steps net (.start p c) (before ++ [d.exit net f.scope .left]) ⟨.running f.rest, outside, d⟩
  /-- A panic goes out to the first scope that catches, through exits of all scopes on the way. -/
  caught (before : List Note) (message : String) (inside : List Frame) (f : Frame)
    (outside : List Frame) (d : Client)
    (h : Steps net (.start p c) before ⟨.running (.panic message), inside ++ f :: outside, d⟩)
    (hinside : ∀ g ∈ inside, g.scope.catches = false) (hf : f.scope.catches = true) :
    Steps net (.start p c)
      (before ++ (inside ++ [f]).map fun g => d.exit net g.scope (.panicked message))
      ⟨.running f.rest, outside, d⟩
  /-- A panic that no scope catches ends the run, after exits of all open scopes. -/
  uncaught (before : List Note) (message : String) (fs : List Frame) (d : Client)
    (h : Steps net (.start p c) before ⟨.running (.panic message), fs, d⟩)
    (hfs : ∀ g ∈ fs, g.scope.catches = false) :
    (p.run net c).ending = .panicked message ∧
      (p.run net c).notes = before ++ fs.map fun g => d.exit net g.scope (.panicked message)

/-- A scope that the run comes to is left as it was entered. -/
private theorem exists_leftAsEntered {p : Program} {c : Client} {before : List Note} {s : Scope}
    {body rest : Program} {fs : List Frame} {d : Client}
    (h : Steps net (.start p c) before ⟨.running (.scope s body rest), fs, d⟩) :
    ∃ entry inner exit how pid,
      LeftAsEntered net p c before s body rest fs d entry inner exit how pid := by
  have hbody : Steps net ⟨.running body, ⟨s, rest⟩ :: fs, (d.enter net s).1⟩ _ _ :=
    steps_run body _ _
  have hinside : Steps net (.start p c)
      (before ++ (d.enter net s).2 :: (body.run net (d.enter net s).1).notes) _ :=
    h.trans (.head (.enter ..) hbody)
  -- The entry is among the notes so far, so there is a process to unregister, whatever the body
  -- did.
  obtain ⟨pid, hpid, hclient⟩ := exists_lastSubject hinside
  simp only at hclient
  rw [hclient] at hbody hinside
  have hleft := hinside.trans (Step.exit ..).steps
  obtain ⟨after, hafter, -⟩ := hleft.notes_eq
  have habout : (Client.exit net { c with tracked := some pid } s
      (body.run net (d.enter net s).1).ending).IsAbout _ := exit_isAbout _ s _
  have hnamed := habout
  rw [unregister_none net rfl] at hnamed
  refine ⟨(d.enter net s).2, _, Client.exit net { c with tracked := some pid } s _, _, pid, {
    notes := ⟨after, by rw [hafter, List.append_assoc, List.singleton_append]⟩
    entry_point := rfl
    entry_isAbout := enter_isAbout d s
    body_steps := hbody
    inner_nested := nested_run _ _
    pid_eq := hpid
    exit_point := rfl
    exit_outcome := rfl
    exit_isAbout := habout
    exit_isAbout_pid := hnamed
    nothing_notMem := ?_
    kept := fun hkept => ?_
    letOut := fun message hhow hcatches => ?_ }⟩
  · rw [hnamed.2]
    exact nothingToUnregister_notMem net _ pid s.exitReplies
  · rwa [Frame.after_of_kept hkept] at hleft
  · rwa [Frame.after_of_letOut hcatches hhow] at hleft

/-- **Scopes are left as they were entered**, in the run of every program. -/
theorem scopes_bracketed (net : Http.Network) (p : Program) (c : Client) :
    ScopesBracketed net p c where
  stepwise := steps_final p c
  nested := nested_run p c
  scope _ _ _ _ _ _ h := exists_leftAsEntered h
  leave before f outside d h := by
    have hexit := h.trans (Steps.head (.leave ..) (Step.exit .left f outside d).steps)
    rwa [Frame.after_of_kept (by simp)] at hexit
  caught before message inside f outside d h hinside hf :=
    h.trans (.head (.panic ..) (steps_caught hinside hf message d))
  uncaught before message fs d h hfs := by
    have hout : Steps net ⟨.ended (.panicked message), fs ++ [], d⟩ _ _ :=
      steps_panicked hfs message d
    rw [List.append_nil] at hout
    have hend : Steps net (.start p c) _ (.final ⟨[], .panicked message, d⟩) :=
      h.trans (.head (.panic ..) hout)
    obtain ⟨hnotes, hending, -⟩ := (steps_final p c).final_unique hend
    exact ⟨hending, hnotes⟩

/-- A scope that lets every panic out. -/
def openSession : Scope := ⟨.session, false, [], []⟩

/-- A scope that catches. -/
def catchingScope : Scope := ⟨.scoped, true, [], []⟩

/-- A panic in two scopes, of which the outer one catches, after the inner one has registered
another process. -/
def caughtPanic : Program :=
  .scope catchingScope
    (.scope openSession (.call (.register (some 7)) [] (.panic "work failed")) .finish)
    (.call .registeredProcesses [] .finish)

theorem scopes_bracketed_caughtPanic :
    ∃ before d, d.tracked = some 7 ∧
      Steps .down (.start caughtPanic (.onThisMachine 41)) before
        ⟨.running (.panic "work failed"),
          [⟨openSession, .finish⟩, ⟨catchingScope, .call .registeredProcesses [] .finish⟩], d⟩ ∧
      Steps .down (.start caughtPanic (.onThisMachine 41))
        (before ++ [d.exit .down openSession (.panicked "work failed"),
          d.exit .down catchingScope (.panicked "work failed")])
        ⟨.running (.call .registeredProcesses [] .finish), [], d⟩ := by
  have h : Steps .down (.start caughtPanic (.onThisMachine 41)) _ ⟨.running (.panic _), _, _⟩ :=
    .head (.enter ..) (.head (.enter ..) (Step.call ..).steps)
  have hcaught := (scopes_bracketed .down caughtPanic _).caught _ _ [⟨openSession, .finish⟩]
    ⟨catchingScope, _⟩ [] _ h (by simp [openSession]) rfl
  exact ⟨_, _, rfl, h, by simpa only [List.cons_append, List.nil_append, List.map] using hcaught⟩

end ProcTrace.Client
