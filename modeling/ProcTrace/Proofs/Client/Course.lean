import ProcTrace.Proofs.Client.Moment

/-!
# The service does not steer the caller

The replies of the service decide about results and about what a client reports of them. They do not
decide about anything else: which calls are made and in which order, which process is tracked, how
scopes and programs end. All that is the **course** of a run, and with it goes what the client
announces and warns of. The main statement, `run_course_eq`, compares two programs that differ in
nothing but the replies (`Program.bare`), on any two networks. It also says where a panic comes from
that ends a run: from a panic of the program, and not from a call.
-/

namespace ProcTrace.Client

/-! ### What the service has no part in -/

/-- The scope without the replies of the service. -/
def Scope.bare (s : Scope) : Scope :=
  { s with entryReplies := [], exitReplies := [] }

/-- The program without the replies of the service. -/
def Program.bare : Program → Program
  | .finish => .finish
  | .call k _ rest => .call k [] rest.bare
  | .scope s body rest => .scope s.bare body.bare rest.bare
  | .leave => .leave
  | .panic message => .panic message

/-- How a scope ended, at its exit. -/
def Outcome.ending? : Outcome → Option Ending
  | .exited how => some how
  | _ => none

/-- The event announces something or warns of it; the other events tell of results. -/
def Event.isForeseen (e : Event) : Bool :=
  e.level = .debug || e.level = .warn

/-- What a note says apart from results. -/
structure Course where
  point : Point
  ending : Option Ending
  tracked : Option Pid
  events : List Event
  deriving DecidableEq, Repr

/-- The course of a run at a note. -/
def Note.course (n : Note) : Course :=
  ⟨n.point, n.outcome.ending?, n.tracked, n.events.filter Event.isForeseen⟩

/-- What a client announces or warns of when a call is made. -/
def foreseen (c : Client) : Call → List Event
  | .register pid | .tryRegister pid => [.registering c.processesUrl (c.subject pid)]
  | .unregister pid =>
    match pid <|> c.tracked with
    | none => [.nothingToUnregister]
    | some p => [.unregistering (c.processUrl p)]
  | .tryUnregister pid =>
    match pid <|> c.tracked with
    | none => []
    | some p => [.unregistering (c.processUrl p)]
  | .registeredProcesses => [.querying c.processesUrl]
  | .process pid => [.querying (c.processUrl pid)]

/-! ### One operation -/

variable {net net' : Http.Network}

/-- A registration announces its request. -/
private theorem register_foreseen (c : Client) (pid : Option Pid) (replies : List Http.Reply) :
    (c.register net pid replies).2.events.filter Event.isForeseen = c.foreseen (.register pid) := by
  simp only [register]
  split <;> simp [tryRegister, foreseen, Event.isForeseen, Event.level]

/-- An unregistration announces its request, or warns that there is none to make. -/
private theorem unregister_foreseen (c : Client) (pid : Option Pid) (replies : List Http.Reply) :
    (c.unregister net pid replies).events.filter Event.isForeseen =
      c.foreseen (.unregister pid) := by
  cases h : (pid <|> c.tracked) with
  | none => simp [unregister, foreseen, h, Event.isForeseen, Event.level]
  | some p =>
    simp only [unregister, foreseen, h]
    split <;> simp [tryUnregister, Event.isForeseen, Event.level]

/-- The fallible unregistration announces its request, if there is one to make. -/
private theorem tryUnregister_foreseen (c : Client) (pid : Option Pid) (replies : List Http.Reply) :
    (c.tryUnregister net pid replies).events.filter Event.isForeseen =
      c.foreseen (.tryUnregister pid) := by
  cases h : (pid <|> c.tracked) <;>
    simp [tryUnregister, foreseen, h, Event.isForeseen, Event.level]

/-- The course of a note that tells a result. -/
private theorem course_ofReport {α : Type} {outcome : α → Outcome}
    (h : ∀ a, (outcome a).ending? = none) (r : Report α) (point : Point) (c : Client) :
    (Note.ofReport r point outcome c).course =
      ⟨point, none, c.tracked, r.events.filter Event.isForeseen⟩ := by
  simp [Note.course, Note.ofReport, h]

/-- A result that may be a failure is no exit either. -/
private theorem ending?_of {α : Type} {outcome : α → Outcome} (h : ∀ a, (outcome a).ending? = none)
    (r : Except Failure α) : (Outcome.of outcome r).ending? = none := by
  cases r with
  | ok a => exact h a
  | error f => rfl

/-- **The course of a call** is settled by the call and the client. -/
theorem perform_course (c : Client) (k : Call) (replies : List Http.Reply) :
    (c.perform net k replies).2.course =
      ⟨.call k, none, (c.perform net k replies).1.tracked, c.foreseen k⟩ := by
  cases k with
  | register pid =>
    simp only [perform]
    rw [course_ofReport fun _ => rfl, register_foreseen]
  | unregister pid =>
    simp only [perform]
    rw [course_ofReport fun _ => rfl, unregister_foreseen]
  | tryRegister pid =>
    simp only [perform]
    rw [course_ofReport (ending?_of fun _ => rfl)]
    rfl
  | tryUnregister pid =>
    simp only [perform]
    rw [course_ofReport (ending?_of fun _ => rfl), tryUnregister_foreseen]
  | registeredProcesses =>
    simp only [perform]
    rw [course_ofReport (ending?_of fun _ => rfl)]
    rfl
  | process pid =>
    simp only [perform]
    rw [course_ofReport (ending?_of fun _ => rfl)]
    rfl

/-- The course of an entry is that of a registration. -/
private theorem enter_course (c : Client) (s : Scope) :
    (c.enter net s).2.course =
      ⟨.entry s.form, none, some c.ownPid, c.foreseen (.register none)⟩ := by
  simp only [enter]
  rw [course_ofReport fun _ => rfl, register_foreseen]
  rfl

/-- The course of an exit is that of an unregistration. -/
private theorem exit_course (c : Client) (s : Scope) (how : Ending) :
    (c.exit net s how).course =
      ⟨.exit s.form, some how, c.tracked, c.foreseen (.unregister none)⟩ := by
  simp only [exit, Note.course, Note.ofReport, unregister_foreseen]
  rfl

/-! ### A run -/

/-- The replies to a call have no part in the client after it. -/
private theorem perform_fst_eq (c : Client) (k : Call) (replies replies' : List Http.Reply) :
    (c.perform net k replies).1 = (c.perform net' k replies').1 := by
  cases k <;> rfl

private theorem enter_fst_eq (c : Client) (s : Scope) :
    (c.enter net s).1 = (c.enter net' s.bare).1 :=
  rfl

private theorem enter_course_eq (net net' : Http.Network) (c : Client) (s : Scope) :
    (c.enter net s).2.course = (c.enter net' s.bare).2.course := by
  simp only [enter_course, Scope.bare]

private theorem exit_course_eq (net net' : Http.Network) (c : Client) (s : Scope) (how : Ending) :
    (c.exit net s how).course = (c.exit net' s.bare how).course := by
  simp only [exit_course, Scope.bare]

private theorem escaping?_bare (s : Scope) (how : Ending) :
    s.bare.escaping? how = s.escaping? how := by
  cases how <;> rfl

/-- **The course of a run is that of the bare program**, on any network. -/
theorem run_bare (net net' : Http.Network) (p : Program) (c : Client) :
    (p.run net c).notes.map Note.course = (p.bare.run net' c).notes.map Note.course ∧
      (p.run net c).ending = (p.bare.run net' c).ending ∧
      (p.run net c).client = (p.bare.run net' c).client := by
  induction p generalizing c with
  | finish | leave | panic => exact ⟨rfl, rfl, rfl⟩
  | call k replies rest ih =>
    have hfst : (c.perform net k replies).1 = (c.perform net' k []).1 := perform_fst_eq c k _ _
    obtain ⟨hnotes, hending, hclient⟩ := ih (c.perform net' k []).1
    rw [Program.bare, run_call, run_call, hfst]
    refine ⟨?_, hending, hclient⟩
    simp only [List.map_cons, hnotes, perform_course, hfst]
  | scope s body rest ihbody ihrest =>
    -- The bodies end alike, so either both scopes let out the same panic or neither does.
    have hfst : (c.enter net s).1 = (c.enter net' s.bare).1 := enter_fst_eq c s
    obtain ⟨hnotes, hending, hclient⟩ := ihbody (c.enter net' s.bare).1
    rw [Program.bare]
    cases h : s.escaping? (body.run net (c.enter net s).1).ending with
    | some message =>
      have h' := h
      rw [hfst, hending, ← escaping?_bare] at h'
      rw [run_scope_of_escaping h, run_scope_of_escaping h', hfst]
      refine ⟨?_, rfl, hclient⟩
      simp only [List.map_append, List.map_cons, List.map_nil, hnotes, hending, hclient,
        enter_course_eq net net' c s, exit_course_eq net net' _ s]
    | none =>
      have h' := h
      rw [hfst, hending, ← escaping?_bare] at h'
      rw [run_scope_of_kept h, run_scope_of_kept h', hfst]
      obtain ⟨hnotes', hending', hclient'⟩ :=
        ihrest (body.bare.run net' (c.enter net' s.bare).1).client
      simp only [List.map_append, List.map_cons, List.map_nil, hnotes, hending, hclient, hnotes',
        hending', hclient', enter_course_eq net net' c s, exit_course_eq net net' _ s,
        and_self]

/-! ### Where a panic comes from -/

private theorem escaping?_eq_some {s : Scope} {how : Ending} {message : String}
    (h : s.escaping? how = some message) : s.catches = false ∧ how = .panicked message := by
  cases how <;> simp_all [Scope.escaping?]

/-- A program whose run ends in a panic comes to a panic of its own, with no scope around it that
catches. -/
private theorem exists_steps_panic {p : Program} {c : Client} {message : String} (fs : List Frame)
    (h : (p.run net c).ending = .panicked message) :
    ∃ before inside d, Steps net ⟨.running p, fs, c⟩ before
      ⟨.running (.panic message), inside ++ fs, d⟩ ∧ ∀ f ∈ inside, f.scope.catches = false := by
  induction p generalizing fs c with
  | finish | leave => cases h
  | panic => cases h; exact ⟨[], [], c, .refl _, by simp⟩
  | call k replies rest ih =>
    obtain ⟨before, inside, d, hsteps, hinside⟩ := ih fs h
    exact ⟨_, inside, d, .head (.call ..) hsteps, hinside⟩
  | scope s body rest ihbody ihrest =>
    cases hescape : s.escaping? (body.run net (c.enter net s).1).ending with
    | some message' =>
      rw [run_scope_of_escaping hescape] at h
      cases h
      obtain ⟨hcatches, hbody⟩ := escaping?_eq_some hescape
      -- The panic comes from the body, in which this scope is one more that is open.
      obtain ⟨before, inside, d, hsteps, hinside⟩ := ihbody (⟨s, rest⟩ :: fs) hbody
      have hentered := Steps.head (.enter s body rest fs c) hsteps
      rw [List.append_cons] at hentered
      refine ⟨_, inside ++ [⟨s, rest⟩], d, hentered, ?_⟩
      simpa [or_imp, forall_and, hcatches] using hinside
    | none =>
      -- The panic comes from the program after the scope, to which the steps lead.
      rw [run_scope_of_kept hescape] at h
      obtain ⟨before, inside, d, hsteps, hinside⟩ := ihrest fs h
      have hscope : Steps net ⟨.running (.scope s body rest), fs, c⟩ _ _ :=
        steps_scope (steps_run body (⟨s, rest⟩ :: fs) (c.enter net s).1)
      simp only [Frame.after, hescape] at hscope
      exact ⟨_, inside, d, hscope.trans hsteps, hinside⟩

/-! ### The main statement -/

/-- **The service does not steer the caller.** Two programs that differ in nothing but the replies
have the same course, on any two networks: the same calls in the same order with the same tracked
process after each, the same announcements and warnings, and the same ends of all scopes and of the
whole. A panic that ends the run is one that the program itself came to. -/
theorem run_course_eq (net net' : Http.Network) {p q : Program} (h : p.bare = q.bare)
    (c : Client) :
    (p.run net c).notes.map Note.course = (q.run net' c).notes.map Note.course ∧
      (p.run net c).ending = (q.run net' c).ending ∧
      (p.run net c).client.tracked = (q.run net' c).client.tracked ∧
      ∀ message, (p.run net c).ending = .panicked message →
        ∃ before fs d, Steps net (.start p c) before ⟨.running (.panic message), fs, d⟩ ∧
          ∀ f ∈ fs, f.scope.catches = false := by
  obtain ⟨hnotes, hending, hclient⟩ := run_bare net net' p c
  obtain ⟨hnotes', hending', hclient'⟩ := run_bare net' net' q c
  -- Both runs are compared with that of the bare program, which is the same for the two.
  rw [h] at hnotes hending hclient
  refine ⟨hnotes.trans hnotes'.symm, hending.trans hending'.symm, ?_, fun message hpanic => ?_⟩
  · rw [hclient, hclient']
  · obtain ⟨before, inside, d, hsteps, hinside⟩ := exists_steps_panic [] hpanic
    rw [List.append_nil] at hsteps
    exact ⟨before, inside, d, hsteps, hinside⟩

/-- A registration in a scope that panics and one after it, with the replies that are given. -/
def disputed (replies : List Http.Reply) : Program :=
  .scope ⟨.session, true, replies, replies⟩ (.call (.tryRegister (some 7)) replies (.panic "full"))
    (.call (.unregister none) replies (.panic "done"))

theorem run_course_eq_disputed :
    (disputed [{ status := 500 }]).bare = (disputed [{ dropped := true }]).bare ∧
      ((disputed [{ status := 500 }]).run .service (.new "http://h" 41)).notes.map Note.course =
        ((disputed [{ dropped := true }]).run .down (.new "http://h" 41)).notes.map Note.course ∧
      ∃ before fs d, Steps .service (.start (disputed [{ status := 500 }]) (.new "http://h" 41))
        before ⟨.running (.panic "done"), fs, d⟩ := by
  have h : (disputed [{ status := 500 }]).bare = (disputed [{ dropped := true }]).bare := rfl
  obtain ⟨hcourse, -, -, hpanic⟩ := run_course_eq .service .down h (.new "http://h" 41)
  obtain ⟨before, fs, d, hsteps, -⟩ := hpanic "done" (by decide +kernel)
  exact ⟨h, hcourse, before, fs, d, hsteps⟩

end ProcTrace.Client
