import ProcTrace.Proofs.Client.Contract
import ProcTrace.Proofs.Client.Course
import ProcTrace.Proofs.Client.Scopes

/-!
# Calls that name their process

A registration that names no process is about the client's own, and an unregistration that names
none is about the one that was last asked to be registered. Here these processes are written into a
program (`Program.named`). Which ones they are depends on what is executed before a call, and so on
scopes that are left early and on panics; but no reply has a part in it, and the program alone
settles it.

The program that names its processes runs like the one that does not. Its notes are the same up to
the names, and each name is the one that the notes before it call for (`run_named`). The main
statement, `named_alike`, says also what stays unnamed: an unregistration that comes before every
attempt to register something. It sends nothing, and with whichever process it named, the answer
would be a different one.
-/

namespace ProcTrace.Client

/-! ### Naming processes -/

/-- The call with another process in place of its own, or with none; a call that has to name its
process is kept as it is. -/
def Call.withPid (pid : Option Pid) : Call → Call
  | .register _ => .register pid
  | .unregister _ => .unregister pid
  | .tryRegister _ => .tryRegister pid
  | .tryUnregister _ => .tryUnregister pid
  | k => k

/-- The call could name a process and does not. -/
def Call.isUnnamed : Call → Bool
  | .register none | .unregister none | .tryRegister none | .tryUnregister none => true
  | _ => false

/-- **The call lacks a process**: it is an unregistration that names none, and there is no process
that was asked to be registered before. -/
def Call.LacksPid (latest : Option Pid) (k : Call) : Prop :=
  (k = .unregister none ∨ k = .tryUnregister none) ∧ latest = none

/-- **The call with its process named**, when `latest` is the process that was last asked to be
registered. Without one an unregistration stays as it is. -/
def Call.named (own : Pid) (latest : Option Pid) : Call → Call
  | .register pid => .register (some (pid.getD own))
  | .unregister pid => .unregister (pid <|> latest)
  | .tryRegister pid => .tryRegister (some (pid.getD own))
  | .tryUnregister pid => .tryUnregister (pid <|> latest)
  | k => k

/-- The program with something done to each of its calls. -/
def Program.mapCalls (f : Call → Call) : Program → Program
  | .finish => .finish
  | .call k replies rest => .call (f k) replies (rest.mapCalls f)
  | .scope s body rest => .scope s (body.mapCalls f) (rest.mapCalls f)
  | .leave => .leave
  | .panic message => .panic message

/-- The process that is the last one to be asked for when a program is executed. -/
def Program.lastSubject (own : Pid) (p : Program) : Option Pid :=
  (p.calls.filterMap (·.1.subject? own)).getLast?

/-- **The program with its processes named**, when `latest` is the process that was last asked to be
registered before it. What follows a scope that lets a panic out is not executed, so that there is
no history to go by: there only registrations are named. -/
def Program.named (own : Pid) : Option Pid → Program → Program
  | _, .finish => .finish
  | latest, .call k replies rest =>
    .call (k.named own latest) replies (rest.named own ((k.subject? own).or latest))
  | _, .scope s body rest =>
    .scope s (body.named own (some own))
      (match s.escaping? body.ending with
      | some _ => rest.mapCalls (Call.named own none)
      | none => rest.named own ((body.lastSubject own).or (some own)))
  | _, .leave => .leave
  | _, .panic message => .panic message

/-- The note with something done to its call. -/
def Note.mapCall (f : Call → Call) (n : Note) : Note :=
  { n with point := match n.point with
      | .call k => .call (f k)
      | point => point }

/-- Notes with the processes of their calls named, each by the notes before it. -/
def namedNotes (own : Pid) : Option Pid → List Note → List Note
  | _, [] => []
  | latest, n :: ns =>
    n.mapCall (Call.named own latest) :: namedNotes own ((n.point.subject? own).or latest) ns

/-- The process that was last asked to be registered before a place in a run, be it in the run or
before the run. -/
def Run.latest (r : Run) (c : Client) (i : Nat) : Option Pid :=
  (lastSubject c.ownPid (r.notes.take i)).or c.tracked

/-- **What an answer shows** of a run: all of it, except what a call is given as its process where
it need not be given any. -/
def Run.shown (r : Run) : Run :=
  { r with notes := r.notes.map (Note.mapCall (Call.withPid none)) }

/-! ### One call -/

/-- To name a process changes nothing else about a call. -/
@[simp] theorem Call.withPid_named (own : Pid) (latest pid : Option Pid) (k : Call) :
    (k.named own latest).withPid pid = k.withPid pid := by
  cases k <;> rfl

/-- A call that does not name its process is made to name it, unless it lacks one. -/
theorem Call.exists_named_eq {latest : Option Pid} {k : Call} (own : Pid) (hk : k.isUnnamed)
    (h : ¬ k.LacksPid latest) : ∃ pid, k.named own latest = k.withPid (some pid) := by
  cases k with
  | register pid | tryRegister pid => exact ⟨_, rfl⟩
  | unregister pid | tryUnregister pid =>
    cases pid with
    | none =>
      obtain ⟨p, rfl⟩ : ∃ p, latest = some p := by
        simpa [Call.LacksPid, Option.ne_none_iff_exists'] using h
      exact ⟨p, rfl⟩
    | some pid => simp [Call.isUnnamed] at hk
  | registeredProcesses | process pid => simp [Call.isUnnamed] at hk

/-- A call that lacks a process announces nothing that it would if it named one, be it by another
client. -/
theorem Call.LacksPid.foreseen_ne {c : Client} {k : Call} (h : k.LacksPid c.tracked) (d : Client)
    (pid : Pid) : d.foreseen (k.withPid (some pid)) ≠ c.foreseen k := by
  obtain ⟨rfl | rfl, htracked⟩ := h <;> simp [foreseen, Call.withPid, htracked]

/-- A call that lacks a process orders nothing from the service. -/
theorem Call.LacksPid.order?_eq_none {latest : Option Pid} {k : Call} (h : k.LacksPid latest)
    (base : String) (own : Pid) : k.order? base own latest = none := by
  obtain ⟨rfl | rfl, rfl⟩ := h <;> rfl

variable {net : Http.Network}

/-- **A call that names its process does what it does without**, and its note is the same apart from
the name. -/
theorem perform_named (c : Client) (k : Call) (replies : List Http.Reply) :
    c.perform net (k.named c.ownPid c.tracked) replies =
      ((c.perform net k replies).1,
        (c.perform net k replies).2.mapCall (Call.named c.ownPid c.tracked)) := by
  cases k with
  | register pid =>
    simp only [Call.named, perform, register_getD, Note.mapCall, Note.ofReport]
  | tryRegister pid =>
    simp only [Call.named, perform, tryRegister_getD, Note.mapCall, Note.ofReport]
  | unregister pid =>
    simp only [Call.named, perform, unregister_orTracked, Note.mapCall, Note.ofReport]
  | tryUnregister pid =>
    simp only [Call.named, perform, tryUnregister_orTracked, Note.mapCall, Note.ofReport]
  | registeredProcesses | process => simp only [Call.named, perform, Note.mapCall, Note.ofReport]

/-! ### Notes -/

/-- What is asked for at a point is what the call there asks for. -/
theorem Point.subject?_eq (own : Pid) (point : Point) :
    point.subject? own = point.asCall.subject? own := by
  cases point with
  | call k => cases k <;> rfl
  | entry form | exit form => rfl

/-- The process that a run asks for last is settled by the program. -/
private theorem lastSubject_run (own : Pid) (p : Program) (c : Client) :
    lastSubject own (p.run net c).notes = p.lastSubject own := by
  have hcalls : ((p.run net c).notes.map (·.point.asCall)).filterMap (·.subject? own) =
      (p.calls.map Prod.fst).filterMap (·.subject? own) := by rw [run_points]
  simp only [List.filterMap_map] at hcalls
  simp only [lastSubject, Program.lastSubject, Point.subject?_eq]
  exact congrArg List.getLast? hcalls

/-- After a run the client tracks the process that the program asks for last. -/
private theorem run_client_tracked (p : Program) (c : Client) :
    (p.run net c).client.tracked = (p.lastSubject c.ownPid).or c.tracked := by
  have hclient : (p.run net c).client = c.following (p.run net c).notes :=
    (steps_final p c).client_eq
  rw [hclient, following, lastSubject_run]

/-- Notes are named one part after the other, and what the first part asks for counts in the
second. -/
private theorem namedNotes_append (own : Pid) (latest : Option Pid) (ns ms : List Note) :
    namedNotes own latest (ns ++ ms) =
      namedNotes own latest ns ++ namedNotes own ((lastSubject own ns).or latest) ms := by
  induction ns generalizing latest with
  | nil => rfl
  | cons n ns ih =>
    rw [List.cons_append, namedNotes, namedNotes, ih, lastSubject_cons, Option.or_assoc,
      List.cons_append]

/-- A note is named by the notes before it. -/
private theorem getElem?_namedNotes (own : Pid) (latest : Option Pid) (ns : List Note) (i : Nat) :
    (namedNotes own latest ns)[i]? =
      ns[i]?.map (Note.mapCall (Call.named own ((lastSubject own (ns.take i)).or latest))) := by
  induction ns generalizing latest i with
  | nil => rfl
  | cons n ns ih =>
    cases i with
    | zero => rfl
    | succ i =>
      rw [namedNotes, List.getElem?_cons_succ, List.getElem?_cons_succ, ih, List.take_succ_cons,
        lastSubject_cons, Option.or_assoc]

/-- Names are all that notes with named processes differ in. -/
private theorem map_withPid_namedNotes (own : Pid) (latest pid : Option Pid) (ns : List Note) :
    (namedNotes own latest ns).map (Note.mapCall (Call.withPid pid)) =
      ns.map (Note.mapCall (Call.withPid pid)) := by
  induction ns generalizing latest with
  | nil => rfl
  | cons n ns ih =>
    have hn : (n.mapCall (Call.named own latest)).mapCall (Call.withPid pid) =
        n.mapCall (Call.withPid pid) := by
      obtain ⟨point, outcome, tracked, turns, events⟩ := n
      cases point <;> simp [Note.mapCall]
    rw [namedNotes, List.map_cons, List.map_cons, hn, ih]

/-- A note that is not about a call has no process to name. -/
private theorem mapCall_of_not_call {n : Note} (h : ∀ k, n.point ≠ .call k) (f : Call → Call) :
    n.mapCall f = n := by
  obtain ⟨point, outcome, tracked, turns, events⟩ := n
  cases point with
  | call k => exact absurd rfl (h k)
  | entry | exit => rfl

/-- The notes of a scope. Its entry asks for the client's own process, whatever was asked for
before, and its exit asks for nothing; neither of the two is about a call that could name one. -/
private theorem namedNotes_scope (c d : Client) (s : Scope) (how : Ending) (latest : Option Pid)
    (inner ns : List Note) :
    namedNotes c.ownPid latest ((c.enter net s).2 :: inner ++ d.exit net s how :: ns) =
      (c.enter net s).2 :: namedNotes c.ownPid (some c.ownPid) inner ++
        d.exit net s how ::
          namedNotes c.ownPid ((lastSubject c.ownPid inner).or (some c.ownPid)) ns := by
  have hentry : (c.enter net s).2.mapCall (Call.named c.ownPid latest) = (c.enter net s).2 :=
    mapCall_of_not_call (by simp) _
  have hexit (f : Call → Call) : (d.exit net s how).mapCall f = d.exit net s how :=
    mapCall_of_not_call (by simp) f
  rw [List.cons_append, namedNotes, namedNotes_append, namedNotes, hentry, hexit, enter_point,
    exit_point]
  simp only [Point.subject?, Option.some_or, Option.none_or, List.cons_append]

/-! ### Runs -/

/-- What is done to the calls of a program one thing after the other can be done at once. -/
private theorem mapCalls_mapCalls (f g : Call → Call) (p : Program) :
    (p.mapCalls f).mapCalls g = p.mapCalls fun k => g (f k) := by
  induction p with
  | finish | leave | panic => rfl
  | call k replies rest ih => simp only [Program.mapCalls, ih]
  | scope s body rest ihbody ihrest => simp only [Program.mapCalls, ihbody, ihrest]

variable (net) in
/-- **A program that names its processes runs like the one that does not.** Its notes are the same
with the processes named that the notes before call for; it ends alike, and it leaves the same
client. -/
theorem run_named (p : Program) (c : Client) :
    (p.named c.ownPid c.tracked).run net c =
      { p.run net c with notes := namedNotes c.ownPid c.tracked (p.run net c).notes } := by
  induction p generalizing c with
  | finish | leave | panic => rfl
  | call k replies rest ih =>
    have hrest := ih (c.perform net k replies).1
    rw [perform_fst_ownPid, perform_fst_tracked] at hrest
    rw [Program.named, run_call, run_call, perform_named]
    simp only [hrest, namedNotes, perform_point, Point.subject?_eq, Point.asCall]
  | scope s body rest ihbody ihrest =>
    -- The entry is an attempt to register the client's own process, so the body starts with it.
    have hbody := ihbody (c.enter net s).1
    have hentered : (c.enter net s).1 = c.track none := rfl
    rw [hentered, track_tracked, track_ownPid, subject_none] at hbody
    have hending : (body.named c.ownPid (some c.ownPid)).ending = body.ending := by
      rw [← run_ending _ (c.track none), hbody, run_ending]
    rw [Program.named]
    cases h : s.escaping? body.ending with
    | some message =>
      rw [run_scope_letOut h, run_scope_letOut (by rwa [hending]), hentered, hbody, hending]
      simp only [namedNotes_scope, namedNotes]
    | none =>
      -- What follows the scope starts with the process that the body asked for last.
      have hrest := ihrest (body.run net (c.track none)).client
      have hown : (body.run net (c.track none)).client.ownPid = c.ownPid :=
        (steps_final body (c.track none)).ownPid_eq
      rw [run_client_tracked, hown, track_tracked, track_ownPid, subject_none] at hrest
      rw [run_scope_kept h, run_scope_kept (by rwa [hending]), hentered, hbody, hending]
      simp only [namedNotes_scope, lastSubject_run, hrest]

/-- The program that names its processes differs from the one that does not in nothing but the
names. -/
private theorem mapCalls_named (own : Pid) (latest pid : Option Pid) (p : Program) :
    (p.named own latest).mapCalls (Call.withPid pid) = p.mapCalls (Call.withPid pid) := by
  induction p generalizing latest with
  | finish | leave | panic => rfl
  | call k replies rest ih => simp only [Program.named, Program.mapCalls, Call.withPid_named, ih]
  | scope s body rest ihbody ihrest =>
    simp only [Program.named, Program.mapCalls, ihbody]
    cases s.escaping? body.ending with
    | some message => simp only [mapCalls_mapCalls, Call.withPid_named]
    | none => simp only [ihrest]

/-- A note about a call was made by a client that tracked the process last asked for until then. -/
private theorem exists_perform {p : Program} {c : Client} {i : Nat} {n : Note} {k : Call}
    (h : (p.run net c).notes[i]? = some n) (hn : n.point = .call k) :
    ∃ (d : Client) (replies : List Http.Reply), d.tracked = (p.run net c).latest c i ∧
      n = (d.perform net k replies).2 := by
  obtain ⟨hi, hget⟩ := List.getElem?_eq_some_iff.mp h
  have hsplit : (p.run net c).notes =
      (p.run net c).notes.take i ++ n :: (p.run net c).notes.drop (i + 1) := by
    rw [← hget, List.getElem_cons_drop, List.take_append_drop]
  obtain ⟨t, u, hbefore, hstep⟩ := exists_step_of_notes hsplit
  have htracked : t.client.tracked = (p.run net c).latest c i := by
    rw [hbefore.client_eq]
    rfl
  cases hstep with
  | call k' replies rest fs d =>
    obtain rfl : k' = k := by simpa using hn
    exact ⟨d, replies, htracked, rfl⟩
  | enter | exit => simp at hn

/-- What is announced at a note about a call is what the client announces for such a call. -/
private theorem exists_foreseen {p : Program} {c : Client} {i : Nat} {n : Note} {k : Call}
    (h : (p.run net c).notes[i]? = some n) (hn : n.point = .call k) :
    ∃ d : Client, d.tracked = (p.run net c).latest c i ∧
      n.events.filter Event.isForeseen = d.foreseen k := by
  obtain ⟨d, replies, htracked, rfl⟩ := exists_perform h hn
  exact ⟨d, htracked, congrArg Course.events (perform_course d k replies)⟩

/-! ### The main statement -/

/-- **A process can be named** in a call at a place of a run: some program that differs from the
given one in nothing but the processes that its calls name has the same answer, and it names a
process there. -/
def Nameable (net : Http.Network) (p : Program) (c : Client) (i : Nat) (k : Call) : Prop :=
  ∃ (q : Program) (pid : Pid), q.mapCalls (Call.withPid none) = p.mapCalls (Call.withPid none) ∧
    (q.run net c).shown = (p.run net c).shown ∧
      (q.run net c).notes[i]?.map (·.point) = some (.call (k.withPid (some pid)))

/-- No process can be named in a call that lacks one: what is announced would tell. -/
private theorem not_nameable_of_lacksPid {p : Program} {c : Client} {i : Nat} {n : Note} {k : Call}
    (h : (p.run net c).notes[i]? = some n) (hn : n.point = .call k)
    (hk : k.LacksPid ((p.run net c).latest c i)) : ¬ Nameable net p c i k := by
  rintro ⟨q, pid, -, hshown, hpoint⟩
  obtain ⟨m, hm, hmpoint⟩ := Option.map_eq_some_iff.mp hpoint
  have hevents : m.events = n.events := by
    have hnotes := congrArg (fun r : Run => r.notes[i]?.map (·.events)) hshown
    simpa [Run.shown, hm, h, Note.mapCall] using hnotes
  obtain ⟨d, htracked, hforeseen⟩ := exists_foreseen h hn
  obtain ⟨e, -, hforeseen'⟩ := exists_foreseen hm hmpoint
  rw [← htracked] at hk
  exact hk.foreseen_ne e pid (by rw [← hforeseen', hevents, hforeseen])

/-- The answer of the program that names its processes is that of the one that does not. -/
private theorem shown_run_named (p : Program) (c : Client) :
    ((p.named c.ownPid c.tracked).run net c).shown = (p.run net c).shown := by
  simp only [run_named, Run.shown, map_withPid_namedNotes]

/-- In the run of the program that names its processes, a note names what the notes before call
for. -/
private theorem getElem?_run_named {p : Program} {c : Client} {i : Nat} {n : Note}
    (h : (p.run net c).notes[i]? = some n) :
    ((p.named c.ownPid c.tracked).run net c).notes[i]? =
      some (n.mapCall (Call.named c.ownPid ((p.run net c).latest c i))) := by
  simp only [run_named, getElem?_namedNotes, h, Option.map_some, Run.latest]

/-- **Naming processes changes nothing**, in the run of a program with a client; and what cannot be
named is said as well. -/
structure NamedAlike (net : Http.Network) (p : Program) (c : Client) : Prop where
  /-- The program that names its processes is the same one apart from the names. -/
  shape : (p.named c.ownPid c.tracked).mapCalls (Call.withPid none) =
    p.mapCalls (Call.withPid none)
  /-- It has the same answer: results, requests, events, and the tracked process at every place, the
  ends of all scopes and of the whole, and the client that is left. -/
  answer : ((p.named c.ownPid c.tracked).run net c).shown = (p.run net c).shown
  /-- At every place its note is the same apart from the name; and where there was no name, this is
  the client's own process in a registration, and in an unregistration the process of the latest
  attempt until then. -/
  named (i : Nat) (n : Note) (h : (p.run net c).notes[i]? = some n) :
    ((p.named c.ownPid c.tracked).run net c).notes[i]? =
      some (n.mapCall (Call.named c.ownPid ((p.run net c).latest c i)))
  /-- Of the calls that name no process, the only ones in which none can be named are the
  unregistrations before the first attempt. -/
  nameable_iff (i : Nat) (n : Note) (k : Call) (h : (p.run net c).notes[i]? = some n)
    (hn : n.point = .call k) (hk : k.isUnnamed) :
    Nameable net p c i k ↔ ¬ k.LacksPid ((p.run net c).latest c i)
  /-- These send nothing. -/
  silent (i : Nat) (n : Note) (k : Call) (h : (p.run net c).notes[i]? = some n)
    (hn : n.point = .call k) (hk : k.LacksPid ((p.run net c).latest c i)) : n.turns = []

/-- **Naming processes changes nothing**, for every client and program, and whatever the network
and the replies are. -/
theorem named_alike (net : Http.Network) (p : Program) (c : Client) : NamedAlike net p c where
  shape := mapCalls_named ..
  answer := shown_run_named p c
  named _ _ h := getElem?_run_named h
  nameable_iff i n k h hn hk := by
    constructor
    · intro hnameable hlacks
      exact not_nameable_of_lacksPid h hn hlacks hnameable
    · intro hlacks
      obtain ⟨pid, hpid⟩ := Call.exists_named_eq c.ownPid hk hlacks
      refine ⟨p.named c.ownPid c.tracked, pid, mapCalls_named .., shown_run_named p c, ?_⟩
      rw [getElem?_run_named h, ← hpid]
      simp only [Option.map_some, Note.mapCall, hn]
  silent i n k h hn hk := by
    obtain ⟨d, replies, htracked, rfl⟩ := exists_perform h hn
    rw [← htracked] at hk
    rw [perform_turns, hk.order?_eq_none]

/-- An unregistration before any attempt, a scope that is left by a panic after another process has
been asked for, and calls after it that go by what was asked for in the scope. -/
def unwound : Program :=
  .call (.tryUnregister none) []
    (.scope ⟨.session, true, [{ status := 500 }], []⟩
      (.call (.unregister none) []
        (.call (.tryRegister (some 7)) [{ dropped := true }] (.panic "full")))
      (.call (.tryUnregister none) []
        (.call (.register none) [] (.call (.unregister none) [] .leave))))

theorem named_alike_unwound :
    unwound.named 41 none =
        .call (.tryUnregister none) []
          (.scope ⟨.session, true, [{ status := 500 }], []⟩
            (.call (.unregister (some 41)) []
              (.call (.tryRegister (some 7)) [{ dropped := true }] (.panic "full")))
            (.call (.tryUnregister (some 7)) []
              (.call (.register (some 41)) [] (.call (.unregister (some 41)) [] .leave)))) ∧
      ((unwound.named 41 none).run .service (.new "http://h" 41)).shown =
        (unwound.run .service (.new "http://h" 41)).shown ∧
      ¬ Nameable .service unwound (.new "http://h" 41) 0 (.tryUnregister none) := by
  have halike := named_alike .service unwound (.new "http://h" 41)
  refine ⟨by decide +kernel, halike.answer, fun hnameable => ?_⟩
  exact (halike.nameable_iff 0 _ _ rfl rfl rfl).mp hnameable ⟨.inr rfl, rfl⟩

end ProcTrace.Client
