import ProcTrace.Proofs.Client.Moment

/-!
# The tracked process in a run

Which process a client tracks is a matter of history alone: it is the one that the client was last
asked to register, with a scope asking for the client's own. The notes of a run say what was asked
for (`lastSubject`), so that the client at every moment can be read off them (`Steps.client_eq`);
no reply, no unregistration and no exit has a part in it. The main statement, `tracked_latest`, says
this of every moment that a run reaches, for a client that starts with nothing tracked, and that
each note shows the process as it then is.
-/

namespace ProcTrace.Client

/-- The process that is to be registered at a point, if one is. -/
def Point.subject? (own : Pid) : Point → Option Pid
  | .call (.register pid) | .call (.tryRegister pid) => some (pid.getD own)
  | .entry _ => some own
  | _ => none

/-- The process that was last asked to be registered. -/
def lastSubject (own : Pid) (notes : List Note) : Option Pid :=
  (notes.filterMap (·.point.subject? own)).getLast?

/-- The client after what its notes tell. -/
def following (c : Client) (notes : List Note) : Client :=
  { c with tracked := (lastSubject c.ownPid notes).or c.tracked }

@[simp] theorem lastSubject_singleton (own : Pid) (n : Note) :
    lastSubject own [n] = n.point.subject? own := by
  cases h : n.point.subject? own <;> simp [lastSubject, h]

/-- What was asked for later counts. -/
private theorem lastSubject_append (own : Pid) (ns ms : List Note) :
    lastSubject own (ns ++ ms) = (lastSubject own ms).or (lastSubject own ns) := by
  rw [lastSubject, List.filterMap_append, List.getLast?_append, lastSubject, lastSubject]

/-- What the first of some notes asks for counts if the others ask for nothing. -/
theorem lastSubject_cons (own : Pid) (n : Note) (ns : List Note) :
    lastSubject own (n :: ns) = (lastSubject own ns).or (n.point.subject? own) := by
  rw [← List.singleton_append, lastSubject_append, lastSubject_singleton]

/-- Once something has been asked for, there is a last thing asked for. -/
theorem lastSubject_isSome_of_mem {own : Pid} {n : Note} {ns : List Note} (h : n ∈ ns)
    (hn : (n.point.subject? own).isSome) : (lastSubject own ns).isSome := by
  obtain ⟨pid, hpid⟩ := Option.isSome_iff_exists.mp hn
  have hmem : pid ∈ ns.filterMap (·.point.subject? own) := List.mem_filterMap.mpr ⟨n, h, hpid⟩
  exact List.getLast?_isSome.mpr (List.ne_nil_of_mem hmem)

private theorem following_append (c : Client) (ns ms : List Note) :
    c.following (ns ++ ms) = (c.following ns).following ms := by
  simp only [following, lastSubject_append, Option.or_assoc]

variable {net : Http.Network}

/-- A call leaves the client as its note tells. -/
private theorem perform_client (c : Client) (k : Call) (replies : List Http.Reply) :
    (c.perform net k replies).1 = c.following [(c.perform net k replies).2] := by
  cases k <;> simp [perform, following, Note.ofReport, Point.subject?, track, subject]

/-- The entry of a scope leaves the client as its note tells. -/
private theorem enter_client (c : Client) (s : Scope) :
    (c.enter net s).1 = c.following [(c.enter net s).2] := by
  simp [enter, following, Note.ofReport, Point.subject?, track, subject]

/-- The exit of a scope changes nothing about the client. -/
private theorem following_exit (c d : Client) (s : Scope) (how : Ending) :
    c.following [d.exit net s how] = c := by
  simp [exit, following, Note.ofReport, Point.subject?]

theorem Step.client_eq {t u : Moment} {ns : List Note} (h : Step net t ns u) :
    u.client = t.client.following ns := by
  cases h with
  | finish | leave | panic => rfl
  | call => exact perform_client ..
  | enter => exact enter_client ..
  | exit => exact (following_exit ..).symm

/-- **The client can be read off the notes**: it tracks the process that was last asked to be
registered. -/
theorem Steps.client_eq {t u : Moment} {ns : List Note} (h : Steps net t ns u) :
    u.client = t.client.following ns := by
  induction h with
  | refl => rfl
  | head hs _ ih => rw [ih, hs.client_eq, following_append]

/-! ### The main statement -/

/-- Nothing is asked for by notes none of which asks for anything. -/
private theorem lastSubject_eq_none {own : Pid} {ns : List Note}
    (h : ∀ n ∈ ns, n.point.subject? own = none) : lastSubject own ns = none := by
  rw [lastSubject, List.getLast?_eq_none_iff, List.filterMap_eq_nil_iff]
  exact h

/-- What is asked for stays the last thing asked for until something else is. -/
private theorem lastSubject_eq_some {own pid : Pid} {before after : List Note} {n : Note}
    (hn : n.point.subject? own = some pid) (hafter : ∀ m ∈ after, m.point.subject? own = none) :
    lastSubject own (before ++ n :: after) = some pid := by
  rw [lastSubject_append, lastSubject_cons, lastSubject_eq_none hafter, hn]
  rfl

/-- A note shows the process that is tracked after it. -/
theorem Step.noted {t u : Moment} {n : Note} (h : Step net t [n] u) :
    n.tracked = u.client.tracked := by
  cases h with
  | call k => cases k <;> rfl
  | enter | exit => rfl

/-- With nothing tracked at first, the tracked process is the one last asked for. -/
theorem Steps.tracked_eq {p : Program} {c : Client} {ns : List Note} {t : Moment}
    (h : Steps net (.start p c) ns t) (hc : c.tracked = none) :
    t.client.tracked = lastSubject c.ownPid ns := by
  rw [h.client_eq, following]
  simp [Moment.start, hc]

/-- The client's own process never changes. -/
theorem Steps.ownPid_eq {t u : Moment} {ns : List Note} (h : Steps net t ns u) :
    u.client.ownPid = t.client.ownPid := by
  rw [h.client_eq, following]

/-- **The tracked process is that of the latest attempt** to register one, in the run of a program
with a client that tracks nothing at first. Each part speaks of every moment that the run reaches;
what became of an attempt is not asked, and neither is whether a request could be made at all. -/
structure TracksLatest (net : Http.Network) (p : Program) (c : Client) : Prop where
  /-- Before the first attempt nothing is tracked. -/
  untracked (ns : List Note) (t : Moment) (h : Steps net (.start p c) ns t)
    (hns : ∀ n ∈ ns, n.point.subject? c.ownPid = none) : t.client.tracked = none
  /-- From an attempt to the next one its process is tracked. -/
  latest (before : List Note) (n : Note) (after : List Note) (t : Moment) (pid : Pid)
    (h : Steps net (.start p c) (before ++ n :: after) t)
    (hn : n.point.subject? c.ownPid = some pid)
    (hafter : ∀ m ∈ after, m.point.subject? c.ownPid = none) : t.client.tracked = some pid
  /-- Every note shows it. -/
  noted (before : List Note) (n : Note) (after : List Note) (t : Moment)
    (h : Steps net (.start p c) (before ++ n :: after) t) :
    n.tracked = lastSubject c.ownPid (before ++ [n])
  /-- A step that is no attempt does not change it. -/
  kept (before ns : List Note) (t u : Moment) (h : Steps net (.start p c) before t)
    (hstep : Step net t ns u) (hns : ∀ n ∈ ns, n.point.subject? c.ownPid = none) :
    u.client.tracked = t.client.tracked
  /-- Once there is one there always is. -/
  lasting (before ns : List Note) (t u : Moment) (h : Steps net (.start p c) before t)
    (hsteps : Steps net t ns u) (ht : t.client.tracked.isSome) : u.client.tracked.isSome
  /-- At the end of the run it is that of the latest attempt of all. -/
  final : (p.run net c).client.tracked = lastSubject c.ownPid (p.run net c).notes

/-- **The tracked process is that of the latest attempt**, whatever URL the client is made for,
usable or not, and whatever the network, the program and the replies are. -/
theorem tracked_latest (net : Http.Network) (url : String) (own : Pid) (p : Program) :
    TracksLatest net p (.new url own) := by
  have hnew : (Client.new url own).tracked = none := rfl
  refine ⟨fun ns t h hns => ?_, fun before n after t pid h hn hafter => ?_,
    fun before n after t h => ?_, fun before ns t u h hstep hns => ?_,
    fun before ns t u h hsteps ht => ?_, (steps_final p _).tracked_eq hnew⟩
  · rw [h.tracked_eq hnew, lastSubject_eq_none hns]
  · rw [h.tracked_eq hnew, lastSubject_eq_some hn hafter]
  · obtain ⟨v, w, hv, hstep, -⟩ := h.exists_step
    rw [hstep.noted, (hv.trans hstep.steps).tracked_eq hnew]
  · have hown : t.client.ownPid = (Client.new url own).ownPid := h.ownPid_eq
    rw [hstep.client_eq, following, hown, lastSubject_eq_none hns]
    rfl
  · rw [hsteps.client_eq, following, Option.isSome_or, ht, Bool.or_true]

/-- A registration that cannot even be tried, since the URL is none that a request can be made to,
is an attempt as well. -/
theorem tracked_latest_unusable :
    ∃ before n after t, n.turns = [] ∧
      Steps .service (.start (.call (.register none) [] (.call (.unregister (some 7)) [] .leave))
        (.new "localhost:9092" 41)) (before ++ n :: after) t ∧ t.client.tracked = some 41 := by
  have h : Steps .service (.start (.call (.register none) []
      (.call (.unregister (some 7)) [] .leave)) (.new "localhost:9092" 41)) ([_] ++ [_]) _ :=
    .head (.call ..) (Step.call ..).steps
  rw [List.cons_append, List.nil_append, ← List.nil_append (_ :: _)] at h
  have hlatest := (tracked_latest .service "localhost:9092" 41 _).latest [] _ _ _ 41 h rfl
    (by simp [perform, Note.ofReport, Point.subject?])
  exact ⟨_, _, _, _, by decide +kernel, h, hlatest⟩

end ProcTrace.Client
