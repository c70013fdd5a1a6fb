import ProcTrace.Proofs.Client.Contract
import ProcTrace.Proofs.Client.Scopes
import ProcTrace.Proofs.Url.Appended

/-!
# How long a process stays registered

A scope has the client's own process registered, and that is to last until the scope is left. What
the service makes of a run is read off the requests: a process **is registered** if of the requests
that name it the last one registers it (`IsRegistered`). A registration names its process in the
body, an unregistration at the end of its URL; after a base without a fragment this end survives
whatever becomes of the rest of the URL (`removes_iff`).

Registrations and queries take nothing away, and explicit unregistrations are left out here. What
remains are the exits of the scopes inside, which unregister whatever is tracked
(`Step.removes_iff`). The main statement, `keepsRegistered_iff`: the own process stays registered
throughout a scope exactly if it is not the tracked one at any exit inside. Without scopes inside it
always does (`keepsRegistered_of_calls`), but a scope inside that registers no other process ends
the registration of the one around it (`not_keepsRegistered`).
-/

namespace ProcTrace.Client

open Http (Network Reply Request IsServed)

/-! ### What the service makes of requests -/

/-- The request has a process unregistered: its URL ends in the number of the process. -/
def Removes (pid : Pid) (r : Request) : Prop :=
  r.method = .delete ∧ '/' :: Nat.toDigits 10 pid.toNat <:+ r.url.write

instance (pid : Pid) (r : Request) : Decidable (Removes pid r) :=
  inferInstanceAs (Decidable (_ ∧ _))

/-- The last of the requests that name a process. -/
def lastNaming (pid : Pid) (rs : List Request) : Option Request :=
  (rs.filter fun r => Registers pid r ∨ Removes pid r).getLast?

/-- The process **is registered** after the requests: the last one that names it registers it. -/
def IsRegistered (pid : Pid) (rs : List Request) : Prop :=
  ∃ r ∈ lastNaming pid rs, Registers pid r

instance (pid : Pid) (rs : List Request) : Decidable (IsRegistered pid rs) :=
  inferInstanceAs (Decidable (∃ r ∈ lastNaming pid rs, Registers pid r))

/-- Later requests count. -/
private theorem lastNaming_append (pid : Pid) (rs qs : List Request) :
    lastNaming pid (rs ++ qs) = (lastNaming pid qs).or (lastNaming pid rs) := by
  rw [lastNaming, List.filter_append, List.getLast?_append, lastNaming, lastNaming]

/-- A process that is registered stays so as long as no request removes it. -/
theorem IsRegistered.append {pid : Pid} {rs qs : List Request} (h : IsRegistered pid rs)
    (hqs : ∀ q ∈ qs, ¬ Removes pid q) : IsRegistered pid (rs ++ qs) := by
  rw [IsRegistered, lastNaming_append]
  cases hlast : lastNaming pid qs with
  | none => exact h
  | some q =>
    obtain ⟨hmem, hnames⟩ := List.mem_filter.mp (List.mem_of_getLast? hlast)
    have hregisters : Registers pid q := (of_decide_eq_true hnames).resolve_right (hqs q hmem)
    exact ⟨q, rfl, hregisters⟩

/-- A registration has the process registered, whatever was before. -/
private theorem isRegistered_of_registers {pid : Pid} {r : Request} (h : Registers pid r)
    (rs : List Request) : IsRegistered pid (rs ++ [r]) := by
  refine ⟨r, ?_, h⟩
  rw [lastNaming_append, lastNaming, List.filter_singleton]
  simp [h]

/-- After a removal the process is not registered, whatever was before. -/
private theorem not_isRegistered_of_removes {pid : Pid} {r : Request} (h : Removes pid r)
    (rs : List Request) : ¬ IsRegistered pid (rs ++ [r]) := by
  rintro ⟨q, hq, hregisters⟩
  rw [lastNaming_append, lastNaming, List.filter_singleton] at hq
  obtain rfl : r = q := by simpa [h] using hq
  exact Http.Method.noConfusion (hregisters.1.symm.trans h.1)

/-! ### Processes in URLs -/

/-- The number of a process is a plain segment. -/
theorem isPlain_toDigits (n : Nat) : Url.IsPlain (Nat.toDigits 10 n) where
  ne_nil := Nat.toDigits_ne_nil
  alphanum c hc := by
    simp [Char.isAlphanum, Nat.isDigit_of_mem_toDigits (by decide) (by decide) hc]

private theorem toDigits_injective {p q : Pid}
    (h : Nat.toDigits 10 p.toNat = Nat.toDigits 10 q.toNat) : p = q := by
  have hnat := congrArg (Nat.ofDigitChars 10 · 0) h
  simp only [Nat.ofDigitChars_ten_toDigits] at hnat
  exact UInt32.toNat_inj.mp hnat

variable {net : Network}

/-- The text of the URL of a process: the base and two segments. -/
theorem toList_processUrl (c : Client) (pid : Pid) :
    (c.processUrl pid).toList =
      c.base.toList ++ '/' :: ("pids".toList ++ '/' :: Nat.toDigits 10 pid.toNat) := by
  have hpids : "/pids/".toList = '/' :: ("pids".toList ++ ['/']) := by decide
  rw [processUrl_eq, String.toList_append, String.toList_append, hpids, Nat.toString_eq_repr,
    Nat.toList_repr]
  simp only [List.append_assoc, List.cons_append, List.nil_append]

/-- The URL of a process ends in its number, if the base has no fragment. -/
private theorem suffix_processUrl {c : Client} {pid : Pid} {u : Url} (hbase : '#' ∉ c.base.toList)
    (hreceives : net.receives (c.processUrl pid)) (hu : Http.address? (c.processUrl pid) = some u) :
    '/' :: Nat.toDigits 10 pid.toNat <:+ u.write := by
  obtain ⟨v, hparse, rfl⟩ := Option.map_eq_some_iff.mp hu
  simp only [Network.receives, hparse, Option.any_some, Bool.and_eq_true,
    Http.isTarget] at hreceives
  obtain ⟨⟨-, ⟨hweb, -⟩, -⟩, -⟩ := hreceives
  obtain ⟨hspecial, hfile⟩ := Http.isSpecial_of_isWeb hweb
  obtain ⟨hscheme, hpath, hquery⟩ := Http.addressed_parts v
  rw [hscheme] at hspecial hfile
  rw [Url.parse, toList_processUrl] at hparse
  have hpids : Url.IsPlain "pids".toList := ⟨by decide, List.all_eq_true.mp (by decide)⟩
  obtain ⟨-, hsuffix⟩ :=
    Url.parse_appended hbase hpids (isPlain_toDigits _) hparse hspecial hfile
  rw [← hpath, ← hquery] at hsuffix
  exact hsuffix.trans (Url.suffix_write (u := (Http.addressed v).withoutFragment) rfl)

/-- A request for the URL of one process removes that process and no other. -/
theorem removes_iff {c : Client} {p q : Pid} {r : Request} (hbase : '#' ∉ c.base.toList)
    (hmethod : r.method = .delete) (hreceives : net.receives (c.processUrl q))
    (hurl : Http.address? (c.processUrl q) = some r.url) : Removes p r ↔ p = q := by
  have hsuffix := suffix_processUrl hbase hreceives hurl
  rw [Removes, (isPlain_toDigits _).suffix_iff (isPlain_toDigits _) hsuffix]
  constructor
  · exact fun h => toDigits_injective h.2
  · rintro rfl
    exact ⟨hmethod, rfl⟩

/-! ### What one step does -/

/-- The requests of a note. -/
def Note.requests (n : Note) : List Request :=
  n.turns.map (·.request)

/-- The point is the exit of a scope. -/
def Point.isExit : Point → Bool
  | .exit _ => true
  | _ => false

/-- The point is an explicit unregistration. -/
def Point.isUnregistration : Point → Bool
  | .call (.unregister _) | .call (.tryUnregister _) => true
  | _ => false

/-- **A call that is served** has made the one request that it orders. -/
theorem perform_of_isServed {c : Client} {k : Call} {replies : List Reply}
    (h : IsServed (c.perform net k replies).2.turns) :
    ∃ o r, k.order? c.base c.ownPid c.tracked = some o ∧
      (c.perform net k replies).2.requests = [r] ∧ r.method = o.method ∧ r.content = o.content ∧
      net.receives o.url ∧ Http.address? o.url = some r.url := by
  rw [perform_turns] at h
  rw [Note.requests, perform_turns]
  cases ho : k.order? c.base c.ownPid c.tracked with
  | none =>
    rw [ho] at h
    exact absurd rfl h.1
  | some o =>
    rw [ho] at h
    obtain ⟨r, hr⟩ := Http.exchange_of_isServed h
    exact ⟨o, r, rfl, hr⟩

/-- Notes with the same trace have the same requests. -/
theorem Note.requests_eq_of_trace {n m : Note} (h : n.trace = m.trace) :
    n.turns = m.turns ∧ n.requests = m.requests := by
  have hturns : n.turns = m.turns := congrArg Trace.turns h
  exact ⟨hturns, by rw [requests, hturns, requests]⟩

/-- The entry of a scope makes one request, which registers the client's own process. -/
private theorem enter_registers {c : Client} {s : Scope} (h : IsServed (c.enter net s).2.turns) :
    ∃ r, (c.enter net s).2.requests = [r] ∧ Registers c.ownPid r := by
  have htrace : (c.enter net s).2.trace = _ := enter_trace c s
  obtain ⟨hturns, hrequests⟩ := Note.requests_eq_of_trace htrace
  rw [hturns] at h
  obtain ⟨o, r, ho, hr, hmethod, hcontent, -⟩ := perform_of_isServed h
  obtain rfl := Option.some.inj ho
  refine ⟨r, hrequests.trans hr, hmethod, ?_⟩
  rw [Request.text, hcontent]
  rfl

/-- A call that is no unregistration makes one request, which removes nothing. -/
private theorem perform_not_removes {c : Client} {k : Call} {replies : List Reply}
    (h : IsServed (c.perform net k replies).2.turns)
    (hk : (Point.call k).isUnregistration = false) :
    ∃ r, (c.perform net k replies).2.requests = [r] ∧ ∀ p, ¬ Removes p r := by
  obtain ⟨o, r, ho, hr, hmethod, -⟩ := perform_of_isServed h
  refine ⟨r, hr, ?_⟩
  rintro p ⟨hdelete, -⟩
  rw [hmethod] at hdelete
  cases k with
  | unregister | tryUnregister => simp [Point.isUnregistration] at hk
  | register | tryRegister | registeredProcesses | process =>
    obtain rfl := Option.some.inj ho
    exact Http.Method.noConfusion hdelete

/-- The exit of a scope makes one request, which removes the tracked process and no other. -/
private theorem exit_removes {c : Client} {s : Scope} {how : Ending} (hbase : '#' ∉ c.base.toList)
    (h : IsServed (c.exit net s how).turns) :
    ∃ r, (c.exit net s how).requests = [r] ∧ ∀ p, Removes p r ↔ c.tracked = some p := by
  have htrace : (c.exit net s how).trace = _ := exit_trace c s how
  obtain ⟨hturns, hrequests⟩ := Note.requests_eq_of_trace htrace
  rw [hturns] at h
  obtain ⟨o, r, ho, hr, hmethod, -, hreceives, hurl⟩ := perform_of_isServed h
  refine ⟨r, hrequests.trans hr, fun p => ?_⟩
  cases htracked : c.tracked with
  | none => simp [Call.order?, htracked] at ho
  | some q =>
    simp only [Call.order?, htracked, ← processUrl_eq] at ho
    obtain rfl := Option.some.inj ho
    rw [removes_iff hbase hmethod hreceives hurl, Option.some.injEq]
    exact eq_comm

/-- **What a step removes.** A step that makes a note and is served makes one request, and this
takes away the registration of a process if it is made at the exit of a scope at which that process
is tracked. No other step takes one away, explicit unregistrations apart. -/
theorem Step.removes_iff {t u : Moment} {n : Note} (h : Step net t [n] u)
    (hbase : '#' ∉ t.client.base.toList) (hserved : IsServed n.turns)
    (hn : n.point.isUnregistration = false) :
    ∃ r, n.requests = [r] ∧ ∀ p, Removes p r ↔ n.point.isExit ∧ n.tracked = some p := by
  cases h with
  | call k replies =>
    rw [perform_point] at hn ⊢
    obtain ⟨r, hr, hremoves⟩ := perform_not_removes hserved hn
    exact ⟨r, hr, fun p => by simp [hremoves, Point.isExit]⟩
  | enter s =>
    obtain ⟨r, hr, hpost, -⟩ := enter_registers hserved
    exact ⟨r, hr, fun p => by simp [Removes, hpost, Point.isExit]⟩
  | exit how f =>
    obtain ⟨r, hr, hremoves⟩ := exit_removes hbase hserved
    refine ⟨r, hr, fun p => ?_⟩
    rw [hremoves, exit_point]
    exact (and_iff_right rfl).symm

/-! ### The main statement -/

variable (net) in
/-- The notes between the entry and the exit of a scope. -/
def notesInside (c : Client) (s : Scope) (body : Program) : List Note :=
  (body.run net (c.enter net s).1).notes

variable (net) in
/-- A scope **keeps the own process registered**: at every point between the entry and the exit it
is registered, whatever was requested before. -/
def KeepsRegistered (c : Client) (s : Scope) (body : Program) : Prop :=
  ∀ (before : List Request) (ns : List Note), ns <+: c.notesInside net s body →
    IsRegistered c.ownPid (before ++ ((c.enter net s).2 :: ns).flatMap Note.requests)

/-- A scope **is served**: everything that is asked for in it reaches the service and is answered
with 200. The base of the client has no fragment, so that the service is told which process is
meant. -/
structure ServedIn (net : Network) (c : Client) (s : Scope) (body : Program) : Prop where
  base : '#' ∉ c.base.toList
  entry : IsServed (c.enter net s).2.turns
  inside : ∀ n ∈ c.notesInside net s body, IsServed n.turns

variable {c : Client} {s : Scope} {body : Program}

/-- What the notes inside a scope remove. -/
theorem ServedIn.removes_iff {n : Note} (h : c.ServedIn net s body)
    (hmem : n ∈ c.notesInside net s body) (hn : n.point.isUnregistration = false) :
    ∃ r, n.requests = [r] ∧ ∀ p, Removes p r ↔ n.point.isExit ∧ n.tracked = some p := by
  obtain ⟨before, after, hnotes⟩ := List.append_of_mem hmem
  obtain ⟨t, u, hbefore, hstep⟩ := exists_step_of_notes hnotes
  have hbase : '#' ∉ t.client.base.toList := by
    rw [hbefore.client_eq]
    exact h.base
  exact hstep.removes_iff hbase (h.inside n hmem) hn

/-- The own process stays registered if it is tracked at no exit inside. -/
private theorem keepsRegistered_of_exits (h : c.ServedIn net s body)
    (hbody : ∀ n ∈ c.notesInside net s body, n.point.isUnregistration = false)
    (hexits : ∀ n ∈ c.notesInside net s body, n.point.isExit → n.tracked ≠ some c.ownPid) :
    c.KeepsRegistered net s body := by
  intro before ns hns
  obtain ⟨r, hr, hregisters⟩ := enter_registers h.entry
  rw [List.flatMap_cons, hr, ← List.append_assoc]
  refine (isRegistered_of_registers hregisters before).append fun q hq hremoves => ?_
  obtain ⟨n, hn, hqn⟩ := List.mem_flatMap.mp hq
  have hmem := hns.subset hn
  obtain ⟨r', hr', hiff⟩ := h.removes_iff hmem (hbody n hmem)
  obtain rfl : q = r' := by rwa [hr', List.mem_singleton] at hqn
  obtain ⟨hexit, htracked⟩ := (hiff c.ownPid).mp hremoves
  exact hexits n hmem hexit htracked

/-- **A body without scopes keeps the own process registered**, as long as it does not unregister
anything explicitly. -/
theorem keepsRegistered_of_calls (h : c.ServedIn net s body)
    (hcalls : ∀ k ∈ body.calls.map Prod.fst, (Point.call k).isUnregistration = false) :
    c.KeepsRegistered net s body := by
  -- The exit of a scope counts among the calls as an unregistration.
  have hpoints : ∀ n ∈ c.notesInside net s body,
      n.point.isUnregistration = false ∧ n.point.isExit = false := by
    intro n hmem
    have hcall : n.point.asCall ∈ body.calls.map Prod.fst := by
      rw [← run_points body (c.enter net s).1]
      exact List.mem_map_of_mem hmem
    have hquiet := hcalls _ hcall
    cases hpoint : n.point with
    | call k =>
      rw [hpoint] at hquiet
      exact ⟨hquiet, rfl⟩
    | entry => exact ⟨rfl, rfl⟩
    | exit =>
      rw [hpoint] at hquiet
      exact Bool.noConfusion hquiet
  exact keepsRegistered_of_exits h (fun n hn => (hpoints n hn).1)
    fun n hn hexit => absurd hexit (by simp [(hpoints n hn).2])

/-- After an exit inside at which the own process is tracked it is not registered. -/
private theorem not_keepsRegistered_of_exit {n : Note} (h : c.ServedIn net s body)
    (hbody : ∀ n ∈ c.notesInside net s body, n.point.isUnregistration = false)
    (hmem : n ∈ c.notesInside net s body) (hexit : n.point.isExit)
    (htracked : n.tracked = some c.ownPid) : ¬ c.KeepsRegistered net s body := by
  intro hkeeps
  obtain ⟨ns, after, hnotes⟩ := List.append_of_mem hmem
  have hprefix : ns ++ [n] <+: c.notesInside net s body := by
    rw [hnotes, List.append_cons ns n after]
    exact List.prefix_append ..
  obtain ⟨r, hr, hiff⟩ := h.removes_iff hmem (hbody n hmem)
  have hregistered := hkeeps [] _ hprefix
  rw [List.nil_append, ← List.cons_append, List.flatMap_append, List.flatMap_singleton, hr]
    at hregistered
  exact not_isRegistered_of_removes ((hiff _).mpr ⟨hexit, htracked⟩) _ hregistered

/-- **A scope keeps the own process registered exactly if it is tracked at no exit inside.** The
scope is served, and nothing is unregistered explicitly. Whatever else the body does, and however it
ends, the registration is undone by the exits of scopes inside only, and by all of them at which no
other process was the last to be registered. -/
theorem keepsRegistered_iff (h : c.ServedIn net s body)
    (hbody : ∀ n ∈ c.notesInside net s body, n.point.isUnregistration = false) :
    c.KeepsRegistered net s body ↔
      ∀ n ∈ c.notesInside net s body, n.point.isExit → n.tracked ≠ some c.ownPid := by
  constructor
  · intro hkeeps n hmem hexit htracked
    exact not_keepsRegistered_of_exit h hbody hmem hexit htracked hkeeps
  · exact keepsRegistered_of_exits h hbody

/-- A scope inside does no harm if another process is registered in it last. -/
theorem keepsRegistered_iff_other :
    (Client.new "http://h" 41).KeepsRegistered .service openSession
      (.call (.register none) []
        (.scope openSession (.call (.tryRegister (some 7)) [] .leave)
          (.call .registeredProcesses [] (.panic "full")))) :=
  (keepsRegistered_iff ⟨by decide, by decide +kernel, by decide +kernel⟩
    (by decide +kernel)).mpr (by decide +kernel)

/-- **A scope does not always keep the own process registered.** If another scope is inside, its
exit unregisters the process while the outer one is still open, though the scope is served and
nothing is unregistered explicitly. -/
theorem not_keepsRegistered :
    (Client.new "http://h" 41).ServedIn .service openSession (.scope openSession .finish .finish) ∧
    (∀ n ∈ (Client.new "http://h" 41).notesInside .service openSession
      (.scope openSession .finish .finish), n.point.isUnregistration = false) ∧
    ¬ (Client.new "http://h" 41).KeepsRegistered .service openSession
      (.scope openSession .finish .finish) := by
  refine ⟨⟨by decide, by decide +kernel, by decide +kernel⟩, by decide +kernel, fun h => ?_⟩
  have hlost : ¬ IsRegistered 41 ([] ++
      (((Client.new "http://h" 41).enter .service openSession).2 ::
        (Client.new "http://h" 41).notesInside .service openSession
          (.scope openSession .finish .finish)).flatMap Note.requests) := by decide +kernel
  exact hlost (h [] _ List.prefix_rfl)

end ProcTrace.Client
