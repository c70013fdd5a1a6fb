import ProcTrace.Proofs.Client.Keeping
import ProcTrace.Proofs.Client.Requests
import ProcTrace.Proofs.Http.Place

/-!
# The resources of a client

The processes that are registered are one resource of the service, and each of them is one beneath
it (`resource`). A client writes their names after its base URL and has the texts parsed, which can
turn the base into something else. It turns all of them alike (`resources_beneath`): either no call
comes to anything, or there is one URL for the processes, in the place that the base leads to, and
the URL of a process is that URL and the number of the process. The number can be read back from it
(`processAt?_processText`).

There is a bound on how long a URL may be, and the URLs of processes are the longer ones. So there
are clients that register processes and cannot unregister them (`not_resources_of_long`).
-/

namespace ProcTrace.Client

open Http (Network Order Reply targetLengthMax)

/-! ### Resources -/

/-- The segments that are written after a base: the processes, or one of them. -/
def resource : Option Pid → List (List Char)
  | none => ["pids".toList]
  | some p => ["pids".toList, Nat.toDigits 10 p.toNat]

private theorem resource_ne_nil (p? : Option Pid) : resource p? ≠ [] := by
  cases p? <;> exact List.cons_ne_nil _ _

private theorem isPlain_of_mem_resource (p? : Option Pid) : ∀ d ∈ resource p?, Url.IsPlain d := by
  have hpids : Url.IsPlain "pids".toList := ⟨by decide, List.all_eq_true.mp (by decide)⟩
  cases p? with
  | none => simpa [resource] using hpids
  | some p => simpa [resource] using ⟨hpids, isPlain_toDigits p.toNat⟩

/-- A call that is made to the processes as a whole. -/
def Call.isToAll : Call → Bool
  | .register _ | .tryRegister _ | .registeredProcesses => true
  | .unregister _ | .tryUnregister _ | .process _ => false

/-- The process that a call is made to, when `latest` was the last one asked to be registered. -/
def Call.toOne? (latest : Option Pid) : Call → Option Pid
  | .unregister pid | .tryUnregister pid => pid <|> latest
  | .process pid => some pid
  | .register _ | .tryRegister _ | .registeredProcesses => none

theorem Call.toOne?_of_isToAll {k : Call} (h : k.isToAll) (latest : Option Pid) :
    k.toOne? latest = none := by
  cases k with
  | register | tryRegister | registeredProcesses => rfl
  | unregister | tryUnregister | process => cases h

/-- The URL of an order is that of a resource, written after the base. -/
private theorem order?_url {base : String} {own : Pid} {latest : Option Pid} {k : Call} {o : Order}
    (h : k.order? base own latest = some o) :
    o.url.toList = Url.beneath base.toList (resource (k.toOne? latest)) := by
  have hall : (base ++ "/pids").toList = Url.beneath base.toList (resource none) := by
    rw [String.toList_append]
    rfl
  have hone (p : Pid) : (base ++ "/pids/" ++ toString p.toNat).toList =
      Url.beneath base.toList (resource (some p)) := by
    rw [← processUrl_eq ⟨base, own, latest⟩, toList_processUrl]
    simp [Url.beneath, resource, Url.Path.write]
  cases k with
  | register | tryRegister | registeredProcesses =>
    obtain rfl := Option.some.inj h
    exact hall
  | unregister pid | tryUnregister pid =>
    obtain ⟨p, hp, rfl⟩ := Option.map_eq_some_iff.mp h
    rw [Call.toOne?, hp]
    exact hone p
  | process pid =>
    obtain rfl := Option.some.inj h
    exact hone pid

/-- A call that is made to something orders something. -/
private theorem exists_order? {k : Call} {latest : Option Pid}
    (h : k.isToAll ∨ (k.toOne? latest).isSome)
    (base : String) (own : Pid) : ∃ o, k.order? base own latest = some o := by
  cases k with
  | register | tryRegister | registeredProcesses | process => exact ⟨_, rfl⟩
  | unregister pid | tryUnregister pid =>
    obtain ⟨p, hp⟩ := Option.isSome_iff_exists.mp (h.resolve_left Bool.false_ne_true)
    have hp : (pid <|> latest) = some p := hp
    exact ⟨_, by rw [Call.order?, hp, Option.map_some]⟩

/-! ### Calls that come to nothing -/

/-- The outcome of a call that failed. -/
def Outcome.isFailure : Outcome → Bool
  | .success b => !b
  | .failed _ => true
  | _ => false

/-- The call of a note **came to nothing**: it failed before anything was sent. -/
def Note.CameToNothing (n : Note) : Prop :=
  n.turns = [] ∧ n.outcome.isFailure

variable {net : Network}

/-- A call by which nothing is sent has failed. -/
private theorem cameToNothing_of_turns {c : Client} {k : Call} {replies : List Reply}
    (h : (c.perform net k replies).2.turns = []) :
    (c.perform net k replies).2.CameToNothing := by
  refine ⟨h, ?_⟩
  rw [perform_turns] at h
  cases ho : k.order? c.base c.ownPid c.tracked with
  | none =>
    cases k with
    | register | tryRegister | registeredProcesses | process => cases ho
    | unregister pid | tryUnregister pid =>
      have hnone : (pid <|> c.tracked) = none := Option.map_eq_none_iff.mp ho
      simp [perform, unregister, tryUnregister, Note.ofReport, hnone, Outcome.of,
        Outcome.isFailure]
  | some o =>
    simp only [ho] at h
    obtain ⟨f, hresult⟩ := Http.exists_error_of_turns_eq_nil h
    rw [perform_outcome_of_error ho hresult]
    cases k <;> rfl

/-! ### One URL for all -/

/-- The text of the URL of a process, when the URL of the processes is given. -/
def processText (s : Url) (pid : Pid) : List Char :=
  s.write ++ '/' :: Nat.toDigits 10 pid.toNat

/-- The process whose number is at the end of the text of a URL, after the last slash. -/
def processAt? (text : List Char) : Option Pid :=
  (Url.cutLast '/' text).map fun x => .ofNat (Nat.ofDigitChars 10 x.2 0)

/-- The process can be read back from its URL. -/
theorem processAt?_processText (s : Url) (pid : Pid) :
    processAt? (processText s pid) = some pid := by
  have hslash : '/' ∉ Nat.toDigits 10 pid.toNat := fun hmem =>
    (isPlain_toDigits pid.toNat).not_slash '/' hmem rfl
  rw [processAt?, processText, Url.cutLast_append_cons hslash, Option.map_some,
    Nat.ofDigitChars_ten_toDigits, UInt32.ofNat_toNat]

/-- Different processes have different URLs. -/
private theorem processText_injective (s : Url) : Function.Injective (processText s) := by
  intro p q h
  have hback := processAt?_processText s p
  rw [h, processAt?_processText] at hback
  exact (Option.some.inj hback).symm

/-- **Requests share a URL** `s`: those of clients with a base are made to `s` and to what is
beneath it, in the place that the base leads to as the URL `b`. -/
structure SharesUrl (net : Network) (base : String) (b s : Url) : Prop where
  place : s.place = b.place
  path : ∃ ts, s.path = .segments (ts ++ ["pids".toList])
  bare : s.query = none ∧ s.fragment = none
  /-- What is made to all processes goes to the URL. -/
  all (c : Client) (k : Call) (replies : List Reply) (hbase : c.base = base) (hk : k.isToAll) :
    (c.perform net k replies).2.turns.head?.map (·.request.url) = some s
  /-- What is made to one process goes beneath the URL. -/
  one (c : Client) (k : Call) (replies : List Reply) (pid : Pid) (hbase : c.base = base)
    (hk : k.toOne? c.tracked = some pid) (hlength : (processText s pid).length ≤ targetLengthMax) :
    (c.perform net k replies).2.turns.head?.map (·.request.url.write) = some (processText s pid)
  /-- Unless that would be too long. -/
  long (c : Client) (k : Call) (replies : List Reply) (pid : Pid) (hbase : c.base = base)
    (hk : k.toOne? c.tracked = some pid) (hlength : targetLengthMax < (processText s pid).length) :
    (c.perform net k replies).2.CameToNothing
  /-- A process can be read back from its URL. -/
  back (pid : Pid) : processAt? (processText s pid) = some pid
  /-- Different processes have different URLs. -/
  apart (p q : Pid) (h : processText s p = processText s q) : p = q

/-! ### What is written after a base -/

/-- The URL of a resource whose segments are appended to a path. -/
def resourceUrl (a : Url) (ts : List (List Char)) (p? : Option Pid) : Url :=
  a.withPath (ts ++ resource p?)

/-- The URL of a process is that of the processes and its number. -/
private theorem write_resourceUrl {a : Url} (hauthority : a.authority.isSome)
    (hquery : a.query = none) (hfragment : a.fragment = none) (ts : List (List Char)) (pid : Pid) :
    (resourceUrl a ts (some pid)).write = processText (resourceUrl a ts none) pid := by
  have hsnoc : ts ++ resource (some pid) = ts ++ resource none ++ [Nat.toDigits 10 pid.toNat] := by
    rw [List.append_assoc]
    rfl
  rw [resourceUrl, hsnoc, Url.write_withPath_append hauthority hquery hfragment]
  simp [resourceUrl, Url.beneath, processText, Url.Path.write]

section

variable {base : String} {b : Url} {ts : List (List Char)}
  (hparse : ∀ ds, ds ≠ [] → (∀ d ∈ ds, Url.IsPlain d) →
    Url.parseWith none (Url.beneath base.toList ds) = some (b.withPath (ts ++ ds)))
  (hnet : net.GoesByPlace) (hfragment : b.fragment = none)

include hparse hnet hfragment

/-- The first request of a call, when what is written after the base is appended to a path. -/
private theorem head?_perform {c : Client} (hbase : c.base = base) {k : Call} {o : Order}
    (ho : k.order? c.base c.ownPid c.tracked = some o) (replies : List Reply) :
    (c.perform net k replies).2.turns.head?.map (·.request.url) =
      if net.admits b ∧ (resourceUrl (Http.addressed b) ts (k.toOne? c.tracked)).write.length ≤
          targetLengthMax then
        some (resourceUrl (Http.addressed b) ts (k.toOne? c.tracked))
      else none := by
  subst hbase
  have hurl : Url.parse o.url = some (b.withPath (ts ++ resource (k.toOne? c.tracked))) := by
    rw [Url.parse, order?_url ho]
    exact hparse _ (resource_ne_nil _) (isPlain_of_mem_resource _)
  have haddress : Http.address? o.url =
      some (resourceUrl (Http.addressed b) ts (k.toOne? c.tracked)) := by
    have hbare : (Http.addressed b).fragment = none := by
      unfold Http.addressed
      split <;> exact hfragment
    rw [Http.address?, hurl, Option.map_some, Http.addressed_withPath]
    simp only [resourceUrl, Url.withoutFragment, Url.withPath, hbare]
  rw [perform_turns, ho]
  simp only [Http.head?_exchange, Http.receives_withPath hnet hurl, haddress, Bool.and_eq_true,
    decide_eq_true_eq]
  rfl

variable (hauthority : b.authority.isSome) (hquery : b.query = none)

include hauthority hquery

/-- **Requests share a URL**, when what is written after the base is appended to a path and requests
can be made there. -/
theorem sharesUrl_of_admits (hadmits : net.admits b)
    (hlength : (resourceUrl (Http.addressed b) ts none).write.length ≤ targetLengthMax) :
    SharesUrl net base b (resourceUrl (Http.addressed b) ts none) := by
  obtain ⟨hauthority', hquery', hfragment'⟩ := Http.addressed_bare hauthority hquery hfragment
  have hwrite := write_resourceUrl hauthority' hquery' hfragment' ts
  have hone {c : Client} (hbase : c.base = base) {k : Call} {pid : Pid}
      (hk : k.toOne? c.tracked = some pid) (replies : List Reply) :
      (c.perform net k replies).2.turns.head?.map (·.request.url) =
        if (processText (resourceUrl (Http.addressed b) ts none) pid).length ≤ targetLengthMax then
          some (resourceUrl (Http.addressed b) ts (some pid))
        else none := by
    obtain ⟨o, ho⟩ := exists_order? (.inr (Option.isSome_of_eq_some hk)) c.base c.ownPid
    simp only [head?_perform hparse hnet hfragment hbase ho replies, hk, hwrite, hadmits, true_and]
  refine ⟨Http.place_addressed b, ⟨ts, rfl⟩, ⟨hquery', hfragment'⟩, ?_, ?_, ?_,
    processAt?_processText _, fun _ _ h => processText_injective _ h⟩
  · intro c k replies hbase hk
    have hnone : k.toOne? c.tracked = none := Call.toOne?_of_isToAll hk c.tracked
    obtain ⟨o, ho⟩ := @exists_order? k c.tracked (.inl hk) c.base c.ownPid
    rw [head?_perform hparse hnet hfragment hbase ho, hnone, if_pos ⟨hadmits, hlength⟩]
  · intro c k replies pid hbase hk hshort
    have hfirst := hone hbase hk replies
    rw [if_pos hshort] at hfirst
    rw [← hwrite pid, ← Option.map_some, ← hfirst, Option.map_map]
    rfl
  · intro c k replies pid hbase hk hlong
    have hfirst := hone hbase hk replies
    rw [if_neg (Nat.not_le.mpr hlong)] at hfirst
    exact cameToNothing_of_turns (by simpa using hfirst)

/-- If no request can be made to the URL of the processes, none can be made to what is beneath
it. -/
private theorem cameToNothing_of_not_admits
    (h : ¬ (net.admits b ∧
      (resourceUrl (Http.addressed b) ts none).write.length ≤ targetLengthMax))
    {c : Client} (hbase : c.base = base) (k : Call) (replies : List Reply) :
    (c.perform net k replies).2.CameToNothing := by
  obtain ⟨hauthority', hquery', hfragment'⟩ := Http.addressed_bare hauthority hquery hfragment
  have hlonger (p? : Option Pid) : (resourceUrl (Http.addressed b) ts none).write.length ≤
      (resourceUrl (Http.addressed b) ts p?).write.length := by
    cases p? with
    | none => exact Nat.le_refl _
    | some p => simp [write_resourceUrl hauthority' hquery' hfragment', processText]
  apply cameToNothing_of_turns
  cases ho : k.order? c.base c.ownPid c.tracked with
  | none => rw [perform_turns, ho]
  | some o =>
    have hfirst := head?_perform hparse hnet hfragment hbase ho replies
    rw [if_neg fun hmade => h ⟨hmade.1, (hlonger _).trans hmade.2⟩] at hfirst
    simpa using hfirst

end

/-! ### Long bases -/

/-- The URL of a host. -/
def plainHost : Url :=
  ⟨"http".toList, some ⟨[], none, .domain "h".toList, none⟩, .segments [[]], none, none⟩

/-- A base whose path is one long segment. -/
def longBase (n : Nat) : String :=
  String.ofList (Url.beneath "http://h".toList [List.replicate n 'a'])

/-- What is written after the long base is appended to its path. -/
private theorem parse_longBase {n : Nat} (hn : n ≠ 0) {ds : List (List Char)}
    (hds : ∀ d ∈ ds, Url.IsPlain d) :
    Url.parseWith none (Url.beneath (longBase n).toList ds) =
      some (plainHost.withPath ([List.replicate n 'a'] ++ ds)) := by
  have hparse : Url.parseWith none "http://h".toList = some plainHost := by decide +kernel
  have hx : Url.parseWith none (Url.beneath "http://h".toList [['x']]) =
      some (plainHost.withPath [['x']]) := by decide +kernel
  have hplain : Url.IsPlain (List.replicate n 'a') :=
    ⟨by simpa using hn, fun c hc => by rw [List.eq_of_mem_replicate hc]; decide⟩
  have hplainx : ∀ d ∈ [['x']], Url.IsPlain d := by
    simpa using ⟨by decide, List.all_eq_true.mp (by decide)⟩
  obtain ⟨-, -, -, hnothing | ⟨ts, hts⟩⟩ :=
    Url.parse_beneath (by decide) (by decide) hparse (by decide) (by decide)
  · rw [hnothing _ (List.cons_ne_nil _ _) hplainx] at hx
    cases hx
  · rw [hts _ (List.cons_ne_nil _ _) hplainx] at hx
    obtain rfl : ts = [] := by
      have hpath := congrArg Url.path (Option.some.inj hx)
      simpa [Url.withPath] using hpath
    rw [longBase, String.toList_ofList, ← Url.beneath_append, List.singleton_append,
      hts _ (List.cons_ne_nil _ _) (List.forall_mem_cons.mpr ⟨hplain, hds⟩), List.nil_append]

private theorem toList_longBase (n : Nat) :
    (longBase n).toList = "http://h/".toList ++ List.replicate n 'a' := by
  simp [longBase, Url.beneath, Url.Path.write]

/-- The long base is stored as it is. -/
private theorem new_longBase_base {n : Nat} (hn : n ≠ 0) (own : Pid) :
    (Client.new (longBase n) own).base = longBase n := by
  have hlast : (longBase n).toList.getLast? = some 'a' := by
    rw [toList_longBase, List.getLast?_append, List.getLast?_replicate, if_neg hn]
    rfl
  rw [Client.new, trimSlash, hlast]
  rfl

private theorem length_longBase (n : Nat) (p? : Option Pid) :
    (resourceUrl plainHost [List.replicate n 'a'] p?).write.length =
      n + 9 + (Url.Path.segments (resource p?)).write.length := by
  have hhost : (plainHost.withPath []).write = "http://h".toList := by decide +kernel
  rw [resourceUrl, ← List.nil_append (_ ++ _), Url.write_withPath_append rfl rfl rfl, hhost,
    Url.beneath_append, Url.beneath, Url.beneath]
  simp [Url.Path.write]
  omega

/-- The first request of a call of a client with the long base. -/
private theorem head?_perform_longBase {n : Nat} (hn : n ≠ 0) {k : Call} {o : Order}
    (ho : k.order? (Client.new (longBase n) 41).base 41 none = some o) :
    ((Client.new (longBase n) 41).perform .service k []).2.turns.head?.map (·.request.url) =
      if n + 9 + (Url.Path.segments (resource (k.toOne? none))).write.length ≤ targetLengthMax then
        some (resourceUrl plainHost [List.replicate n 'a'] (k.toOne? none))
      else none := by
  have hfirst := head?_perform (fun ds _ => parse_longBase hn) Http.service_goesByPlace rfl
    (new_longBase_base hn 41) ho []
  have hadmits : Network.service.admits plainHost := by decide +kernel
  have hbare : Http.addressed plainHost = plainHost := by decide +kernel
  have hnew : (Client.new (longBase n) 41).tracked = none := rfl
  simpa only [hnew, hbare, hadmits, true_and, length_longBase] using hfirst

/-! ### The main statement -/

/-- **What a client registers and what it unregisters is at one URL**, or no call comes to anything.
The base is to be a URL of the web itself, without a query and a fragment, and the network is to go
by the places that URLs lead to. -/
theorem resources_beneath {net : Network} (hnet : net.GoesByPlace) {base : String} {b : Url}
    (hquery : '?' ∉ base.toList) (hfragment : '#' ∉ base.toList) (hparse : Url.parse base = some b)
    (hscheme : b.scheme = "http".toList) :
    (∀ c : Client, c.base = base → ∀ k replies, (c.perform net k replies).2.CameToNothing) ∨
      ∃ s, SharesUrl net base b s := by
  obtain ⟨hspecial, hfile⟩ := Http.isSpecial_of_isWeb (u := b) (by simp [Http.isWeb, hscheme])
  obtain ⟨hnoquery, hnofragment, hauthority, hnothing | ⟨ts, hts⟩⟩ :=
    Url.parse_beneath hquery hfragment hparse hspecial hfile
  · refine .inl fun c hbase k replies => cameToNothing_of_turns ?_
    rw [perform_turns]
    cases ho : k.order? c.base c.ownPid c.tracked with
    | none => rfl
    | some o =>
      have hurl : Url.parse o.url = none := by
        rw [Url.parse, order?_url ho, hbase]
        exact hnothing _ (resource_ne_nil _) (isPlain_of_mem_resource _)
      simp only [Http.exchange, Http.open?, hurl]
  · by_cases hadmits : net.admits b ∧
        (resourceUrl (Http.addressed b) ts none).write.length ≤ targetLengthMax
    · exact .inr ⟨_, sharesUrl_of_admits hts hnet hnofragment hauthority hnoquery hadmits.1
        hadmits.2⟩
    · exact .inl fun c hbase k replies =>
        cameToNothing_of_not_admits hts hnet hnofragment hauthority hnoquery hadmits hbase k replies

theorem resources_beneath_dotted :
    Network.service.GoesByPlace ∧
      (Client.new "http://H:80/a/../b/" 41).base = "http://H:80/a/../b" ∧
      ∃ b s, Url.parse "http://H:80/a/../b" = some b ∧ b.scheme = "http".toList ∧
        SharesUrl .service "http://H:80/a/../b" b s ∧ s.toString = "http://h/b/pids" := by
  let at? (ss : List String) : Url := ⟨"http".toList, some ⟨[], none, .domain "h".toList, none⟩,
    .segments (ss.map String.toList), none, none⟩
  have hnew : (Client.new "http://H:80/a/../b/" 41).base = "http://H:80/a/../b" := by decide +kernel
  have hparse : Url.parse "http://H:80/a/../b" = some (at? ["b"]) := by decide +kernel
  have hsent : ((Client.new "http://H:80/a/../b/" 41).perform .service .registeredProcesses
      []).2.turns.head?.map (·.request.url) = some (at? ["b", "pids"]) := by decide +kernel
  refine ⟨Http.service_goesByPlace, hnew, at? ["b"], at? ["b", "pids"], hparse, rfl, ?_,
    by decide +kernel⟩
  obtain hnothing | ⟨s, hs⟩ :=
    resources_beneath Http.service_goesByPlace (by decide) (by decide) hparse rfl
  · obtain ⟨hturns, -⟩ := hnothing _ hnew .registeredProcesses []
    simp [hturns] at hsent
  · obtain rfl : at? ["b", "pids"] = s :=
      Option.some.inj (hsent.symm.trans (hs.all _ .registeredProcesses [] hnew rfl))
    exact hs

/-- **There are clients that cannot unregister what they register**: the URL of the processes is
just short enough, and that of the process is too long. -/
theorem not_resources_of_long :
    '?' ∉ (longBase 65515).toList ∧ '#' ∉ (longBase 65515).toList ∧
      (∃ b, Url.parse (longBase 65515) = some b ∧ b.scheme = "http".toList) ∧
      (Client.new (longBase 65515) 41).base = longBase 65515 ∧
      ((Client.new (longBase 65515) 41).perform .service (.tryRegister (some 4294967295))
        []).2.turns ≠ [] ∧
      ((Client.new (longBase 65515) 41).perform .service (.tryUnregister (some 4294967295))
        []).2.CameToNothing := by
  -- The proof is about some number, so that nothing of that length is ever evaluated.
  obtain ⟨n, hlong⟩ : ∃ n, n = 65515 := ⟨_, rfl⟩
  rw [← hlong]
  have hn : n ≠ 0 := by omega
  have hmark {mark : Char} (hmark : mark ∉ "http://h/".toList ∧ mark ≠ 'a') :
      mark ∉ (longBase n).toList := by
    rw [toList_longBase, List.mem_append, not_or]
    exact ⟨hmark.1, fun hmem => hmark.2 (List.eq_of_mem_replicate hmem)⟩
  have hparse : Url.parse (longBase n) = some (plainHost.withPath [List.replicate n 'a']) := by
    rw [Url.parse, ← Url.beneath_nil (longBase n).toList, parse_longBase hn (by simp),
      List.append_nil]
  refine ⟨hmark (by decide), hmark (by decide), ⟨_, hparse, rfl⟩, new_longBase_base hn 41, ?_, ?_⟩
  · have hfirst := head?_perform_longBase hn (k := .tryRegister (some 4294967295)) rfl
    have hlength : (Url.Path.segments (resource none)).write.length = 5 := by decide
    rw [Call.toOne?, hlength, if_pos (by rw [targetLengthMax]; omega)] at hfirst
    intro hturns
    rw [hturns] at hfirst
    cases hfirst
  · have hfirst := head?_perform_longBase hn (k := .tryUnregister (some 4294967295)) rfl
    have hlength : (Url.Path.segments (resource (some 4294967295))).write.length = 16 := by
      decide +kernel
    have hone : (Call.tryUnregister (some 4294967295)).toOne? none = some 4294967295 := rfl
    rw [hone, hlength, if_neg (by rw [targetLengthMax]; omega)] at hfirst
    exact cameToNothing_of_turns (by simpa using hfirst)

end ProcTrace.Client
