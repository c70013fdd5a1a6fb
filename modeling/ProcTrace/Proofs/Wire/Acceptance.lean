import ProcTrace.Proofs.Wire.Spelled
import ProcTrace.Wire.Reader

/-!
# Exactly the objects that spell a message are read as one

For every record of `ProcTrace.Wire.Message`, the slots of its reader, and from these the main
statement, `messages_accepted`: an object is read as a message if and only if it is accepted as one,
and then as the message that it spells. Layout, the order of members and members under other keys
make no difference.

Records may stand as lists, too, which is nothing that the service ever writes. So the lists and
objects inside of a message have to be what they seem to be (`HoldsProcesses`, `HoldsService`).
-/

namespace ProcTrace

open Json

namespace Wire

variable {ms : List (List Part × Value)} {key : String}

/-! ### The kinds of members -/

theorem word32_recognises : word32.Recognises IsUInt32 := by
  have hmax : UInt32.size - 1 ≤ wordMax := by decide
  have h := (natural_recognises "u32" hmax).map UInt32.ofNat
  refine h.congr fun v n => ?_
  constructor
  · rintro ⟨k, ⟨hk, hle⟩, rfl⟩
    rwa [IsUInt32, UInt32.toNat_ofNat_of_lt' (Nat.lt_of_le_sub_one (by decide) hle)]
  · intro hn
    exact ⟨n.toNat, ⟨hn, Nat.le_sub_one_of_lt n.toNat_lt_size⟩, UInt32.ofNat_toNat⟩

theorem word64_recognises : word64.Recognises IsUInt64 := by
  have hmax : UInt64.size - 1 ≤ wordMax := by decide
  have h := (natural_recognises "usize" hmax).map UInt64.ofNat
  refine h.congr fun v n => ?_
  constructor
  · rintro ⟨k, ⟨hk, hle⟩, rfl⟩
    rwa [IsUInt64, UInt64.toNat_ofNat_of_lt' (Nat.lt_of_le_sub_one (by decide) hle)]
  · intro hn
    exact ⟨n.toNat, ⟨hn, Nat.le_sub_one_of_lt n.toNat_lt_size⟩, UInt64.ofNat_toNat⟩

theorem text_recognises : Json.text.Recognises IsString := by
  refine (textVia_recognises "a string" _).congr fun v s => ?_
  constructor
  · rintro ⟨cs, hcs, hs⟩
    cases hs
    rwa [IsString, String.toList_ofList]
  · intro hs
    exact ⟨s.toList, hs, by rw [String.ofList_toList]⟩

private theorem instant_recognises : instant.Recognises IsInstant := by
  refine (textVia_recognises "an RFC 3339 formatted date and time string" _).congr fun v t => ?_
  refine exists_congr fun cs => and_congr_right fun _ => ?_
  split <;> simp_all

/-! ### Drafts -/

section Drafts

variable {α β : Type} {D : Value → α → Prop}

theorem need_bind_eq_ok_iff {o : Option α} {f : α → Except String β} {b : β} :
    (need key o >>= f) = .ok b ↔ ∃ a, o = some a ∧ f a = .ok b := by
  cases o with
  | none => simp [need, bind, Except.bind]
  | some a => simp [need, bind, Except.bind]

/-- A member that a draft needs has to occur. -/
private theorem forall₂_some_iff {a : α} :
    List.Forall₂ D (valuesOf ms key) (some a).toList ↔ Occurs ms key (D · a) := by
  simp only [Occurs, Option.toList_some, List.forall₂_cons_right_iff, List.forall₂_nil_right_iff]
  constructor
  · rintro ⟨v, _, hv, rfl, h⟩
    exact ⟨v, h, hv⟩
  · rintro ⟨v, h, hv⟩
    exact ⟨v, [], hv, rfl, h⟩

/-- A member with a default occurs, or a draft does without it. -/
private theorem exists_forall₂_getD_iff {a default : α} :
    (∃ o : Option α, List.Forall₂ D (valuesOf ms key) o.toList ∧ o.getD default = a) ↔
      OccursOr ms key (D · a) (a = default) := by
  constructor
  · rintro ⟨o, ho, rfl⟩
    cases o with
    | none => exact .inl ⟨List.forall₂_nil_right_iff.1 ho, rfl⟩
    | some a => exact .inr (forall₂_some_iff.1 ho)
  · rintro (⟨hnone, rfl⟩ | hsome)
    · exact ⟨none, List.forall₂_nil_right_iff.2 hnone, rfl⟩
    · exact ⟨some a, forall₂_some_iff.2 hsome, rfl⟩

end Drafts

/-! ### Requests and registrations -/

def registerRequestSlots : List (Slot (Option Pid)) := [
  ⟨Pid, "pid", true, id, fun pid _ => some pid, word32, _, word32_recognises, fun _ _ => rfl⟩]

private theorem registerRequest_describedBy : registerRequest.DescribedBy registerRequestSlots where
  members_eq := rfl
  apart := by simp [registerRequestSlots]
  get_draft := by simp [registerRequestSlots, registerRequest]
  ext := by simp [registerRequestSlots]

private theorem registerRequest_denotes_iff {x : RegisterRequest} :
    registerRequest.Denotes registerRequestSlots (.object ms) x ↔
      HasNames ms ∧ x.SpelledBy ms := by
  simp only [Record.denotes_object_iff, registerRequestSlots, List.forall_mem_singleton,
    registerRequest, need_bind_eq_ok_iff]
  constructor
  · rintro ⟨hnames, _, hpid, pid, rfl, ⟨⟩⟩
    exact ⟨hnames, ⟨forall₂_some_iff.1 hpid⟩⟩
  · rintro ⟨hnames, ⟨hpid⟩⟩
    exact ⟨hnames, some x.pid, forall₂_some_iff.2 hpid, x.pid, rfl, rfl⟩

def registerResponseSlots : List (Slot RegisterResponseDraft) := [
  ⟨Pid, "pid", true, (·.pid), fun pid d => { d with pid := some pid }, word32, _,
    word32_recognises, fun _ _ => rfl⟩,
  ⟨UInt64, "threads", true, (·.threads), fun n d => { d with threads := some n }, word64, _,
    word64_recognises, fun _ _ => rfl⟩,
  ⟨String, "message", false, (·.message), fun m d => { d with message := some m }, Json.text, _,
    text_recognises, fun _ _ => rfl⟩]

private theorem registerResponse_describedBy :
    registerResponse.DescribedBy registerResponseSlots where
  members_eq := rfl
  apart := by simp [registerResponseSlots, Slot.apart_iff]
  get_draft := by simp [registerResponseSlots, registerResponse]
  ext := by
    rintro ⟨⟩ ⟨⟩ h
    simpa [registerResponseSlots] using h

private theorem registerResponse_denotes_iff {x : RegisterResponse} :
    registerResponse.Denotes registerResponseSlots (.object ms) x ↔
      HasNames ms ∧ x.SpelledBy ms := by
  simp only [Record.denotes_object_iff, registerResponseSlots, List.forall_mem_cons,
    registerResponse, need_bind_eq_ok_iff]
  constructor
  · rintro ⟨hnames, ⟨_, _, message⟩, ⟨hpid, hthreads, hmessage, -⟩, pid, rfl, threads, rfl, ⟨⟩⟩
    exact ⟨hnames, forall₂_some_iff.1 hpid, forall₂_some_iff.1 hthreads,
      exists_forall₂_getD_iff.1 ⟨message, hmessage, rfl⟩⟩
  · rintro ⟨hnames, hpid, hthreads, hmessage⟩
    obtain ⟨pid, threads, _⟩ := x
    obtain ⟨message, hm, rfl⟩ := exists_forall₂_getD_iff.2 hmessage
    exact ⟨hnames, ⟨some pid, some threads, message⟩, ⟨forall₂_some_iff.2 hpid,
      forall₂_some_iff.2 hthreads, hm, List.forall_mem_nil _⟩, pid, rfl, threads, rfl, rfl⟩

/-! ### Processes -/

def processInfoSlots : List (Slot ProcessInfoDraft) := [
  ⟨Pid, "pid", true, (·.pid), fun pid d => { d with pid := some pid }, word32, _,
    word32_recognises, fun _ _ => rfl⟩,
  ⟨UInt64, "thread_count", true, (·.threadCount), fun n d => { d with threadCount := some n },
    word64, _, word64_recognises, fun _ _ => rfl⟩,
  ⟨Timestamp.Instant, "registered_at", true, (·.registeredAt),
    fun t d => { d with registeredAt := some t }, instant, _, instant_recognises, fun _ _ => rfl⟩]

theorem processInfo_describedBy : processInfo.DescribedBy processInfoSlots where
  members_eq := rfl
  apart := by simp [processInfoSlots, Slot.apart_iff]
  get_draft := by simp [processInfoSlots, processInfo]
  ext := by
    rintro ⟨⟩ ⟨⟩ h
    simpa [processInfoSlots] using h

theorem processInfo_denotes_iff {x : ProcessInfo} :
    processInfo.Denotes processInfoSlots (.object ms) x ↔ HasNames ms ∧ x.SpelledBy ms := by
  simp only [Record.denotes_object_iff, processInfoSlots, List.forall_mem_cons, processInfo,
    need_bind_eq_ok_iff]
  constructor
  · rintro ⟨hnames, _, ⟨hpid, hthreads, htime, -⟩, pid, hp, threads, hn, time, ht, ⟨⟩⟩
    rw [hp] at hpid
    rw [hn] at hthreads
    rw [ht] at htime
    exact ⟨hnames, forall₂_some_iff.1 hpid, forall₂_some_iff.1 hthreads,
      forall₂_some_iff.1 htime⟩
  · rintro ⟨hnames, hpid, hthreads, htime⟩
    exact ⟨hnames, ⟨some x.pid, some x.threadCount, some x.registeredAt⟩,
      ⟨forall₂_some_iff.2 hpid, forall₂_some_iff.2 hthreads, forall₂_some_iff.2 htime,
        List.forall_mem_nil _⟩, _, rfl, _, rfl, _, rfl, rfl⟩

def listResponseSlots : List (Slot ListResponseDraft) := [
  ⟨List ProcessInfo, "processes", false, (·.processes),
    fun ps d => { d with processes := some ps }, Json.list processInfo.reader, _,
    list_recognises processInfo_describedBy.recognises, fun _ _ => rfl⟩,
  ⟨UInt64, "total", false, (·.total), fun n d => { d with total := some n }, word64, _,
    word64_recognises, fun _ _ => rfl⟩]

private theorem listResponse_describedBy : listResponse.DescribedBy listResponseSlots where
  members_eq := rfl
  apart := by simp [listResponseSlots, Slot.apart_iff]
  get_draft := by simp [listResponseSlots, listResponse]
  ext := by
    rintro ⟨⟩ ⟨⟩ h
    simpa [listResponseSlots] using h

/-- The processes of a list may be written as lists, and so may the service in a configuration. -/
private theorem listResponse_denotes_iff {x : ListResponse} :
    listResponse.Denotes listResponseSlots (.object ms) x ↔ HasNames ms ∧
      OccursOr ms "processes" (IsList (processInfo.Denotes processInfoSlots) · x.processes)
        (x.processes = []) ∧
      OccursOr ms "total" (IsUInt64 · x.total) (x.total = 0) := by
  simp only [Record.denotes_object_iff, listResponseSlots, List.forall_mem_cons, listResponse]
  constructor
  · rintro ⟨hnames, ⟨processes, total⟩, ⟨hprocesses, htotal, -⟩, ⟨⟩⟩
    exact ⟨hnames, exists_forall₂_getD_iff.1 ⟨processes, hprocesses, rfl⟩,
      exists_forall₂_getD_iff.1 ⟨total, htotal, rfl⟩⟩
  · rintro ⟨hnames, hprocesses, htotal⟩
    obtain ⟨_, _⟩ := x
    obtain ⟨processes, hp, rfl⟩ := exists_forall₂_getD_iff.2 hprocesses
    obtain ⟨total, ht, rfl⟩ := exists_forall₂_getD_iff.2 htotal
    exact ⟨hnames, ⟨processes, total⟩, ⟨hp, ht, List.forall_mem_nil _⟩, rfl⟩

/-! ### Failures -/

def errorResponseSlots : List (Slot (Option String)) := [
  ⟨String, "error", true, id, fun e _ => some e, Json.text, _, text_recognises, fun _ _ => rfl⟩]

theorem errorResponse_describedBy : errorResponse.DescribedBy errorResponseSlots where
  members_eq := rfl
  apart := by simp [errorResponseSlots]
  get_draft := by simp [errorResponseSlots, errorResponse]
  ext := by simp [errorResponseSlots]

theorem errorResponse_denotes_iff {x : ErrorResponse} :
    errorResponse.Denotes errorResponseSlots (.object ms) x ↔ HasNames ms ∧ x.SpelledBy ms := by
  simp only [Record.denotes_object_iff, errorResponseSlots, List.forall_mem_singleton,
    errorResponse, need_bind_eq_ok_iff]
  constructor
  · rintro ⟨hnames, _, herror, e, rfl, ⟨⟩⟩
    exact ⟨hnames, ⟨forall₂_some_iff.1 herror⟩⟩
  · rintro ⟨hnames, ⟨herror⟩⟩
    exact ⟨hnames, some x.error, forall₂_some_iff.2 herror, x.error, rfl, rfl⟩

/-! ### The configuration -/

def serviceConfigSlots : List (Slot (Option String)) := [
  ⟨String, "url", false, id, fun url _ => some url, Json.text, _, text_recognises,
    fun _ _ => rfl⟩]

private theorem serviceConfig_describedBy : serviceConfig.DescribedBy serviceConfigSlots where
  members_eq := rfl
  apart := by simp [serviceConfigSlots]
  get_draft := by simp [serviceConfigSlots, serviceConfig]
  ext := by simp [serviceConfigSlots]

private theorem serviceConfig_denotes_iff {x : ServiceConfig} :
    serviceConfig.Denotes serviceConfigSlots (.object ms) x ↔ HasNames ms ∧ x.SpelledBy ms := by
  simp only [Record.denotes_object_iff, serviceConfigSlots, List.forall_mem_singleton,
    serviceConfig]
  constructor
  · rintro ⟨hnames, url, hurl, ⟨⟩⟩
    exact ⟨hnames, ⟨exists_forall₂_getD_iff.1 ⟨url, hurl, rfl⟩⟩⟩
  · rintro ⟨hnames, ⟨hurl⟩⟩
    obtain ⟨_⟩ := x
    obtain ⟨url, h, rfl⟩ := exists_forall₂_getD_iff.2 hurl
    exact ⟨hnames, url, h, rfl⟩

def tracerConfigSlots : List (Slot (Option ServiceConfig)) := [
  ⟨ServiceConfig, "service", false, id, fun s _ => some s, serviceConfig.reader, _,
    serviceConfig_describedBy.recognises, fun _ _ => rfl⟩]

private theorem tracerConfig_describedBy : tracerConfig.DescribedBy tracerConfigSlots where
  members_eq := rfl
  apart := by simp [tracerConfigSlots]
  get_draft := by simp [tracerConfigSlots, tracerConfig]
  ext := by simp [tracerConfigSlots]

private theorem tracerConfig_denotes_iff {x : TracerConfig} :
    tracerConfig.Denotes tracerConfigSlots (.object ms) x ↔ HasNames ms ∧
      OccursOr ms "service" (serviceConfig.Denotes serviceConfigSlots · x.service)
        (x.service = TracerConfig.default.service) := by
  simp only [Record.denotes_object_iff, tracerConfigSlots, List.forall_mem_singleton, tracerConfig]
  constructor
  · rintro ⟨hnames, service, hservice, ⟨⟩⟩
    exact ⟨hnames, exists_forall₂_getD_iff.1 ⟨service, hservice, rfl⟩⟩
  · rintro ⟨hnames, hservice⟩
    obtain ⟨_⟩ := x
    obtain ⟨service, h, rfl⟩ := exists_forall₂_getD_iff.2 hservice
    exact ⟨hnames, service, h, rfl⟩

/-! ### Objects inside of objects -/

/-- Objects that are legible are read as processes if they spell them. -/
private theorem isList_processes_iff {v : Value} (hlegible : v.IsLegible) {vs : List Value}
    (hv : v = .list vs) (hobjects : ∀ e ∈ vs, ∃ ms, e = .object ms) {ps : List ProcessInfo} :
    IsList (processInfo.Denotes processInfoSlots) v ps ↔
      IsList (fun e p => IsObject (ProcessInfo.SpelledBy · p) e) v ps := by
  subst hv
  cases hlegible with
  | list hvalues =>
    have helement : ∀ e ∈ vs, ∀ p : ProcessInfo, processInfo.Denotes processInfoSlots e p ↔
        IsObject (ProcessInfo.SpelledBy · p) e := by
      intro e he p
      obtain ⟨ms, rfl⟩ := hobjects e he
      rw [processInfo_denotes_iff, and_iff_right (hvalues _ he).hasNames, isObject_iff]
    refine exists_congr fun vs' => and_congr_right fun h => ?_
    cases h
    exact forall₂_congr_left helement

/-- The value under `processes`, if there is one, is a list of objects. -/
def HoldsProcesses (ms : List (List Part × Value)) : Prop :=
  ∀ v ∈ valuesOf ms "processes", ∃ vs, v = .list vs ∧ ∀ e ∈ vs, ∃ ms', e = .object ms'

/-- The value under `service`, if there is one, is an object. -/
def HoldsService (ms : List (List Part × Value)) : Prop :=
  ∀ v ∈ valuesOf ms "service", ∃ ms', v = .object ms'

private theorem listResponse_denotes_legible_iff {x : ListResponse}
    (hlegible : (Value.object ms).IsLegible) (hprocesses : HoldsProcesses ms) :
    listResponse.Denotes listResponseSlots (.object ms) x ↔ x.SpelledBy ms := by
  have hcongr : ∀ v ∈ valuesOf ms "processes",
      IsList (processInfo.Denotes processInfoSlots) v x.processes ↔
        IsList (fun e p => IsObject (ProcessInfo.SpelledBy · p) e) v x.processes := by
    intro v hv
    obtain ⟨vs, hvs, hobjects⟩ := hprocesses v hv
    exact isList_processes_iff (hlegible.of_mem_valuesOf hv) hvs hobjects
  rw [listResponse_denotes_iff, and_iff_right hlegible.hasNames, occursOr_congr hcongr]
  exact ⟨fun ⟨hp, ht⟩ => ⟨hp, ht⟩, fun ⟨hp, ht⟩ => ⟨hp, ht⟩⟩

private theorem tracerConfig_denotes_legible_iff {x : TracerConfig}
    (hlegible : (Value.object ms).IsLegible) (hservice : HoldsService ms) :
    tracerConfig.Denotes tracerConfigSlots (.object ms) x ↔ x.SpelledBy ms := by
  have hcongr : ∀ v ∈ valuesOf ms "service",
      serviceConfig.Denotes serviceConfigSlots v x.service ↔
        IsObject (ServiceConfig.SpelledBy · x.service) v := by
    intro v hv
    obtain ⟨ms', rfl⟩ := hservice v hv
    rw [serviceConfig_denotes_iff, and_iff_right (hlegible.of_mem_valuesOf hv).hasNames,
      isObject_iff]
  rw [tracerConfig_denotes_iff, and_iff_right hlegible.hasNames, occursOr_congr hcongr]
  exact ⟨fun h => ⟨h⟩, fun ⟨h⟩ => h⟩

/-! ### The main statement -/

/-- Of the objects that are `allowed`, a record **accepts exactly** the accepted ones, as the values
that they spell. -/
structure AcceptsExactly {σ α : Type} (record : Record σ α)
    (allowed accepted : List (List Part × Value) → Prop)
    (spelled : List (List Part × Value) → α → Prop) : Prop where
  accepts_iff : ∀ text ms, IsTextOf text.toList (.object ms) → (Value.object ms).IsLegible →
    allowed ms → ((∃ x, parse record text = .ok x) ↔ accepted ms)
  value_iff : ∀ text ms, IsTextOf text.toList (.object ms) → (Value.object ms).IsLegible →
    allowed ms → ∀ x, parse record text = .ok x ↔ spelled ms x

/-- A record that reads what is spelled accepts exactly this. -/
private theorem acceptsExactly_of_denotes {σ α : Type} {record : Record σ α} {slots : List (Slot σ)}
    {allowed accepted : List (List Part × Value) → Prop}
    {spelled : List (List Part × Value) → α → Prop} (h : record.DescribedBy slots)
    (hdenotes : ∀ {ms x}, (Value.object ms).IsLegible → allowed ms →
      (record.Denotes slots (.object ms) x ↔ spelled ms x))
    (hexists : ∀ ms, (∃ x, spelled ms x) ↔ accepted ms) :
    AcceptsExactly record allowed accepted spelled := by
  have hvalue (text : String) (ms : List (List Part × Value))
      (htext : IsTextOf text.toList (.object ms)) (hlegible : (Value.object ms).IsLegible)
      (hallowed : allowed ms) (x : α) : parse record text = .ok x ↔ spelled ms x := by
    rw [parse, h.recognises.parse_eq_ok_iff, ← hdenotes hlegible hallowed]
    constructor
    · rintro ⟨v, hv, hx⟩
      rwa [htext.unique hv]
    · intro hx
      exact ⟨_, htext, hx⟩
  refine ⟨fun text ms htext hlegible hallowed => ?_, hvalue⟩
  rw [← hexists]
  exact exists_congr (hvalue text ms htext hlegible hallowed)

/-- **Exactly the objects that spell a message are read as one**, whatever their layout, the order
of their members, and their other members: for requests, all answers of the service, and the
configuration. -/
theorem messages_accepted :
    AcceptsExactly registerRequest (fun _ => True) RegisterRequest.Accepted
        RegisterRequest.SpelledBy ∧
      AcceptsExactly registerResponse (fun _ => True) RegisterResponse.Accepted
        RegisterResponse.SpelledBy ∧
      AcceptsExactly processInfo (fun _ => True) ProcessInfo.Accepted ProcessInfo.SpelledBy ∧
      AcceptsExactly listResponse HoldsProcesses ListResponse.Accepted ListResponse.SpelledBy ∧
      AcceptsExactly errorResponse (fun _ => True) ErrorResponse.Accepted
        ErrorResponse.SpelledBy ∧
      AcceptsExactly tracerConfig HoldsService TracerConfig.Accepted TracerConfig.SpelledBy := by
  refine ⟨?_, ?_, ?_, ?_, ?_, ?_⟩
  · exact acceptsExactly_of_denotes registerRequest_describedBy
      (fun h _ => registerRequest_denotes_iff.trans (and_iff_right h.hasNames))
      RegisterRequest.exists_spelledBy_iff
  · exact acceptsExactly_of_denotes registerResponse_describedBy
      (fun h _ => registerResponse_denotes_iff.trans (and_iff_right h.hasNames))
      RegisterResponse.exists_spelledBy_iff
  · exact acceptsExactly_of_denotes processInfo_describedBy
      (fun h _ => processInfo_denotes_iff.trans (and_iff_right h.hasNames))
      ProcessInfo.exists_spelledBy_iff
  · exact acceptsExactly_of_denotes listResponse_describedBy listResponse_denotes_legible_iff
      ListResponse.exists_spelledBy_iff
  · exact acceptsExactly_of_denotes errorResponse_describedBy
      (fun h _ => errorResponse_denotes_iff.trans (and_iff_right h.hasNames))
      ErrorResponse.exists_spelledBy_iff
  · exact acceptsExactly_of_denotes tracerConfig_describedBy tracerConfig_denotes_legible_iff
      TracerConfig.exists_spelledBy_iff

theorem spellsText_plain (cs : List Char)
    (h : ∀ c ∈ cs, c ≠ '"' ∧ c ≠ '\\' ∧ ¬ c.toNat < 0x20) (r : List Char) :
    SpellsText (cs ++ '"' :: r) (cs.map .char) r := by
  induction cs with
  | nil => exact .close
  | cons c cs ih =>
    obtain ⟨⟨hquote, hslash, hcontrol⟩, hcs⟩ := List.forall_mem_cons.1 h
    exact .more (.plain hquote hslash hcontrol) (ih hcs)

/-- A list of processes with a member that nobody knows in front. -/
def unknownFirst : String :=
  "\x7b\"x\": [null] ,\"total\":1\x7d"

/-- What it is a text of. -/
def unknownFirstMembers : List (List Part × Value) :=
  [([.char 'x'], .list [.null]), ("total".toList.map .char, .number ['1'])]

private theorem isTextOf_unknownFirst :
    IsTextOf unknownFirst.toList (.object unknownFirstMembers) := by
  have hx : SpellsText "x\": [null] ,\"total\":1\x7d".toList [.char 'x']
      ": [null] ,\"total\":1\x7d".toList :=
    .more (.plain (by decide) (by decide) (by decide)) .close
  have htotal : SpellsText "total\":1\x7d".toList ("total".toList.map .char) ":1\x7d".toList :=
    spellsText_plain "total".toList (by simp) _
  have hone : SpellsNumber "1\x7d".toList "\x7d".toList :=
    .unsigned (.parts (.digits (.digits rfl _) (by decide)) (.absent (by decide))
      (.absent (by decide) (by decide)))
  exact ⟨[], .object rfl (.first (.quoted rfl hx rfl) (.list rfl (.first (.null rfl) (.close rfl)))
    (.next rfl (.quoted rfl htotal rfl) (.number hone rfl) (.close rfl))), rfl⟩

/-- The member that nobody knows is passed over, the default of the processes stands in for them. -/
theorem messages_accepted_unknownFirst :
    IsTextOf unknownFirst.toList (.object unknownFirstMembers) ∧
      (Value.object unknownFirstMembers).IsLegible ∧ HoldsProcesses unknownFirstMembers ∧
      parse listResponse unknownFirst = .ok ⟨[], 1⟩ := by
  have hlegible : (Value.object unknownFirstMembers).IsLegible := by
    refine .object ?_ ?_
    · exact List.forall_mem_cons.2 ⟨⟨_, rfl⟩, List.forall_mem_singleton.2 ⟨_, rfl⟩⟩
    · exact List.forall_mem_cons.2
        ⟨.list (List.forall_mem_singleton.2 .null), List.forall_mem_singleton.2 (.number _)⟩
  have hprocesses : HoldsProcesses unknownFirstMembers := by
    intro v hv
    cases hv
  have hspelled : ListResponse.SpelledBy unknownFirstMembers ⟨[], 1⟩ := by
    refine ⟨.inl ⟨rfl, rfl⟩, .inr ⟨.number ['1'], rfl, ?_⟩⟩
    exact ⟨['1'], rfl, List.forall_mem_singleton.2 rfl, rfl⟩
  have haccepts := messages_accepted.2.2.2.1
  exact ⟨isTextOf_unknownFirst, hlegible, hprocesses,
    (haccepts.value_iff _ _ isTextOf_unknownFirst hlegible hprocesses _).2 hspelled⟩

end Wire

end ProcTrace
