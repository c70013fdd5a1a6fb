import ProcTrace.Proofs.Json.Slots
import ProcTrace.Timestamp.Reader
import ProcTrace.Wire.Message

/-!
# Objects that spell messages

For every record of `ProcTrace.Wire.Message`, which objects are **accepted** as one, and the value
that an accepted object **spells**. A member without a default occurs: there is exactly one value
under its key, and it is of the right kind. One with a default occurs, or else it is missing and the
value has the default. Nothing is said about the order of the members, and nothing about members
under other keys.

All this speaks of values of JSON only, and of no reader. That an object is accepted is the same as
that it spells something (`exists_spelledBy_iff`, for each of the records).
-/

namespace ProcTrace

open Json

variable {ms : List (List Part × Value)} {key : String}

/-! ### Members -/

/-- The key **occurs** in the object: there is exactly one value under it, and it is as wanted. -/
def Occurs (ms : List (List Part × Value)) (key : String) (P : Value → Prop) : Prop :=
  ∃ v, valuesOf ms key = [v] ∧ P v

/-- The key occurs in the object, or else it is missing and something else is the case. -/
def OccursOr (ms : List (List Part × Value)) (key : String) (P : Value → Prop) (missing : Prop) :
    Prop :=
  valuesOf ms key = [] ∧ missing ∨ Occurs ms key P

section Choice

variable {α : Type} {D : Value → α → Prop} {P Q : Value → Prop} {missing : Prop}

private theorem occurs_congr (h : ∀ v ∈ valuesOf ms key, P v ↔ Q v) :
    Occurs ms key P ↔ Occurs ms key Q := by
  refine exists_congr fun v => and_congr_right fun hv => h v ?_
  rw [hv]
  exact List.mem_singleton_self v

theorem occursOr_congr (h : ∀ v ∈ valuesOf ms key, P v ↔ Q v) :
    OccursOr ms key P missing ↔ OccursOr ms key Q missing :=
  or_congr_right (occurs_congr h)

private theorem exists_occurs_iff (h : ∀ v, (∃ a, D v a) ↔ P v) :
    (∃ a, Occurs ms key (D · a)) ↔ Occurs ms key P := by
  simp only [Occurs, ← h]
  constructor
  · rintro ⟨a, v, hv, ha⟩
    exact ⟨v, hv, a, ha⟩
  · rintro ⟨v, hv, a, ha⟩
    exact ⟨a, v, hv, ha⟩

private theorem exists_occursOr_iff {default : α} (h : ∀ v, (∃ a, D v a) ↔ P v) :
    (∃ a, OccursOr ms key (D · a) (a = default)) ↔ OccursOr ms key P True := by
  simp only [OccursOr, ← exists_occurs_iff h]
  constructor
  · rintro ⟨a, ⟨hnone, rfl⟩ | ha⟩
    · exact .inl ⟨hnone, trivial⟩
    · exact .inr ⟨a, ha⟩
  · rintro (⟨hnone, -⟩ | ⟨a, ha⟩)
    · exact ⟨default, .inl ⟨hnone, rfl⟩⟩
    · exact ⟨a, .inr ha⟩

end Choice

/-! ### Kinds of values -/

/-- The value is an unsigned integer below a bound. -/
def IsNaturalBelow (bound : Nat) (v : Value) : Prop :=
  ∃ n < bound, IsNatural v n

/-- The value is an unsigned integer of 32 bits. -/
def IsUInt32 (v : Value) (n : UInt32) : Prop :=
  IsNatural v n.toNat

/-- The value is an unsigned integer of 64 bits. -/
def IsUInt64 (v : Value) (n : UInt64) : Prop :=
  IsNatural v n.toNat

/-- The value is a text of characters. -/
def IsString (v : Value) (s : String) : Prop :=
  IsText v s.toList

/-- The value is a text of a timestamp. -/
def IsInstant (v : Value) (t : Timestamp.Instant) : Prop :=
  ∃ cs, IsText v cs ∧ Timestamp.read cs = .ok t

/-- The value is an object, of which something holds. -/
def IsObject (P : List (List Part × Value) → Prop) (v : Value) : Prop :=
  ∃ ms, v = .object ms ∧ P ms

theorem isObject_iff (P : List (List Part × Value) → Prop) : IsObject P (.object ms) ↔ P ms := by
  constructor
  · rintro ⟨_, ⟨⟩, h⟩
    exact h
  · intro h
    exact ⟨ms, rfl, h⟩

private theorem exists_isUInt32_iff (v : Value) :
    (∃ n, IsUInt32 v n) ↔ IsNaturalBelow (2 ^ 32) v := by
  constructor
  · rintro ⟨n, hn⟩
    exact ⟨n.toNat, n.toNat_lt, hn⟩
  · rintro ⟨n, hlt, hn⟩
    exact ⟨.ofNat n, by rwa [IsUInt32, UInt32.toNat_ofNat_of_lt' hlt]⟩

private theorem exists_isUInt64_iff (v : Value) :
    (∃ n, IsUInt64 v n) ↔ IsNaturalBelow (2 ^ 64) v := by
  constructor
  · rintro ⟨n, hn⟩
    exact ⟨n.toNat, n.toNat_lt, hn⟩
  · rintro ⟨n, hlt, hn⟩
    exact ⟨.ofNat n, by rwa [IsUInt64, UInt64.toNat_ofNat_of_lt' hlt]⟩

private theorem exists_isObject_iff {α : Type} {S : List (List Part × Value) → α → Prop}
    {P : List (List Part × Value) → Prop} (h : ∀ ms, (∃ a, S ms a) ↔ P ms) (v : Value) :
    (∃ a, IsObject (S · a) v) ↔ IsObject P v := by
  simp only [IsObject, ← h]
  constructor
  · rintro ⟨a, ms, rfl, ha⟩
    exact ⟨ms, rfl, a, ha⟩
  · rintro ⟨ms, rfl, a, ha⟩
    exact ⟨a, ms, rfl, ha⟩

theorem forall₂_congr_left {α β : Type} {R S : α → β → Prop} {l : List α} {u : List β}
    (h : ∀ a ∈ l, ∀ b, R a b ↔ S a b) : List.Forall₂ R l u ↔ List.Forall₂ S l u := by
  have hmem (T : α → β → Prop) :
      List.Forall₂ T l u ↔ List.Forall₂ (fun a b => a ∈ l ∧ T a b) l u := by
    rw [List.forall₂_and_left]
    exact (and_iff_right fun _ => id).symm
  rw [hmem R, hmem S]
  exact ⟨.imp fun a b ⟨ha, hab⟩ => ⟨ha, (h a ha b).1 hab⟩,
    .imp fun a b ⟨ha, hab⟩ => ⟨ha, (h a ha b).2 hab⟩⟩

private theorem exists_isList_iff {α : Type} {D : Value → α → Prop} {P : Value → Prop}
    (h : ∀ v, (∃ a, D v a) ↔ P v) (v : Value) :
    (∃ as, IsList D v as) ↔ ∃ vs, v = .list vs ∧ ∀ e ∈ vs, P e := by
  have hforall (vs : List Value) : (∃ as, List.Forall₂ D vs as) ↔ ∀ e ∈ vs, P e := by
    induction vs with
    | nil => simp
    | cons v vs ih =>
      rw [List.forall_mem_cons, ← ih]
      simp only [List.forall₂_cons_left_iff]
      constructor
      · rintro ⟨_, a, as, ha, has, rfl⟩
        exact ⟨(h v).1 ⟨a, ha⟩, as, has⟩
      · rintro ⟨hv, as, has⟩
        obtain ⟨a, ha⟩ := (h v).2 hv
        exact ⟨_, a, as, ha, has, rfl⟩
  simp only [IsList, ← hforall]
  constructor
  · rintro ⟨as, vs, rfl, has⟩
    exact ⟨vs, rfl, as, has⟩
  · rintro ⟨vs, rfl, as, has⟩
    exact ⟨as, vs, rfl, has⟩

/-! ### Requests and registrations -/

/-- The object is accepted as a `RegisterRequest`. -/
structure RegisterRequest.Accepted (ms : List (List Part × Value)) : Prop where
  pid : Occurs ms "pid" (IsNaturalBelow (2 ^ 32))

/-- The object spells the `RegisterRequest`. -/
structure RegisterRequest.SpelledBy (ms : List (List Part × Value)) (x : RegisterRequest) :
    Prop where
  pid : Occurs ms "pid" (IsUInt32 · x.pid)

theorem RegisterRequest.exists_spelledBy_iff (ms : List (List Part × Value)) :
    (∃ x, RegisterRequest.SpelledBy ms x) ↔ RegisterRequest.Accepted ms := by
  constructor
  · rintro ⟨x, ⟨hpid⟩⟩
    exact ⟨(exists_occurs_iff exists_isUInt32_iff).1 ⟨x.pid, hpid⟩⟩
  · rintro ⟨hpid⟩
    obtain ⟨pid, hpid⟩ := (exists_occurs_iff exists_isUInt32_iff).2 hpid
    exact ⟨⟨pid⟩, ⟨hpid⟩⟩

/-- The object is accepted as a `RegisterResponse`. -/
structure RegisterResponse.Accepted (ms : List (List Part × Value)) : Prop where
  pid : Occurs ms "pid" (IsNaturalBelow (2 ^ 32))
  threads : Occurs ms "threads" (IsNaturalBelow (2 ^ 64))
  message : OccursOr ms "message" (fun v => ∃ s, IsString v s) True

/-- The object spells the `RegisterResponse`. -/
structure RegisterResponse.SpelledBy (ms : List (List Part × Value)) (x : RegisterResponse) :
    Prop where
  pid : Occurs ms "pid" (IsUInt32 · x.pid)
  threads : Occurs ms "threads" (IsUInt64 · x.threads)
  message : OccursOr ms "message" (IsString · x.message) (x.message = "")

theorem RegisterResponse.exists_spelledBy_iff (ms : List (List Part × Value)) :
    (∃ x, RegisterResponse.SpelledBy ms x) ↔ RegisterResponse.Accepted ms := by
  constructor
  · rintro ⟨x, hpid, hthreads, hmessage⟩
    exact ⟨(exists_occurs_iff exists_isUInt32_iff).1 ⟨x.pid, hpid⟩,
      (exists_occurs_iff exists_isUInt64_iff).1 ⟨x.threads, hthreads⟩,
      (exists_occursOr_iff fun _ => Iff.rfl).1 ⟨x.message, hmessage⟩⟩
  · rintro ⟨hpid, hthreads, hmessage⟩
    obtain ⟨pid, hpid⟩ := (exists_occurs_iff exists_isUInt32_iff).2 hpid
    obtain ⟨threads, hthreads⟩ := (exists_occurs_iff exists_isUInt64_iff).2 hthreads
    obtain ⟨message, hmessage⟩ := (exists_occursOr_iff fun _ => Iff.rfl).2 hmessage
    exact ⟨⟨pid, threads, message⟩, hpid, hthreads, hmessage⟩

/-! ### Processes -/

/-- The object is accepted as a `ProcessInfo`. -/
structure ProcessInfo.Accepted (ms : List (List Part × Value)) : Prop where
  pid : Occurs ms "pid" (IsNaturalBelow (2 ^ 32))
  threadCount : Occurs ms "thread_count" (IsNaturalBelow (2 ^ 64))
  registeredAt : Occurs ms "registered_at" fun v => ∃ t, IsInstant v t

/-- The object spells the `ProcessInfo`. -/
structure ProcessInfo.SpelledBy (ms : List (List Part × Value)) (x : ProcessInfo) : Prop where
  pid : Occurs ms "pid" (IsUInt32 · x.pid)
  threadCount : Occurs ms "thread_count" (IsUInt64 · x.threadCount)
  registeredAt : Occurs ms "registered_at" (IsInstant · x.registeredAt)

theorem ProcessInfo.exists_spelledBy_iff (ms : List (List Part × Value)) :
    (∃ x, ProcessInfo.SpelledBy ms x) ↔ ProcessInfo.Accepted ms := by
  constructor
  · rintro ⟨x, hpid, hthreads, htime⟩
    exact ⟨(exists_occurs_iff exists_isUInt32_iff).1 ⟨x.pid, hpid⟩,
      (exists_occurs_iff exists_isUInt64_iff).1 ⟨x.threadCount, hthreads⟩,
      (exists_occurs_iff fun _ => Iff.rfl).1 ⟨x.registeredAt, htime⟩⟩
  · rintro ⟨hpid, hthreads, htime⟩
    obtain ⟨pid, hpid⟩ := (exists_occurs_iff exists_isUInt32_iff).2 hpid
    obtain ⟨threads, hthreads⟩ := (exists_occurs_iff exists_isUInt64_iff).2 hthreads
    obtain ⟨time, htime⟩ := (exists_occurs_iff fun _ => Iff.rfl).2 htime
    exact ⟨⟨pid, threads, time⟩, hpid, hthreads, htime⟩

/-- The object is accepted as a `ListResponse`. -/
structure ListResponse.Accepted (ms : List (List Part × Value)) : Prop where
  processes : OccursOr ms "processes"
    (fun v => ∃ vs, v = .list vs ∧ ∀ e ∈ vs, IsObject ProcessInfo.Accepted e) True
  total : OccursOr ms "total" (IsNaturalBelow (2 ^ 64)) True

/-- The object spells the `ListResponse`. -/
structure ListResponse.SpelledBy (ms : List (List Part × Value)) (x : ListResponse) : Prop where
  processes : OccursOr ms "processes"
    (IsList (fun e p => IsObject (ProcessInfo.SpelledBy · p) e) · x.processes) (x.processes = [])
  total : OccursOr ms "total" (IsUInt64 · x.total) (x.total = 0)

theorem ListResponse.exists_spelledBy_iff (ms : List (List Part × Value)) :
    (∃ x, ListResponse.SpelledBy ms x) ↔ ListResponse.Accepted ms := by
  have hlist := exists_isList_iff (exists_isObject_iff ProcessInfo.exists_spelledBy_iff)
  constructor
  · rintro ⟨x, hprocesses, htotal⟩
    exact ⟨(exists_occursOr_iff hlist).1 ⟨x.processes, hprocesses⟩,
      (exists_occursOr_iff exists_isUInt64_iff).1 ⟨x.total, htotal⟩⟩
  · rintro ⟨hprocesses, htotal⟩
    obtain ⟨processes, hprocesses⟩ := (exists_occursOr_iff hlist).2 hprocesses
    obtain ⟨total, htotal⟩ := (exists_occursOr_iff exists_isUInt64_iff).2 htotal
    exact ⟨⟨processes, total⟩, hprocesses, htotal⟩

/-! ### Failures -/

/-- The object is accepted as an `ErrorResponse`. -/
structure ErrorResponse.Accepted (ms : List (List Part × Value)) : Prop where
  error : Occurs ms "error" fun v => ∃ s, IsString v s

/-- The object spells the `ErrorResponse`. -/
structure ErrorResponse.SpelledBy (ms : List (List Part × Value)) (x : ErrorResponse) : Prop where
  error : Occurs ms "error" (IsString · x.error)

theorem ErrorResponse.exists_spelledBy_iff (ms : List (List Part × Value)) :
    (∃ x, ErrorResponse.SpelledBy ms x) ↔ ErrorResponse.Accepted ms := by
  constructor
  · rintro ⟨x, ⟨herror⟩⟩
    exact ⟨(exists_occurs_iff fun _ => Iff.rfl).1 ⟨x.error, herror⟩⟩
  · rintro ⟨herror⟩
    obtain ⟨error, herror⟩ := (exists_occurs_iff fun _ => Iff.rfl).2 herror
    exact ⟨⟨error⟩, ⟨herror⟩⟩

/-! ### The configuration -/

/-- The object is accepted as a `ServiceConfig`. -/
structure ServiceConfig.Accepted (ms : List (List Part × Value)) : Prop where
  url : OccursOr ms "url" (fun v => ∃ s, IsString v s) True

/-- The object spells the `ServiceConfig`. -/
structure ServiceConfig.SpelledBy (ms : List (List Part × Value)) (x : ServiceConfig) : Prop where
  url : OccursOr ms "url" (IsString · x.url) (x.url = defaultServiceUrl)

theorem ServiceConfig.exists_spelledBy_iff (ms : List (List Part × Value)) :
    (∃ x, ServiceConfig.SpelledBy ms x) ↔ ServiceConfig.Accepted ms := by
  constructor
  · rintro ⟨x, ⟨hurl⟩⟩
    exact ⟨(exists_occursOr_iff fun _ => Iff.rfl).1 ⟨x.url, hurl⟩⟩
  · rintro ⟨hurl⟩
    obtain ⟨url, hurl⟩ := (exists_occursOr_iff fun _ => Iff.rfl).2 hurl
    exact ⟨⟨url⟩, ⟨hurl⟩⟩

/-- The object is accepted as a `TracerConfig`. -/
structure TracerConfig.Accepted (ms : List (List Part × Value)) : Prop where
  service : OccursOr ms "service" (IsObject ServiceConfig.Accepted) True

/-- The object spells the `TracerConfig`. -/
structure TracerConfig.SpelledBy (ms : List (List Part × Value)) (x : TracerConfig) : Prop where
  service : OccursOr ms "service" (IsObject (ServiceConfig.SpelledBy · x.service))
    (x.service = TracerConfig.default.service)

theorem TracerConfig.exists_spelledBy_iff (ms : List (List Part × Value)) :
    (∃ x, TracerConfig.SpelledBy ms x) ↔ TracerConfig.Accepted ms := by
  have hservice := exists_isObject_iff ServiceConfig.exists_spelledBy_iff
  constructor
  · rintro ⟨x, ⟨h⟩⟩
    exact ⟨(exists_occursOr_iff hservice).1 ⟨x.service, h⟩⟩
  · rintro ⟨h⟩
    obtain ⟨service, h⟩ := (exists_occursOr_iff hservice).2 h
    exact ⟨⟨service⟩, ⟨h⟩⟩

end ProcTrace
