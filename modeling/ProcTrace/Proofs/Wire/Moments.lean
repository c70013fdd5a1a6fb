import ProcTrace.Proofs.Wire.Acceptance
import ProcTrace.Proofs.Wire.RoundTrip

/-!
# When a process was registered

The service tells when a process was registered by a stamp of its own choice: in the date and the
clock of any place, and with as many digits of the second as it likes. What is kept of this is the
instant alone. A text that **carries** a stamp (`Carries`) is parsed as a process that was
registered at the place of the stamp on the line of seconds, which is its local time less the offset
of its zone; and this process is written with a stamp in UTC, the shortest that loses nothing.

The main statement is `stamps_keepInstant`. Its second half is what follows for comparisons: two
processes are equal if and only if the stamps in their texts stand at the same place, whatever zones
and fractions they are written with.
-/

namespace ProcTrace

open Json
open Timestamp (Instant Stamp fractionNanos)

namespace Wire

/-! ### Texts that carry a stamp -/

/-- The text **carries** a process: it is an object that has the number of the process, its number
of threads and a stamp, each of them once, and possibly other members. -/
def Carries (text : String) (pid : Pid) (threads : UInt64) (s : Stamp) : Prop :=
  ∃ ms, IsTextOf text.toList (.object ms) ∧ HasNames ms ∧ Occurs ms "pid" (IsUInt32 · pid) ∧
    Occurs ms "thread_count" (IsUInt64 · threads) ∧
    Occurs ms "registered_at" (IsText · s.text)

/-- The calendar goes on before the year of the stamp and after it, as it does for all years of
four digits. -/
def IsWithinCalendar (s : Stamp) : Prop :=
  Timestamp.yearMin < s.date.year ∧ s.date.year < Timestamp.yearMax

variable {text text' : String} {pid pid' : Pid} {threads threads' : UInt64} {s s' : Stamp}

/-- A text that carries a stamp is parsed as a process with the instant of the stamp. -/
theorem parse_of_carries (h : Carries text pid threads s) {t : Instant}
    (ht : Timestamp.read s.text = .ok t) :
    parse processInfo text = .ok ⟨pid, threads, t⟩ := by
  obtain ⟨ms, htext, hnames, hpid, hthreads, ⟨v, hv, hstamp⟩⟩ := h
  rw [parse, processInfo_describedBy.recognises.parse_eq_ok_iff]
  refine ⟨.object ms, htext, processInfo_denotes_iff.2 ⟨hnames, hpid, hthreads, ?_⟩⟩
  exact ⟨v, hv, s.text, hstamp, ht⟩

/-! ### The text that is written -/

/-- The characters of a stamp, digits apart. -/
def stampMarks : List Char :=
  ['-', '+', ':', '.', ' ', 'T', 't', 'Z', 'z']

private theorem isDigit_or_mem_of_mem_writeYear {year : Int} {c : Char}
    (h : c ∈ Timestamp.writeYear year) : c.isDigit ∨ c ∈ stampMarks := by
  unfold Timestamp.writeYear at h
  split_ifs at h
  · exact .inl (Timestamp.isDigit_of_mem_padded h)
  all_goals
    obtain rfl | h := List.mem_cons.1 h
    · exact .inr (by decide)
    · exact .inl (Timestamp.isDigit_of_mem_padded h)

private theorem isDigit_or_mem_of_mem_zone {z : Timestamp.Zone} {c : Char} (h : c ∈ z.text) :
    c.isDigit ∨ c ∈ stampMarks := by
  have hparts {h m : Nat} {sign : Char} (hsign : sign ∈ stampMarks)
      (hc : c ∈ sign :: Timestamp.padded 2 h ++ ':' :: Timestamp.padded 2 m) :
      c.isDigit ∨ c ∈ stampMarks := by
    simp only [List.cons_append, List.mem_cons, List.mem_append] at hc
    obtain rfl | hc | rfl | hc := hc
    · exact .inr hsign
    · exact .inl (Timestamp.isDigit_of_mem_padded hc)
    · exact .inr (by decide)
    · exact .inl (Timestamp.isDigit_of_mem_padded hc)
  cases z with
  | utc letter hletter =>
    obtain rfl := List.mem_singleton.1 h
    obtain rfl | rfl := hletter
    · exact .inr (by decide)
    · exact .inr (by decide)
  | ahead => exact hparts (by decide) h
  | behind => exact hparts (by decide) h

/-- A stamp consists of digits and marks. -/
private theorem isDigit_or_mem_of_mem_text {c : Char} (h : c ∈ s.text) :
    c.isDigit ∨ c ∈ stampMarks := by
  have hpadded {width n : Nat} (hc : c ∈ Timestamp.padded width n) :
      c.isDigit ∨ c ∈ stampMarks := .inl (Timestamp.isDigit_of_mem_padded hc)
  have hfraction (hc : c ∈ Timestamp.fractionText s.fraction) : c.isDigit ∨ c ∈ stampMarks := by
    cases hf : s.fraction with
    | nil =>
      rw [hf] at hc
      simp [Timestamp.fractionText] at hc
    | cons d ds =>
      rw [hf, Timestamp.fractionText, ← hf] at hc
      · obtain rfl | hc := List.mem_cons.1 hc
        · exact .inr (by decide)
        · exact .inl (s.isDigit_fraction c hc)
      · exact List.cons_ne_nil d ds
  simp only [Stamp.text, List.mem_append, List.mem_cons] at h
  rcases h with ((((((h | h | h) | h | h) | h | h) | h | h) | h | h) | h) | h
  · exact isDigit_or_mem_of_mem_writeYear h
  · exact .inr (h ▸ by decide)
  · exact hpadded h
  · exact .inr (h ▸ by decide)
  · exact hpadded h
  · rcases s.separator_mem with hs | hs | hs
    all_goals exact .inr (h ▸ hs ▸ by decide)
  · exact hpadded h
  · exact .inr (h ▸ by decide)
  · exact hpadded h
  · exact .inr (h ▸ by decide)
  · exact hpadded h
  · exact hfraction h
  · exact isDigit_or_mem_of_mem_zone h

/-- No character of a stamp is escaped. -/
private theorem writeText_stamp (s : Stamp) : writeText s.text = '"' :: s.text ++ ['"'] := by
  have hplain {c : Char} (h : c.isDigit ∨ c ∈ stampMarks) : escapeChar c = [c] := by
    obtain h | h := h
    · have hdigits : ∀ n : Fin 58, 48 ≤ n.val → escapeChar (Char.ofNat n) = [Char.ofNat n] := by
        decide
      simp only [Char.isDigit, Bool.and_eq_true, decide_eq_true_eq, ge_iff_le,
        UInt32.le_iff_toNat_le] at h
      rw [← Char.ofNat_toNat c]
      exact hdigits ⟨c.toNat, Nat.lt_succ_of_le h.2⟩ h.1
    · simp only [stampMarks, List.mem_cons, List.not_mem_nil, or_false] at h
      rcases h with rfl | rfl | rfl | rfl | rfl | rfl | rfl | rfl | rfl <;> rfl
  rw [writeText, List.flatMap_congr fun c hc => hplain (isDigit_or_mem_of_mem_text hc)]
  simp

/-- The process is **written with a stamp** in UTC that stands at a place on the line, and its
fraction is the shortest of none, three, six and nine digits that has all its nanoseconds. -/
def IsWrittenAt (x : ProcessInfo) (seconds : Int) (nano : Nat) : Prop :=
  ∃ w : Stamp, w.separator = 'T' ∧ w.zone.text = ['Z'] ∧ w.seconds = seconds ∧
    w.nano = nano ∧ w.fraction.length ∈ [0, 3, 6, 9] ∧
    (∀ ds : List Char, ds.length ∈ [0, 3, 6, 9] → fractionNanos ds = fractionNanos w.fraction →
      w.fraction.length ≤ ds.length) ∧
    x.json = "\x7b\"pid\":".toList ++ Nat.toDigits 10 x.pid.toNat ++
      ",\"thread_count\":".toList ++ Nat.toDigits 10 x.threadCount.toNat ++
      ",\"registered_at\":\"".toList ++ w.text ++ "\"\x7d".toList

/-- A process is written with the stamp of the instant at which it was registered. -/
private theorem isWrittenAt (x : ProcessInfo) :
    IsWrittenAt x x.registeredAt.seconds x.registeredAt.nano := by
  have hfraction : fractionNanos x.registeredAt.stamp.fraction = x.registeredAt.fraction :=
    Timestamp.fractionNanos_fractionDigits x.registeredAt.clock_lt.2.2.2
  refine ⟨x.registeredAt.stamp, rfl, rfl, Instant.stamp_seconds _, Instant.stamp_nano _,
    Timestamp.length_fractionDigits_mem x.registeredAt.clock_lt.2.2.2, fun ds hlength hds => ?_, ?_⟩
  · rw [hfraction] at hds
    exact Timestamp.length_fractionDigits_le x.registeredAt.clock_lt.2.2.2 hlength hds
  · rw [ProcessInfo.json, Timestamp.write_eq_text, writeText_stamp]
    simp [writeObject, separated, writeText, escapeChar, writeNat]

/-! ### The main statement -/

/-- **Stamps keep their instant.** A text that carries a stamp is parsed, as a process with the
instant in UTC that stands at the place of the stamp on the line and has its nanoseconds; what is
written for this process stands at the same place. Two such texts are parsed as the same process if
and only if the numbers in them agree and the stamps stand at the same place with the same
nanoseconds. -/
theorem stamps_keepInstant :
    (∀ text pid threads s, Carries text pid threads s → IsWithinCalendar s →
      ∃ t : Instant, parse processInfo text = .ok ⟨pid, threads, t⟩ ∧
        t.seconds = s.seconds ∧ t.nano = s.nano ∧
        IsWrittenAt ⟨pid, threads, t⟩ s.seconds s.nano) ∧
    ∀ text text' pid pid' threads threads' s s', Carries text pid threads s →
      Carries text' pid' threads' s' → IsWithinCalendar s → IsWithinCalendar s' →
      ∃ x x', parse processInfo text = .ok x ∧ parse processInfo text' = .ok x' ∧
        (x = x' ↔ pid = pid' ∧ threads = threads' ∧ s.seconds = s'.seconds ∧ s.nano = s'.nano) := by
  constructor
  · intro text pid threads s h hyear
    obtain ⟨t, ht, hseconds, hnano⟩ := Timestamp.read_text s hyear
    refine ⟨t, parse_of_carries h ht, hseconds, hnano, ?_⟩
    rw [← hseconds, ← hnano]
    exact isWrittenAt ⟨pid, threads, t⟩
  · intro text text' pid pid' threads threads' s s' h h' hyear hyear'
    obtain ⟨t, ht, hseconds, hnano⟩ := Timestamp.read_text s hyear
    obtain ⟨t', ht', hseconds', hnano'⟩ := Timestamp.read_text s' hyear'
    refine ⟨_, _, parse_of_carries h ht, parse_of_carries h' ht', ?_⟩
    rw [ProcessInfo.mk.injEq, ← hseconds, ← hnano, ← hseconds', ← hnano']
    refine and_congr_right fun _ => and_congr_right fun _ => ?_
    constructor
    · rintro rfl
      exact ⟨rfl, rfl⟩
    · rintro ⟨hs, hn⟩
      exact Instant.ext_seconds hs hn

/-- The text without spaces that carries a process. -/
def compact (pid : Pid) (threads : UInt64) (s : Stamp) : String :=
  String.ofList (writeObject [("pid", writeNat pid.toNat), ("thread_count", writeNat threads.toNat),
    ("registered_at", writeText s.text)])

/-- A key that is written is spelled. -/
private theorem exists_spellsKey (key : String) (r : List Char) :
    ∃ k, SpellsKey (writeText key.toList ++ ':' :: r) k r ∧ decode k = some key.toList := by
  obtain ⟨k, hk, hdecode⟩ := readText_eq_ok_iff.1 (readText_escaped key.toList (':' :: r))
  have hquote : skipSpace (writeText key.toList ++ ':' :: r) =
      '"' :: (key.toList.flatMap escapeChar ++ '"' :: ':' :: r) := by
    simp [writeText, skipSpace_of_starts (c := '"') rfl]
  exact ⟨k, .quoted hquote hk (skipSpace_of_starts (c := ':') rfl), hdecode⟩

/-- There is a text that carries a process, whatever its numbers and its stamp. -/
private theorem carries_compact (pid : Pid) (threads : UInt64) (s : Stamp) :
    Carries (compact pid threads s) pid threads s := by
  have htextOf : (compact pid threads s).toList = '\x7b' :: (writeText "pid".toList ++ ':' ::
      (writeNat pid.toNat ++ ',' :: (writeText "thread_count".toList ++ ':' ::
        (writeNat threads.toNat ++ ',' :: (writeText "registered_at".toList ++ ':' ::
          (writeText s.text ++ ['\x7d'])))))) := by
    simp [compact, writeObject, separated]
  obtain ⟨k₁, hk₁, hd₁⟩ := exists_spellsKey "pid" _
  obtain ⟨k₂, hk₂, hd₂⟩ := exists_spellsKey "thread_count" _
  obtain ⟨k₃, hk₃, hd₃⟩ := exists_spellsKey "registered_at" _
  have hcomma (r : List Char) : EndsValue (',' :: r) := endsValue_cons (.inl rfl) r
  obtain ⟨v₁, hv₁, hpid⟩ := word32_recognises.run_iff.1 ((word32_reads pid).run _ (hcomma _))
  obtain ⟨v₂, hv₂, hthreads⟩ :=
    word64_recognises.run_iff.1 ((word64_reads threads).run _ (hcomma _))
  obtain ⟨v₃, hv₃, hstamp⟩ := text_recognises.run_iff.1
    ((text_reads (String.ofList s.text)).run ['\x7d'] (endsValue_cons (.inr (.inr rfl)) []))
  rw [String.toList_ofList] at hv₃
  rw [IsString, String.toList_ofList] at hstamp
  refine ⟨[(k₁, v₁), (k₂, v₂), (k₃, v₃)], ⟨[], ?_, rfl⟩, ?_, ⟨v₁, ?_, hpid⟩, ⟨v₂, ?_, hthreads⟩,
    ⟨v₃, ?_, hstamp⟩⟩
  · rw [htextOf]
    exact .object rfl (.first hk₁ hv₁ (.next rfl hk₂ hv₂ (.next rfl hk₃ hv₃ (.close rfl))))
  · exact hasNames_cons.2
      ⟨⟨_, hd₁⟩, hasNames_cons.2 ⟨⟨_, hd₂⟩, List.forall_mem_singleton.2 ⟨_, hd₃⟩⟩⟩
  all_goals simp [valuesOf, hd₁, hd₂, hd₃]

/-- A leap second at the end of the year 9999, by clocks that are a minute behind UTC. -/
def leapBehind : Stamp where
  date := ⟨9999, 12, 31, by decide, by decide⟩
  separator := 't'
  hour := 23
  minute := 59
  second := 60
  fraction := ['5']
  zone := .behind 0 1 (by decide) (by decide)
  separator_mem := by decide
  hour_lt := by decide
  minute_lt := by decide
  second_le := by decide
  isDigit_fraction := List.all_eq_true.mp (by decide)
  length_fraction_le := by decide

/-- The same leap second, by clocks that are an hour and two minutes behind UTC. -/
def leapFurtherBehind : Stamp :=
  { leapBehind with
    separator := ' '
    hour := 22
    minute := 58
    fraction := ['5', '0', '0']
    zone := .behind 1 2 (by decide) (by decide)
    separator_mem := by decide
    hour_lt := by decide
    minute_lt := by decide
    isDigit_fraction := List.all_eq_true.mp (by decide)
    length_fraction_le := by decide }

/-- In UTC it belongs to the year 10000, whichever of the two clocks has shown it. -/
theorem stamps_keepInstant_leap :
    compact 7 2 leapBehind =
      "\x7b\"pid\":7,\"thread_count\":2,\"registered_at\":\"9999-12-31t23:59:60.5-00:01\"\x7d" ∧
    (∃ t : Instant, parse processInfo (compact 7 2 leapBehind) = .ok ⟨7, 2, t⟩ ∧
      t.date.number = leapBehind.date.number + 1 ∧ t.second = 59 ∧ t.nano = 1500000000) ∧
    ∃ x, parse processInfo (compact 7 2 leapBehind) = .ok x ∧
      parse processInfo (compact 7 2 leapFurtherBehind) = .ok x := by
  have hyear : IsWithinCalendar leapBehind := ⟨by decide, by decide⟩
  have hyear' : IsWithinCalendar leapFurtherBehind := ⟨by decide, by decide⟩
  have hcarries := carries_compact 7 2 leapBehind
  have hcarries' := carries_compact 7 2 leapFurtherBehind
  refine ⟨by decide, ?_, ?_⟩
  · obtain ⟨t, ht, hseconds, hnano, -⟩ := stamps_keepInstant.1 _ _ _ _ hcarries hyear
    have hplace : leapBehind.seconds = (leapBehind.date.number + 1) * 86400 + 59 := by decide
    have hsecond := t.second_lt
    rw [hplace, Instant.seconds] at hseconds
    unfold Timestamp.daySeconds at hseconds hsecond
    exact ⟨t, ht, by omega, by omega, hnano.trans (by decide)⟩
  · obtain ⟨x, x', hx, hx', hiff⟩ :=
      stamps_keepInstant.2 _ _ _ _ _ _ _ _ hcarries hcarries' hyear hyear'
    obtain rfl : x = x' := hiff.2 ⟨rfl, rfl, by decide, by decide⟩
    exact ⟨x, hx, hx'⟩

end Wire

end ProcTrace
