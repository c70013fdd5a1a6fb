import ProcTrace.Timestamp.Calendar

/-!
# Points in time

An `Instant` is a date and a time of that day, to the nanosecond. A **leap second** is kept as
the second before it with `10 ^ 9` or more nanoseconds, so that it differs from the second that
follows; it can only follow the last second of a minute. The same type serves for times in UTC and
for the local times they are computed from: `Instant.sub` takes an offset away.
-/

namespace ProcTrace.Timestamp

/-- The seconds of a day. -/
def daySeconds : Nat := 86400

/-- The nanoseconds of a second. -/
def secondNanos : Nat := 1000000000

/-- A date and a time of that day. -/
structure Instant where
  date : Date
  second : Nat
  nano : Nat
  second_lt : second < daySeconds
  nano_lt : nano < 2 * secondNanos
  leap : secondNanos ≤ nano → second % 60 = 59
  deriving DecidableEq

namespace Instant

/-- The instant with the given parts, if there is one. -/
def of? (date : Date) (second nano : Nat) : Option Instant :=
  if h : second < daySeconds ∧ nano < 2 * secondNanos ∧ (secondNanos ≤ nano → second % 60 = 59)
  then some ⟨date, second, nano, h.1, h.2.1, h.2.2⟩ else none

theorem of?_parts (t : Instant) : of? t.date t.second t.nano = some t := by
  unfold of?
  rw [dif_pos ⟨t.second_lt, t.nano_lt, t.leap⟩]

/-- The instant whose clock shows `hour:minute:second` and a fraction; a second `60` is the leap
second of that minute. -/
def ofClock? (date : Date) (hour minute second nano : Nat) : Option Instant :=
  if second = 60 then of? date (hour * 3600 + minute * 60 + 59) (nano + secondNanos)
  else of? date (hour * 3600 + minute * 60 + second) nano

def hour (t : Instant) : Nat := t.second / 3600

def minute (t : Instant) : Nat := t.second / 60 % 60

/-- The second that the clock shows: `60` during a leap second. -/
def clockSecond (t : Instant) : Nat :=
  if secondNanos ≤ t.nano then 60 else t.second % 60

/-- The nanoseconds of the second that the clock shows. -/
def fraction (t : Instant) : Nat :=
  if secondNanos ≤ t.nano then t.nano - secondNanos else t.nano

/-- What the clock shows determines the instant of the day. -/
theorem ofClock?_clock (t : Instant) :
    ofClock? t.date t.hour t.minute t.clockSecond t.fraction = some t := by
  have h1 := t.second_lt
  have h2 := t.nano_lt
  have h3 := t.leap
  unfold ofClock? hour minute clockSecond fraction
  by_cases h : secondNanos ≤ t.nano
  · have h59 := h3 h
    simp only [h, if_true]
    have e1 : t.second / 3600 * 3600 + t.second / 60 % 60 * 60 + 59 = t.second := by
      unfold daySeconds at h1; omega
    have e2 : t.nano - secondNanos + secondNanos = t.nano := Nat.sub_add_cancel h
    rw [e1, e2]; exact of?_parts t
  · have h60 : t.second % 60 ≠ 60 := by omega
    simp only [h, if_false, h60]
    have e1 : t.second / 3600 * 3600 + t.second / 60 % 60 * 60 + t.second % 60 = t.second := by
      unfold daySeconds at h1; omega
    rw [e1]; exact of?_parts t

/-- The instant a number of seconds earlier, for less than a day in either direction; nothing if
the calendar does not reach that far. The fraction stays. -/
def sub (t : Instant) (offset : Int) : Option Instant :=
  let second : Int := t.second - offset
  if second < 0 then
    t.date.prev.bind fun d => of? d (second + daySeconds).toNat t.nano
  else if second < daySeconds then of? t.date second.toNat t.nano
  else t.date.next.bind fun d => of? d (second - daySeconds).toNat t.nano

/-- The position of an instant on the line of seconds, a leap second sharing that of the second
before it. -/
def seconds (t : Instant) : Int :=
  t.date.number * daySeconds + t.second

theorem of?_eq_some {date : Date} {second nano : Nat} {t : Instant}
    (h : of? date second nano = some t) : t.date = date ∧ t.second = second ∧ t.nano = nano := by
  unfold of? at h
  split at h
  · simp only [Option.some.injEq] at h; subst h; exact ⟨rfl, rfl, rfl⟩
  · simp at h

/-- Taking an offset away moves the instant by that many seconds and keeps its fraction. -/
theorem seconds_sub {t u : Instant} {offset : Int} (hoff : offset.natAbs < daySeconds)
    (h : t.sub offset = some u) : u.seconds = t.seconds - offset ∧ u.nano = t.nano := by
  unfold sub at h
  simp only at h
  split at h
  · obtain ⟨d, hd, hu⟩ := Option.bind_eq_some_iff.1 h
    obtain ⟨h1, h2, h3⟩ := of?_eq_some hu
    have hn := Date.number_prev hd
    have := u.second_lt
    refine ⟨?_, h3⟩
    unfold seconds; rw [h1, h2, hn]; unfold daySeconds at *; omega
  · split at h
    · obtain ⟨h1, h2, h3⟩ := of?_eq_some h
      refine ⟨?_, h3⟩
      unfold seconds; rw [h1, h2]; omega
    · obtain ⟨d, hd, hu⟩ := Option.bind_eq_some_iff.1 h
      obtain ⟨h1, h2, h3⟩ := of?_eq_some hu
      have hn := Date.number_next hd
      refine ⟨?_, h3⟩
      unfold seconds; rw [h1, h2, hn]; unfold daySeconds at *; omega

end Instant

end ProcTrace.Timestamp
