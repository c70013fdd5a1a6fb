import ProcTrace.Proofs.Timestamp.Stamp

/-!
# What is written for an instant is read back

An instant is written as a stamp in UTC, with the letter `Z` (`write_eq_text`): one that stands at
the same place on the line of seconds as the instant does, and whose fraction is the shortest of
none, three, six or nine digits that has all its nanoseconds (`length_fractionDigits_le`). Since
stamps are read part by part as they are written, an instant is read back from its text
(`read_write`); the calendar and the clock have their parts in `Date.of?_fields` and
`Instant.ofClock?_clock`.
-/

namespace ProcTrace.Timestamp

/-! ### Fractions -/

/-- The digits that are written for a number of nanoseconds. -/
def fractionDigits (nano : Nat) : List Char :=
  if nano = 0 then []
  else if nano % 1000000 = 0 then padded 3 (nano / 1000000)
  else if nano % 1000 = 0 then padded 6 (nano / 1000)
  else padded 9 nano

private theorem writeFraction_eq (nano : Nat) :
    writeFraction nano = fractionText (fractionDigits nano) := by
  have hpoint (width n : Nat) : fractionText (padded width n) = '.' :: padded width n := by
    obtain ⟨c, cs, hcs, -⟩ := exists_padded width n
    rw [hcs, fractionText]
    exact List.cons_ne_nil c cs
  unfold writeFraction fractionDigits
  split_ifs
  · rfl
  · rw [hpoint]
  · rw [hpoint]
  · rw [hpoint]

private theorem isDigit_fractionDigits (nano : Nat) : ∀ c ∈ fractionDigits nano, c.isDigit := by
  intro c hc
  unfold fractionDigits at hc
  split_ifs at hc
  · simp at hc
  all_goals exact isDigit_of_mem_padded hc

variable {nano : Nat}

/-- A fraction is written with none, three, six or nine digits. -/
theorem length_fractionDigits_mem (h : nano < secondNanos) :
    (fractionDigits nano).length ∈ [0, 3, 6, 9] := by
  rw [secondNanos] at h
  unfold fractionDigits
  split_ifs
  · simp
  · rw [length_padded (by decide) (by change _ < 1000; omega)]
    simp
  · rw [length_padded (by decide) (by change _ < 1000000; omega)]
    simp
  · rw [length_padded (by decide) (by change _ < 1000000000; omega)]
    simp

/-- The digits that are written lose nothing. -/
theorem fractionNanos_fractionDigits (h : nano < secondNanos) :
    fractionNanos (fractionDigits nano) = nano := by
  rw [secondNanos] at h
  unfold fractionDigits
  split_ifs with hzero hmilli hmicro
  · exact hzero.symm
  · rw [fractionNanos, ofDigitChars_padded, length_padded (by decide) (by change _ < 1000; omega)]
    change _ * 1000000 = _
    omega
  · rw [fractionNanos, ofDigitChars_padded,
      length_padded (by decide) (by change _ < 1000000; omega)]
    change _ * 1000 = _
    omega
  · rw [fractionNanos, ofDigitChars_padded,
      length_padded (by decide) (by change _ < 1000000000; omega)]
    change _ * 1 = _
    omega

/-- **Of the fractions that lose nothing the shortest one is written.** -/
theorem length_fractionDigits_le (h : nano < secondNanos) {ds : List Char}
    (hlength : ds.length ∈ [0, 3, 6, 9]) (hds : fractionNanos ds = nano) :
    (fractionDigits nano).length ≤ ds.length := by
  -- Digits that are left out are zeros.
  rw [fractionNanos] at hds
  rw [secondNanos] at h
  simp only [List.mem_cons, List.not_mem_nil, or_false] at hlength
  rcases hlength with hlength | hlength | hlength | hlength
  · rw [List.length_eq_zero_iff] at hlength
    rw [hlength, Nat.ofDigitChars_nil, Nat.zero_mul] at hds
    rw [← hds]
    exact Nat.zero_le _
  · have hmilli : nano % 1000000 = 0 := by
      rw [← hds, hlength]
      exact Nat.mul_mod_left _ _
    rw [hlength, fractionDigits, if_pos hmilli]
    split_ifs
    · simp
    · rw [length_padded (by decide) (by change _ < 1000; omega)]
  · have hmicro : nano % 1000 = 0 := by
      rw [← hds, hlength]
      exact Nat.mul_mod_left _ _
    rw [hlength, fractionDigits, if_pos hmicro]
    split_ifs
    · simp
    · rw [length_padded (by decide) (by change _ < 1000; omega)]
      decide
    · rw [length_padded (by decide) (by change _ < 1000000; omega)]
  · rw [hlength]
    have hmem := length_fractionDigits_mem h
    simp only [List.mem_cons, List.not_mem_nil, or_false] at hmem
    omega

/-! ### The stamp of an instant -/

/-- What the clock shows is within its bounds. -/
theorem Instant.clock_lt (t : Instant) :
    t.hour < 24 ∧ t.minute < 60 ∧ t.clockSecond ≤ 60 ∧ t.fraction < secondNanos := by
  have hsecond := t.second_lt
  have hnano := t.nano_lt
  unfold hour minute clockSecond fraction
  unfold daySeconds at hsecond
  unfold secondNanos at *
  split <;> omega

/-- The **stamp of an instant**: its date and its clock in UTC. -/
def Instant.stamp (t : Instant) : Stamp where
  date := t.date
  separator := 'T'
  hour := t.hour
  minute := t.minute
  second := t.clockSecond
  fraction := fractionDigits t.fraction
  zone := .utc 'Z' (.inl rfl)
  separator_mem := .inl rfl
  hour_lt := t.clock_lt.1
  minute_lt := t.clock_lt.2.1
  second_le := t.clock_lt.2.2.1
  isDigit_fraction := isDigit_fractionDigits _
  length_fraction_le := by
    have hmem := length_fractionDigits_mem t.clock_lt.2.2.2
    simp only [List.mem_cons, List.not_mem_nil, or_false] at hmem
    omega

/-- What is written for an instant is the text of its stamp. -/
theorem write_eq_text (t : Instant) : write t = t.stamp.text := by
  rw [write, writeFraction_eq]
  rfl

/-- The stamp of an instant stands where the instant does. -/
theorem Instant.stamp_seconds (t : Instant) : t.stamp.seconds = t.seconds := by
  have hleap := t.leap
  have hclock : t.hour * 3600 + t.minute * 60 + min t.clockSecond 59 = t.second := by
    unfold hour minute clockSecond
    split_ifs with hnano
    · have := hleap hnano
      omega
    · omega
  change _ + ((t.hour * 3600 + t.minute * 60 + min t.clockSecond 59 : Nat) : Int) - 0 = _
  rw [hclock, Int.sub_zero]
  rfl

theorem Instant.stamp_nano (t : Instant) : t.stamp.nano = t.nano := by
  have hclock : fractionNanos t.stamp.fraction = t.fraction :=
    fractionNanos_fractionDigits t.clock_lt.2.2.2
  rw [Stamp.nano, hclock]
  change (t.fraction + if t.clockSecond = 60 then secondNanos else 0) = _
  unfold fraction clockSecond
  split_ifs with hnano
  · exact Nat.sub_add_cancel hnano
  · contradiction
  · omega
  · rfl

/-! ### The main statement -/

/-- **An instant is read back from its text**: in every year of the calendar, to the nanosecond,
leap seconds included. -/
theorem read_write (t : Instant) : read (write t) = .ok t := by
  have hsub : t.sub 0 = some t := by
    have hsecond := t.second_lt
    have hpos : ¬(t.second : Int) < 0 := by omega
    have hday : (t.second : Int) < daySeconds := by omega
    simp only [Instant.sub, Int.sub_zero, if_neg hpos, if_pos hday, Int.toNat_natCast,
      Instant.of?_parts]
  have hfraction : fractionNanos t.stamp.fraction = t.fraction :=
    fractionNanos_fractionDigits t.clock_lt.2.2.2
  simp only [read, write_eq_text, readParts_text, hfraction]
  change Parts.instant _ = _
  simp only [Instant.stamp, Zone.offset, Parts.instant, Date.of?_fields, Instant.ofClock?_clock,
    hsub]
  rfl

end ProcTrace.Timestamp
