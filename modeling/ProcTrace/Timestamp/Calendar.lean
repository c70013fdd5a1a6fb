/-!
# The calendar

Dates of the Gregorian calendar, extended to all years from `-262143` to `262142`, a year zero
included. A `Date` carries the proof that its day exists. The day after a date and the day before
it are computed field by field; `Date.number` counts days on one line and is what the two steps are
measured against (`Date.number_next`, `Date.number_prev`).
-/

namespace ProcTrace.Timestamp

/-- Every fourth year is a leap year, but of the years that end a century only every fourth. -/
def isLeapYear (year : Int) : Bool :=
  year % 4 = 0 && (year % 100 ≠ 0 || year % 400 = 0)

/-- The number of days of a month; zero for a number that is no month. -/
def daysInMonth (year : Int) : Nat → Nat
  | 1 | 3 | 5 | 7 | 8 | 10 | 12 => 31
  | 4 | 6 | 9 | 11 => 30
  | 2 => if isLeapYear year then 29 else 28
  | _ => 0

/-- The first year of the calendar. -/
def yearMin : Int := -262143

/-- The last year of the calendar. -/
def yearMax : Int := 262142

/-- A date of the calendar. -/
structure Date where
  year : Int
  month : Nat
  day : Nat
  year_mem : yearMin ≤ year ∧ year ≤ yearMax
  day_mem : 1 ≤ day ∧ day ≤ daysInMonth year month
  deriving DecidableEq

namespace Date

/-- The date with the given fields, if there is one. -/
def of? (year : Int) (month day : Nat) : Option Date :=
  if hy : yearMin ≤ year ∧ year ≤ yearMax then
    if hd : 1 ≤ day ∧ day ≤ daysInMonth year month then some ⟨year, month, day, hy, hd⟩ else none
  else none

theorem of?_fields (d : Date) : of? d.year d.month d.day = some d := by
  unfold of?
  rw [dif_pos d.year_mem, dif_pos d.day_mem]

theorem of?_eq_some {year : Int} {month day : Nat} {d : Date} (h : of? year month day = some d) :
    d.year = year ∧ d.month = month ∧ d.day = day := by
  unfold of? at h
  split at h
  · split at h
    · simp only [Option.some.injEq] at h; subst h; exact ⟨rfl, rfl, rfl⟩
    · simp at h
  · simp at h

/-- The day after a date, unless the calendar ends. -/
def next (d : Date) : Option Date :=
  if d.day < daysInMonth d.year d.month then of? d.year d.month (d.day + 1)
  else if d.month < 12 then of? d.year (d.month + 1) 1
  else of? (d.year + 1) 1 1

/-- The day before a date, unless the calendar ends. -/
def prev (d : Date) : Option Date :=
  if 1 < d.day then of? d.year d.month (d.day - 1)
  else if 1 < d.month then of? d.year (d.month - 1) (daysInMonth d.year (d.month - 1))
  else of? (d.year - 1) 12 31

/-- The number of days of a year before a month. -/
def daysBeforeMonth (year : Int) : Nat → Nat
  | 0 => 0
  | m + 1 => daysBeforeMonth year m + daysInMonth year m

/-- The number of days before the first of January of a year, from that of the year zero on. -/
def daysBeforeYear (year : Int) : Int :=
  let y := year - 1
  year * 365 + (y / 4 - y / 100 + y / 400) + 1

/-- The position of a date on the line of days; the first of January of the year zero is `1`. -/
def number (d : Date) : Int :=
  daysBeforeYear d.year + daysBeforeMonth d.year d.month + d.day

/-- A year has as many days as there are between its first day and that of the next year. -/
theorem daysBeforeYear_succ (year : Int) :
    daysBeforeYear (year + 1) = daysBeforeYear year + if isLeapYear year then 366 else 365 := by
  unfold daysBeforeYear isLeapYear
  simp only [Bool.and_eq_true, Bool.or_eq_true, decide_eq_true_eq]
  split <;> omega

/-- The months of a year have its days. -/
theorem daysBeforeMonth_thirteen (year : Int) :
    daysBeforeMonth year 13 = if isLeapYear year then 366 else 365 := by
  simp only [daysBeforeMonth, daysInMonth]
  split <;> rfl

theorem month_mem (d : Date) : 1 ≤ d.month ∧ d.month ≤ 12 := by
  have h := d.day_mem
  rcases Nat.lt_or_ge 12 d.month with hm | hm
  · have : daysInMonth d.year d.month = 0 := by
      unfold daysInMonth; split <;> omega
    omega
  · rcases Nat.eq_zero_or_pos d.month with h0 | h0
    · rw [h0] at h
      have : daysInMonth d.year 0 = 0 := rfl
      omega
    · exact ⟨h0, hm⟩

theorem daysInMonth_pos {year : Int} {m : Nat} (h1 : 1 ≤ m) (h2 : m ≤ 12) :
    28 ≤ daysInMonth year m := by
  obtain rfl | rfl | rfl | rfl | rfl | rfl | rfl | rfl | rfl | rfl | rfl | rfl :
    m = 1 ∨ m = 2 ∨ m = 3 ∨ m = 4 ∨ m = 5 ∨ m = 6 ∨ m = 7 ∨ m = 8 ∨ m = 9 ∨ m = 10 ∨ m = 11 ∨
      m = 12 := by omega
  all_goals simp only [daysInMonth]
  all_goals first | omega | (split <;> omega)

/-- The day after a date is the next one on the line of days. -/
theorem number_next {d e : Date} (h : d.next = some e) : e.number = d.number + 1 := by
  have hd := d.day_mem
  have hm := d.month_mem
  unfold next at h
  split at h
  · obtain ⟨hy, hm', hd'⟩ := of?_eq_some h
    unfold number; rw [hy, hm', hd']; push_cast; omega
  · have hlast : d.day = daysInMonth d.year d.month := by omega
    split at h
    · obtain ⟨hy, hm', hd'⟩ := of?_eq_some h
      unfold number; rw [hy, hm', hd', daysBeforeMonth]; push_cast; omega
    · obtain ⟨hy, hm', hd'⟩ := of?_eq_some h
      have h12 : d.month = 12 := by omega
      have h13 := daysBeforeMonth_thirteen d.year
      rw [daysBeforeMonth] at h13
      unfold number
      rw [hy, hm', hd', daysBeforeYear_succ, h12]
      rw [h12] at hlast
      have h1 : daysBeforeMonth (d.year + 1) 1 = 0 := rfl
      rw [h1]
      split at h13 <;> simp_all <;> omega

/-- The day before a date is the previous one on the line of days. -/
theorem number_prev {d e : Date} (h : d.prev = some e) : e.number = d.number - 1 := by
  have hd := d.day_mem
  have hm := d.month_mem
  unfold prev at h
  split at h
  · obtain ⟨hy, hm', hd'⟩ := of?_eq_some h
    unfold number; rw [hy, hm', hd']; omega
  · have hfirst : d.day = 1 := by omega
    split at h
    · obtain ⟨hy, hm', hd'⟩ := of?_eq_some h
      obtain ⟨m, hmm⟩ : ∃ m, d.month = m + 1 := ⟨d.month - 1, by omega⟩
      unfold number
      rw [hy, hm', hd', hmm, Nat.add_sub_cancel, daysBeforeMonth]; push_cast; omega
    · obtain ⟨hy, hm', hd'⟩ := of?_eq_some h
      have h1 : d.month = 1 := by omega
      have h13 := daysBeforeMonth_thirteen (d.year - 1)
      have hs := daysBeforeYear_succ (d.year - 1)
      have hsub : d.year - 1 + 1 = d.year := by omega
      rw [hsub] at hs
      have h31 : daysInMonth (d.year - 1) 12 = 31 := rfl
      rw [daysBeforeMonth, h31] at h13
      unfold number
      rw [hy, hm', hd', hs, h1]
      have h0 : daysBeforeMonth d.year 1 = 0 := rfl
      rw [h0]
      split at h13 <;> simp_all <;> omega

end Date

end ProcTrace.Timestamp
