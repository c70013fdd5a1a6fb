import Mathlib.Order.Monotone.Basic
import ProcTrace.Timestamp.Instant

/-!
# Instants on the line of seconds

Dates are computed field by field, and so are instants: an offset is taken away by going to the
day before or after where that is needed. On the line of days and seconds nothing of this is left.
Different dates have different numbers (`Date.number_injective`), since the days of a month and the
months of a year follow each other without gaps, so that an instant is determined by its second on
the line and its nanosecond (`Instant.ext_seconds`). And the line goes on in both directions for as
long as the calendar does: `Instant.exists_sub` gives the instant that an offset leads to.
-/

namespace ProcTrace.Timestamp

/-! ### Dates -/

namespace Date

/-- A date that the calendar has. -/
theorem exists_of? {year : Int} {month day : Nat} (hyear : yearMin ≤ year ∧ year ≤ yearMax)
    (hday : 1 ≤ day ∧ day ≤ daysInMonth year month) :
    ∃ e, of? year month day = some e := by
  unfold of?
  rw [dif_pos hyear, dif_pos hday]
  exact ⟨_, rfl⟩

/-- Only the last day of the calendar has no day after it. -/
private theorem exists_next {d : Date} (h : d.year < yearMax) : ∃ e, d.next = some e := by
  obtain ⟨hmin, hmax⟩ := d.year_mem
  have hmonth := d.month_mem
  unfold next
  split_ifs with hday hdec
  · exact exists_of? ⟨hmin, hmax⟩ ⟨by omega, hday⟩
  · have hfirst : 28 ≤ daysInMonth d.year (d.month + 1) := daysInMonth_pos (by omega) (by omega)
    exact exists_of? ⟨hmin, hmax⟩ ⟨Nat.le_refl 1, by omega⟩
  · have hfirst : 28 ≤ daysInMonth (d.year + 1) 1 := daysInMonth_pos (by omega) (by omega)
    exact exists_of? ⟨by omega, by omega⟩ ⟨Nat.le_refl 1, by omega⟩

/-- Only the first day of the calendar has no day before it. -/
private theorem exists_prev {d : Date} (h : yearMin < d.year) : ∃ e, d.prev = some e := by
  obtain ⟨hmin, hmax⟩ := d.year_mem
  obtain ⟨hfirst, hlast⟩ := d.day_mem
  have hmonth := d.month_mem
  unfold prev
  split_ifs with hday hjan
  · exact exists_of? ⟨hmin, hmax⟩ ⟨by omega, by omega⟩
  · have hpos : 28 ≤ daysInMonth d.year (d.month - 1) := daysInMonth_pos (by omega) (by omega)
    exact exists_of? ⟨hmin, hmax⟩ ⟨by omega, Nat.le_refl _⟩
  · exact exists_of? ⟨by omega, by omega⟩ ⟨by omega, Nat.le_refl 31⟩

private theorem daysBeforeYear_mono {y z : Int} (h : y ≤ z) :
    daysBeforeYear y ≤ daysBeforeYear z := by
  unfold daysBeforeYear
  dsimp only
  omega

private theorem daysBeforeMonth_mono (year : Int) : Monotone (daysBeforeMonth year) := by
  refine monotone_nat_of_le_succ fun m => ?_
  rw [daysBeforeMonth]
  exact Nat.le_add_right ..

/-- A day of an earlier month comes before every day of a later one. -/
private theorem day_add_le (d : Date) {m : Nat} (h : d.month < m) :
    daysBeforeMonth d.year d.month + d.day ≤ daysBeforeMonth d.year m := by
  have hmono := daysBeforeMonth_mono d.year (Nat.succ_le_of_lt h)
  have hday := d.day_mem.2
  rw [daysBeforeMonth] at hmono
  omega

/-- The number of a date lies within its year. -/
private theorem number_mem_year (d : Date) :
    daysBeforeYear d.year < d.number ∧ d.number ≤ daysBeforeYear (d.year + 1) := by
  have hfirst := d.day_mem.1
  have hlast := d.day_add_le (m := 13) (by have := d.month_mem; omega)
  rw [daysBeforeMonth_thirteen] at hlast
  rw [daysBeforeYear_succ, number]
  split_ifs at hlast ⊢ <;> omega

private theorem number_lt_of_year_lt {d e : Date} (h : d.year < e.year) : d.number < e.number :=
  calc d.number ≤ daysBeforeYear (d.year + 1) := d.number_mem_year.2
    _ ≤ daysBeforeYear e.year := daysBeforeYear_mono h
    _ < e.number := e.number_mem_year.1

private theorem number_lt_of_month_lt {d e : Date} (hyear : d.year = e.year)
    (h : d.month < e.month) :
    d.number < e.number := by
  have hle := d.day_add_le h
  have hday := e.day_mem.1
  rw [number, number, ← hyear]
  omega

/-- **A date is known from its number.** -/
theorem number_injective {d e : Date} (h : d.number = e.number) : d = e := by
  have hyear : d.year = e.year := by
    rcases Int.lt_trichotomy d.year e.year with hlt | heq | hgt
    · exact absurd h (number_lt_of_year_lt hlt).ne
    · exact heq
    · exact absurd h (number_lt_of_year_lt hgt).ne'
  have hmonth : d.month = e.month := by
    rcases Nat.lt_trichotomy d.month e.month with hlt | heq | hgt
    · exact absurd h (number_lt_of_month_lt hyear hlt).ne
    · exact heq
    · exact absurd h (number_lt_of_month_lt hyear.symm hgt).ne'
  have hday : d.day = e.day := by
    rw [number, number, hyear, hmonth] at h
    omega
  cases d
  cases e
  simp_all

end Date

/-! ### Instants -/

namespace Instant

/-- An instant that the clock can show. -/
theorem exists_of? {date : Date} {second nano : Nat} (hsecond : second < daySeconds)
    (hnano : nano < 2 * secondNanos) (hleap : secondNanos ≤ nano → second % 60 = 59) :
    ∃ t, of? date second nano = some t := by
  unfold of?
  rw [dif_pos ⟨hsecond, hnano, hleap⟩]
  exact ⟨_, rfl⟩

/-- **An instant is known from its second on the line and its nanosecond.** -/
theorem ext_seconds {t u : Instant} (hseconds : t.seconds = u.seconds) (hnano : t.nano = u.nano) :
    t = u := by
  have ht := t.second_lt
  have hu := u.second_lt
  rw [seconds, seconds] at hseconds
  have hnumber : t.date.number = u.date.number := by
    unfold daySeconds at *
    omega
  have hsecond : t.second = u.second := by
    rw [hnumber] at hseconds
    omega
  have hdate := Date.number_injective hnumber
  cases t
  cases u
  simp_all

/-- An instant and an offset of less than a day, in whole minutes, lead to another instant, unless
the calendar ends there. -/
theorem exists_sub {t : Instant} {offset : Int}
    (hyear : yearMin < t.date.year ∧ t.date.year < yearMax)
    (hoffset : offset.natAbs < daySeconds) (hminutes : offset % 60 = 0) :
    ∃ u, t.sub offset = some u := by
  have hsecond := t.second_lt
  -- A leap second stays at the end of a minute.
  have hleap (n : Nat) (h : (n : Int) % 60 = (t.second - offset) % 60) :
      secondNanos ≤ t.nano → n % 60 = 59 := by
    intro hnano
    have := t.leap hnano
    omega
  unfold daySeconds at hsecond hoffset
  unfold sub
  dsimp only
  split_ifs with hbefore hwithin
  · obtain ⟨d, hd⟩ := Date.exists_prev hyear.1
    rw [hd, Option.bind_some]
    unfold daySeconds
    exact exists_of? (by unfold daySeconds; omega) t.nano_lt (hleap _ (by omega))
  · exact exists_of? (by omega) t.nano_lt (hleap _ (by omega))
  · obtain ⟨d, hd⟩ := Date.exists_next hyear.2
    rw [hd, Option.bind_some]
    unfold daySeconds at hwithin ⊢
    exact exists_of? (by unfold daySeconds; omega) t.nano_lt (hleap _ (by omega))

end Instant

end ProcTrace.Timestamp
