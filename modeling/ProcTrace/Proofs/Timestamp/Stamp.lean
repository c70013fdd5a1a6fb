import Mathlib.Data.List.TakeWhile
import Mathlib.Data.Nat.Digits.Lemmas
import ProcTrace.Proofs.Timestamp.Line
import ProcTrace.Timestamp.Reader
import ProcTrace.Timestamp.Writer

/-!
# Timestamps as they are written

A **stamp** is a timestamp as RFC 3339 has it written: the date and the clock of some place, a
fraction of up to nine digits, and how far the clocks of this place are ahead of UTC or behind it.
Where it stands on the line of seconds is said without a reader: the second that its date and its
clock show there, less the offset (`Stamp.seconds`).

The reader of timestamps allows for numbers of any width, for blanks in front of them and for
fractions of any length. None of this gets in the way of a stamp: every part of it ends where a
separator stands, where the year has its four digits, or with the zone. The main statement is
`read_text`: a stamp is read as the instant in UTC at its place on the line, with its nanoseconds,
whatever days, months and years the offset leads across.
-/

namespace ProcTrace.Timestamp

open Text (isBlank trimFront)

/-! ### Stamps -/

/-- How far the clocks of a place are from UTC. -/
inductive Zone where
  | utc (letter : Char) (letter_mem : letter = 'Z' ∨ letter = 'z')
  | ahead (hours minutes : Nat) (hours_lt : hours < 24) (minutes_lt : minutes < 60)
  | behind (hours minutes : Nat) (hours_lt : hours < 24) (minutes_lt : minutes < 60)
  deriving DecidableEq

namespace Zone

/-- The seconds that the clocks are ahead of UTC. -/
def offset : Zone → Int
  | .utc _ _ => 0
  | .ahead h m _ _ => h * 3600 + m * 60
  | .behind h m _ _ => -(h * 3600 + m * 60)

/-- The text of a zone. -/
def text : Zone → List Char
  | .utc letter _ => [letter]
  | .ahead h m _ _ => '+' :: padded 2 h ++ ':' :: padded 2 m
  | .behind h m _ _ => '-' :: padded 2 h ++ ':' :: padded 2 m

/-- The clocks are less than a day away, by whole minutes. -/
private theorem offset_bound (z : Zone) : z.offset.natAbs < daySeconds ∧ z.offset % 60 = 0 := by
  unfold daySeconds
  cases z with
  | utc => exact ⟨Nat.zero_lt_succ _, rfl⟩
  | ahead h m hh hm =>
    simp only [offset]
    omega
  | behind h m hh hm =>
    simp only [offset]
    omega

end Zone

/-- A timestamp as it is written, with the date and the clock of some place. The second `60` is a
leap second. -/
structure Stamp where
  date : Date
  separator : Char
  hour : Nat
  minute : Nat
  second : Nat
  fraction : List Char
  zone : Zone
  separator_mem : separator = 'T' ∨ separator = 't' ∨ separator = ' '
  hour_lt : hour < 24
  minute_lt : minute < 60
  second_le : second ≤ 60
  isDigit_fraction : ∀ c ∈ fraction, c.isDigit
  length_fraction_le : fraction.length ≤ 9
  deriving DecidableEq

/-- The digits of a fraction after their point, of which there is none without digits. -/
def fractionText : List Char → List Char
  | [] => []
  | ds => '.' :: ds

/-- The nanoseconds that the digits of a fraction amount to. -/
def fractionNanos (ds : List Char) : Nat :=
  Nat.ofDigitChars 10 ds 0 * Nat.pow 10 (9 - ds.length)

namespace Stamp

/-- The text of a stamp. -/
def text (s : Stamp) : List Char :=
  writeYear s.date.year ++ '-' :: padded 2 s.date.month ++ '-' :: padded 2 s.date.day ++
    s.separator :: padded 2 s.hour ++ ':' :: padded 2 s.minute ++ ':' :: padded 2 s.second ++
    fractionText s.fraction ++ s.zone.text

/-- The second on the line, a leap second sharing that of the second before it: the one that the
date and the clock show at their place, **less the offset** of this place. -/
def seconds (s : Stamp) : Int :=
  s.date.number * daySeconds + (s.hour * 3600 + s.minute * 60 + min s.second 59 : Nat) -
    s.zone.offset

/-- The nanoseconds, which go on through a leap second. -/
def nano (s : Stamp) : Nat :=
  fractionNanos s.fraction + if s.second = 60 then secondNanos else 0

end Stamp

/-! ### Digits -/

theorem isDigit_of_mem_padded {width n : Nat} {c : Char} (h : c ∈ padded width n) :
    c.isDigit = true := by
  obtain hzero | hdigit := List.mem_append.1 h
  · rw [List.eq_of_mem_replicate hzero]
    rfl
  · exact Nat.isDigit_of_mem_toDigits (by decide) (by decide) hdigit

/-- The zeros in front do not change a number. -/
theorem ofDigitChars_padded (width n : Nat) : Nat.ofDigitChars 10 (padded width n) 0 = n := by
  rw [padded, Nat.ofDigitChars_append, Nat.ofDigitChars_replicate_zero, Nat.mul_zero,
    Nat.ofDigitChars_ten_toDigits]

/-- A number that fits the width is written in just this width. -/
theorem length_padded {width n : Nat} (hwidth : 0 < width) (h : n < Nat.pow 10 width) :
    (padded width n).length = width := by
  have := (Nat.length_toDigits_le_iff (by decide) hwidth).2 h
  simp only [padded, List.length_append, List.length_replicate]
  omega

private theorem padded_ne_nil (width n : Nat) : padded width n ≠ [] :=
  List.append_ne_nil_of_right_ne_nil _ Nat.toDigits_ne_nil

/-- What is written for a number starts with a digit. -/
theorem exists_padded (width n : Nat) : ∃ c cs, padded width n = c :: cs ∧ c.isDigit = true := by
  obtain ⟨c, cs, hcs⟩ := List.exists_cons_of_ne_nil (padded_ne_nil width n)
  have hmem : c ∈ padded width n := by
    rw [hcs]
    exact List.mem_cons_self
  exact ⟨c, cs, hcs, isDigit_of_mem_padded hmem⟩

/-- A number of two digits is written as its tens and its ones. -/
private theorem padded_two {n : Nat} (h : n < 100) :
    padded 2 n = [Nat.digitChar (n / 10), Nat.digitChar (n % 10)] := by
  have hall : ∀ n : Fin 100,
      padded 2 n = [Nat.digitChar (n / 10), Nat.digitChar (n % 10)] := by decide
  exact hall ⟨n, h⟩

/-- Digits are read as a number if just these digits are looked at. -/
private theorem readDigits_append {max : Option Nat} {ds r : List Char} (hne : ds ≠ [])
    (h : (match max with
      | none => (ds ++ r).takeWhile Char.isDigit
      | some k => ((ds ++ r).take k).takeWhile Char.isDigit) = ds) :
    readDigits max (ds ++ r) = .ok (Nat.ofDigitChars 10 ds 0, r) := by
  have hdrop : (ds ++ r).drop ds.length = r := List.drop_left
  have hne' : ds ++ r ≠ [] := List.append_ne_nil_of_left_ne_nil hne r
  cases max <;> simp only [readDigits, if_neg hne', h, if_neg hne, hdrop]

/-- A number of a fixed width is read back, whatever follows. -/
private theorem readDigits_padded_fixed {width n : Nat} (hwidth : 0 < width)
    (h : n < Nat.pow 10 width)
    (r : List Char) : readDigits (some width) (padded width n ++ r) = .ok (n, r) := by
  rw [readDigits_append (padded_ne_nil width n), ofDigitChars_padded]
  simp only [List.take_left' (length_padded hwidth h)]
  exact List.takeWhile_eq_self_iff.2 fun _ => isDigit_of_mem_padded

/-- A number of any width is read back where something else than a digit follows. -/
private theorem readDigits_padded_open (width n : Nat) {c : Char} (hc : c.isDigit = false)
    (r : List Char) : readDigits none (padded width n ++ c :: r) = .ok (n, c :: r) := by
  rw [readDigits_append (padded_ne_nil width n), ofDigitChars_padded]
  simp only
  rw [List.takeWhile_append_of_pos fun _ => isDigit_of_mem_padded,
    List.takeWhile_cons_of_neg (by rw [hc]; decide), List.append_nil]

/-- Digits are read as a number, too, if there might be more of them but something else follows. -/
private theorem readDigits_within {max : Nat} {ds : List Char} (hne : ds ≠ [])
    (hdigits : ∀ c ∈ ds, c.isDigit) (hmax : ds.length ≤ max) {c : Char} (hc : c.isDigit = false)
    (r : List Char) :
    readDigits (some max) (ds ++ c :: r) = .ok (Nat.ofDigitChars 10 ds 0, c :: r) := by
  refine readDigits_append hne ?_
  simp only [List.take_append]
  rw [List.take_of_length_le hmax, List.takeWhile_append_of_pos hdigits]
  -- What else is looked at, if anything, starts with a character that is no digit.
  cases max - ds.length with
  | zero => rw [List.take_zero, List.takeWhile_nil, List.append_nil]
  | succ k =>
    rw [List.take_succ_cons, List.takeWhile_cons_of_neg (by rw [hc]; decide), List.append_nil]

private theorem isBlank_of_isDigit {c : Char} (h : c.isDigit = true) : isBlank c = false := by
  simp only [Char.isDigit, Bool.and_eq_true, decide_eq_true_eq, ge_iff_le, UInt32.le_iff_toNat_le]
    at h
  have hlow : 48 ≤ c.toNat := h.1
  have hhigh : c.toNat ≤ 57 := h.2
  simp only [isBlank, Bool.or_eq_false_iff, Bool.and_eq_false_iff, decide_eq_false_iff_not,
    beq_eq_false_iff_ne]
  omega

/-- No blank is removed in front of something else. -/
private theorem trimFront_cons {c : Char} (hc : isBlank c = false) (r : List Char) :
    trimFront (c :: r) = c :: r := by
  rw [trimFront, List.dropWhile_cons_of_neg (by rw [hc]; decide)]

/-- No blank is removed in front of a number. -/
private theorem trimFront_padded (width n : Nat) (r : List Char) :
    trimFront (padded width n ++ r) = padded width n ++ r := by
  obtain ⟨c, cs, hcs, hc⟩ := exists_padded width n
  rw [hcs, List.cons_append, trimFront_cons (isBlank_of_isDigit hc)]

/-! ### The parts of a stamp -/

/-- A part of two digits is read back. -/
private theorem readPart_padded {low high n : Nat} (hlow : low ≤ n) (hhigh : n ≤ high) (h : n < 100)
    (r : List Char) : readPart low high (padded 2 n ++ r) = .ok (n, r) := by
  simp only [readPart, trimFront_padded]
  rw [readDigits_padded_fixed (by decide) h]
  exact if_pos ⟨hlow, hhigh⟩

/-- A year of the calendar is read back. -/
private theorem readYear_writeYear {year : Int} (hmin : yearMin ≤ year) (hmax : year ≤ yearMax)
    (r : List Char) : readYear (writeYear year ++ '-' :: r) = .ok (year, '-' :: r) := by
  rw [yearMin] at hmin
  rw [yearMax] at hmax
  unfold writeYear
  split_ifs with hfour hneg
  · -- A digit comes first, so that no sign is seen.
    obtain ⟨c, cs, hcs, hc⟩ := exists_padded 4 year.toNat
    have hbound : year.toNat < Nat.pow 10 4 := by
      change year.toNat < 10000
      omega
    have hread := readDigits_padded_fixed (by decide) hbound ('-' :: r)
    rw [readYear, trimFront_padded]
    rw [hcs, List.cons_append] at hread ⊢
    split
    · next heq => cases heq; cases hc
    · next heq => cases heq; cases hc
    · simp only [hread]
      exact congrArg (fun y => Except.ok (y, '-' :: r)) (by omega)
  · -- After a sign all digits are taken, and the mark before the month is what ends them.
    have hread := readDigits_padded_open 4 year.natAbs (c := '-') rfl r
    have hlimit : year.natAbs ≤ yearLimit := by
      rw [yearLimit]
      omega
    simp only [List.cons_append, readYear, trimFront_cons (c := '-') rfl, hread]
    exact (if_pos hlimit).trans (congrArg (fun y => Except.ok (y, '-' :: r)) (by omega))
  · have hread := readDigits_padded_open 4 year.natAbs (c := '-') rfl r
    have hlimit : year.natAbs < yearLimit := by
      rw [yearLimit]
      omega
    simp only [List.cons_append, readYear, trimFront_cons (c := '+') rfl, hread]
    exact (if_pos hlimit).trans (congrArg (fun y => Except.ok (y, '-' :: r)) (by omega))

/-- A fraction is read from any number of digits up to nine, with zeros for the others. -/
private theorem readFraction_text {ds : List Char} (hdigits : ∀ c ∈ ds, c.isDigit)
    (hmax : ds.length ≤ 9) {c : Char} (hc : c.isDigit = false) (hpoint : c ≠ '.') (r : List Char) :
    readFraction (fractionText ds ++ c :: r) = .ok (fractionNanos ds, c :: r) := by
  cases ds with
  | nil =>
    rw [fractionText, List.nil_append]
    unfold readFraction
    split
    · next heq => exact absurd (List.cons.inj heq).1 hpoint
    · rfl
  | cons d ds =>
    have hread := readDigits_within (List.cons_ne_nil d ds) hdigits hmax hc r
    -- The reader counts the places by how much shorter the text has become.
    have hplaces : (d :: ds ++ c :: r).length - (c :: r).length = (d :: ds).length := by
      rw [List.length_append, Nat.add_sub_cancel]
    have hrest : (c :: r).dropWhile Char.isDigit = c :: r := by
      rw [List.dropWhile_cons_of_neg (by rw [hc]; decide)]
    simp only [fractionText, List.cons_append, readFraction]
    rw [← List.cons_append, hread]
    exact congrArg₂ (fun k s => Except.ok (_ * Nat.pow 10 (9 - k), s)) hplaces hrest

/-- The hours or the minutes of an offset are read digit by digit. -/
private theorem readPair_padded {n : Nat} (h : n < 100) (r : List Char) :
    readPair (padded 2 n ++ r) = .ok ((n / 10, n % 10), r) := by
  have hdigit : ∀ d : Fin 10, (Nat.digitChar d).isDigit = true ∧
      (Nat.digitChar d).toNat - '0'.toNat = d := by decide
  obtain ⟨htens, htens'⟩ := hdigit ⟨n / 10, by omega⟩
  obtain ⟨hones, hones'⟩ := hdigit ⟨n % 10, by omega⟩
  dsimp only at htens htens' hones hones'
  rw [padded_two h]
  simp only [List.cons_append, List.nil_append, readPair, htens, hones, htens', hones']
  rfl

/-- The hours and the minutes of an offset are read, with the colon between them. -/
private theorem readOffsetParts_padded {h m : Nat} (hh : h < 24) (hm : m < 60) :
    readOffsetParts (padded 2 h ++ ':' :: padded 2 m) = .ok (h * 3600 + m * 60, []) := by
  have hcolon : (':' :: padded 2 m).dropWhile (fun c => c = ':' || isBlank c) = padded 2 m := by
    have hskip : (padded 2 m).dropWhile (fun c => c = ':' || isBlank c) = padded 2 m := by
      obtain ⟨c, cs, hcs, hc⟩ := exists_padded 2 m
      have hne : c ≠ ':' := by
        rintro rfl
        cases hc
      rw [hcs, List.dropWhile_cons_of_neg (by simp [hne, isBlank_of_isDigit hc])]
    rw [List.dropWhile_cons_of_pos (by decide), hskip]
  have hminutes := readPair_padded (n := m) (by omega) []
  rw [List.append_nil] at hminutes
  have htens : m / 10 < 6 := by omega
  simp only [readOffsetParts, readPair_padded (n := h) (by omega), hcolon, hminutes, bind,
    Except.bind, if_pos htens]
  exact congrArg (fun n => Except.ok (n, [])) (by omega)

/-- A zone is read as its offset. -/
private theorem readZone_text (z : Zone) : readZone (trimFront z.text) = .ok (z.offset, []) := by
  cases z with
  | utc letter hletter => obtain rfl | rfl := hletter <;> rfl
  | ahead h m hh hm =>
    have hparts := readOffsetParts_padded hh hm
    simp only [Zone.text, List.cons_append, trimFront_cons (c := '+') rfl]
    generalize padded 2 h ++ ':' :: padded 2 m = t at hparts ⊢
    simp only [readZone, List.take_succ_cons, List.map_cons, readOffset, hparts, Zone.offset]
    rfl
  | behind h m hh hm =>
    have hparts := readOffsetParts_padded hh hm
    simp only [Zone.text, List.cons_append, trimFront_cons (c := '-') rfl]
    generalize padded 2 h ++ ':' :: padded 2 m = t at hparts ⊢
    simp only [readZone, List.take_succ_cons, List.map_cons, readOffset, hparts, Zone.offset]
    rfl

/-- A zone starts with something that ends a fraction. -/
private theorem exists_zone_text (z : Zone) :
    ∃ c r, z.text = c :: r ∧ c.isDigit = false ∧ c ≠ '.' := by
  cases z with
  | utc letter hletter =>
    obtain rfl | rfl := hletter
    · exact ⟨_, _, rfl, rfl, by decide⟩
    · exact ⟨_, _, rfl, rfl, by decide⟩
  | ahead => exact ⟨_, _, rfl, rfl, by decide⟩
  | behind => exact ⟨_, _, rfl, rfl, by decide⟩

/-! ### Reading stamps -/

private theorem daysInMonth_le (year : Int) (month : Nat) : daysInMonth year month ≤ 31 := by
  unfold daysInMonth
  split
  case h_12 => split <;> omega
  all_goals omega

/-- The parts that are read from a stamp are those that it is made of. -/
theorem readParts_text (s : Stamp) :
    readParts s.text = .ok
      { year := s.date.year, month := s.date.month, day := s.date.day, hour := s.hour
        minute := s.minute, second := s.second, nano := fractionNanos s.fraction
        offset := s.zone.offset } := by
  obtain ⟨hyearMin, hyearMax⟩ := s.date.year_mem
  obtain ⟨hmonthMin, hmonthMax⟩ := s.date.month_mem
  obtain ⟨hdayMin, hdayMax⟩ := s.date.day_mem
  have hday31 := Nat.le_trans hdayMax (daysInMonth_le ..)
  have hhour := s.hour_lt
  have hminute := s.minute_lt
  have hsecond := s.second_le
  have hmark {c : Char} (hc : isBlank c = false) (r : List Char) :
      readMarkAfterBlanks c (c :: r) = .ok r := by
    rw [readMarkAfterBlanks, trimFront_cons hc, readMark, if_pos rfl]
  have hblank : isBlank '-' = false ∧ isBlank ':' = false := by decide
  have hseparator (r : List Char) : readSeparator (s.separator :: r) = .ok r :=
    if_pos s.separator_mem
  have hfraction : readFraction (fractionText s.fraction ++ s.zone.text) =
      .ok (fractionNanos s.fraction, s.zone.text) := by
    obtain ⟨c, r, hzone, hc, hpoint⟩ := exists_zone_text s.zone
    rw [hzone]
    exact readFraction_text s.isDigit_fraction s.length_fraction_le hc hpoint r
  have hend : trimFront [] = [] := rfl
  simp only [Stamp.text, List.append_assoc, List.cons_append, readParts,
    readYear_writeYear hyearMin hyearMax, hmark hblank.1, hmark hblank.2, hseparator,
    readPart_padded hmonthMin hmonthMax (by omega), readPart_padded hdayMin hday31 (by omega),
    readPart_padded (Nat.zero_le s.hour) (Nat.le_of_lt_succ hhour) (by omega),
    readPart_padded (Nat.zero_le s.minute) (Nat.le_of_lt_succ hminute) (by omega),
    readPart_padded (Nat.zero_le s.second) hsecond (by omega), hfraction, readZone_text, hend,
    if_true, bind, Except.bind]

/-- Digits are worth less than a one with as many zeros after it. -/
private theorem ofDigitChars_lt {ds : List Char} (hdigits : ∀ c ∈ ds, c.isDigit) (init : Nat) :
    Nat.ofDigitChars 10 ds init < (init + 1) * 10 ^ ds.length := by
  induction ds generalizing init with
  | nil => simp
  | cons c ds ih =>
    obtain ⟨hc, hdigits⟩ := List.forall_mem_cons.1 hdigits
    have hvalue : c.toNat - '0'.toNat ≤ 9 := by
      simp only [Char.isDigit, Bool.and_eq_true, decide_eq_true_eq, ge_iff_le,
        UInt32.le_iff_toNat_le] at hc
      exact Nat.sub_le_sub_right hc.2 48
    have hscale : (10 * init + (c.toNat - '0'.toNat) + 1) * 10 ^ ds.length ≤
        (init + 1) * 10 * 10 ^ ds.length := Nat.mul_le_mul_right _ (by omega)
    rw [Nat.ofDigitChars_cons, List.length_cons, Nat.pow_succ']
    calc Nat.ofDigitChars 10 ds (10 * init + (c.toNat - '0'.toNat))
        < (10 * init + (c.toNat - '0'.toNat) + 1) * 10 ^ ds.length := ih hdigits _
      _ ≤ (init + 1) * 10 * 10 ^ ds.length := hscale
      _ = (init + 1) * (10 * 10 ^ ds.length) := Nat.mul_assoc ..

private theorem fractionNanos_lt {ds : List Char} (hdigits : ∀ c ∈ ds, c.isDigit)
    (h : ds.length ≤ 9) :
    fractionNanos ds < secondNanos := by
  have hlt := ofDigitChars_lt hdigits 0
  rw [Nat.zero_add, Nat.one_mul] at hlt
  calc fractionNanos ds < 10 ^ ds.length * 10 ^ (9 - ds.length) :=
        Nat.mul_lt_mul_of_pos_right hlt (Nat.pow_pos (by decide))
    _ = 10 ^ 9 := by rw [← Nat.pow_add, Nat.add_sub_cancel' h]

/-- The local time of a stamp is one that the clock can show. -/
private theorem exists_local (s : Stamp) :
    ∃ t, Instant.ofClock? s.date s.hour s.minute s.second (fractionNanos s.fraction) = some t ∧
      t.date = s.date ∧ t.seconds = s.seconds + s.zone.offset ∧ t.nano = s.nano := by
  have hhour := s.hour_lt
  have hminute := s.minute_lt
  have hsecond := s.second_le
  have hnano := fractionNanos_lt s.isDigit_fraction s.length_fraction_le
  unfold Instant.ofClock?
  split_ifs with hleap
  · obtain ⟨t, ht⟩ : ∃ t, Instant.of? s.date (s.hour * 3600 + s.minute * 60 + 59)
        (fractionNanos s.fraction + secondNanos) = some t :=
      Instant.exists_of? (by unfold daySeconds; omega) (by omega) (by omega)
    obtain ⟨hdate, hclock, hfraction⟩ := Instant.of?_eq_some ht
    refine ⟨t, ht, hdate, ?_, ?_⟩
    · rw [Instant.seconds, Stamp.seconds, hdate, hclock, hleap]
      omega
    · rw [hfraction, Stamp.nano, if_pos hleap]
  · obtain ⟨t, ht⟩ : ∃ t, Instant.of? s.date (s.hour * 3600 + s.minute * 60 + s.second)
        (fractionNanos s.fraction) = some t :=
      Instant.exists_of? (by unfold daySeconds; omega) (by omega) (by omega)
    obtain ⟨hdate, hclock, hfraction⟩ := Instant.of?_eq_some ht
    refine ⟨t, ht, hdate, ?_, ?_⟩
    · rw [Instant.seconds, Stamp.seconds, hdate, hclock, Nat.min_eq_left (by omega)]
      omega
    · rw [hfraction, Stamp.nano, if_neg hleap, Nat.add_zero]

/-- **A stamp is read as the instant at its place on the line**, with its nanoseconds, unless the
calendar ends in its year. -/
theorem read_text (s : Stamp) (h : yearMin < s.date.year ∧ s.date.year < yearMax) :
    ∃ t, read s.text = .ok t ∧ t.seconds = s.seconds ∧ t.nano = s.nano := by
  obtain ⟨l, hl, hdate, hseconds, hnano⟩ := exists_local s
  obtain ⟨hbound, hminutes⟩ := s.zone.offset_bound
  obtain ⟨t, ht⟩ := Instant.exists_sub (t := l) (by rwa [hdate]) hbound hminutes
  obtain ⟨htseconds, htnano⟩ := Instant.seconds_sub hbound ht
  refine ⟨t, ?_, by omega, htnano.trans hnano⟩
  simp only [read, readParts_text]
  change Parts.instant _ = _
  simp only [Parts.instant, Date.of?_fields, hl, if_pos hbound, ht]

end ProcTrace.Timestamp
